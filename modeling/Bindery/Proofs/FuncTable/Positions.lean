import Bindery.Proofs.Filter.Availability
import Bindery.Proofs.FuncTable.Fates
import Bindery.Proofs.Preparation
import Mathlib.Data.List.Pairwise

/-!
# Positions and order of slots

Overloads share a name, so a declared function is told by its class and its position in it. The
table is sorted by module, class and function. Its keys differ, since classes of a module have
different names and overloads of a class are renamed, so it is strictly increasing.

* `ClassInfo.boundAt?`: the function at a position, under the name that renaming gave it.
* `Schema.EntryAt`: a slot as that of the function at a position.
* `Schema.exists_entryAt`, `EntryAt.position_eq`: every slot is that of a position of a class, and
  of one only.
* `Schema.EntryAt.exists_listed`, `exists_entryAt_of_listed`: the positions that have slots are
  those of listed declarations.
* `Schema.NamesDiffer`: no two classes of a module share a name.
* `Schema.KeyOf`: what the key of a slot consists of.
* `Schema.separated_keys`, `entries_differ`: the order tells the keys of two slots apart.
* `Schema.funcTable_strict`: the table is strictly increasing.
* `funcTable_numbered_partition`: indices, order and fates together.
-/

namespace Bindery

/-! ## Positions in a filtered list -/

section Filtered

variable {α : Type} {keep : α → Bool}

/-- Where a member goes when a list is filtered: after the members before it that stay. -/
theorem getElem?_filter_of_keep {xs : List α} {i : Nat} {x : α} (hx : xs[i]? = some x)
    (hkeep : keep x = true) : (xs.filter keep)[(xs.take i).countP keep]? = some x := by
  obtain ⟨hi, rfl⟩ := List.getElem?_eq_some_iff.1 hx
  have hsplit : xs.filter keep =
      (xs.take i).filter keep ++ xs[i] :: (xs.drop (i + 1)).filter keep := by
    conv_lhs => rw [← List.take_append_drop i xs, List.drop_eq_getElem_cons hi]
    rw [List.filter_append, List.filter_cons_of_pos hkeep]
  rw [hsplit, List.countP_eq_length_filter, List.getElem?_append_right (Nat.le_refl _),
    Nat.sub_self, List.getElem?_cons_zero]

/-- Where a member of a filtered list comes from. -/
theorem exists_of_getElem?_filter {xs : List α} {k : Nat} {x : α}
    (hx : (xs.filter keep)[k]? = some x) :
    ∃ i, xs[i]? = some x ∧ keep x = true ∧ (xs.take i).countP keep = k := by
  induction xs generalizing k with
  | nil => cases hx
  | cons y rest ih =>
    cases hy : keep y with
    | false =>
      rw [List.filter_cons_of_neg (by simp [hy])] at hx
      obtain ⟨i, hi, hkeep, hcount⟩ := ih hx
      exact ⟨i + 1, hi, hkeep, by simp [hy, hcount]⟩
    | true =>
      rw [List.filter_cons_of_pos hy] at hx
      cases k with
      | zero => exact ⟨0, hx, Option.some.inj hx ▸ hy, rfl⟩
      | succ k =>
        obtain ⟨i, hi, hkeep, hcount⟩ := ih hx
        exact ⟨i + 1, hi, hkeep, by simp [hy, hcount]⟩

/-- Members that stay go to different places. -/
theorem position_eq_of_countP {xs : List α} {i j : Nat} {x y : α} (hx : xs[i]? = some x)
    (hy : xs[j]? = some y) (hkeepx : keep x = true) (hkeepy : keep y = true)
    (hcount : (xs.take i).countP keep = (xs.take j).countP keep) : i = j := by
  -- A member that stays is counted from the next position on.
  have hstep {i j : Nat} {x : α} (hx : xs[i]? = some x) (hkeep : keep x = true) (hij : i < j) :
      (xs.take i).countP keep < (xs.take j).countP keep := by
    have hnext : (xs.take (i + 1)).countP keep = (xs.take i).countP keep + 1 := by
      rw [List.take_add_one, hx, List.countP_append]
      simp [hkeep]
    have hmono : (xs.take (i + 1)).countP keep ≤ (xs.take j).countP keep :=
      (List.take_sublist_take_left hij).countP_le
    omega
  rcases Nat.lt_trichotomy i j with hij | hij | hij
  · exact absurd hcount (hstep hx hkeepx hij).ne
  · exact hij
  · exact absurd hcount (hstep hy hkeepy hij).ne'

end Filtered

/-! ## One class -/

namespace ClassInfo

variable (ctx : Context) (blocklist : Blocklist) (c : ClassInfo)

/-- Whether the first filter lets a function of the class pass. -/
def keeps (f : Function) : Bool :=
  (functionSkip? ctx blocklist c.name (c.funcs.map (·.name)) f).isNone

/-- The function at a position of the class under the name that renaming gave it. None if the
first filter does not let it pass. -/
def boundAt? (i : Nat) : Option Function := do
  let f ← c.funcs[i]?
  if c.keeps ctx blocklist f then
    (filterClass ctx blocklist c).1.funcs[(c.funcs.take i).countP (c.keeps ctx blocklist)]?
  else none

variable {ctx blocklist c}

theorem exists_boundAt? {i : Nat} {f : Function} (hf : c.funcs[i]? = some f)
    (hkeep : c.keeps ctx blocklist f = true) :
    ∃ g, c.boundAt? ctx blocklist i = some g ∧ f.Renames g ∧
      g ∈ (filterClass ctx blocklist c).1.funcs := by
  have hrenames : List.Forall₂ Function.Renames (c.funcs.filter (c.keeps ctx blocklist))
      (filterClass ctx blocklist c).1.funcs := renameOverloads_renames _
  obtain ⟨hk, hget⟩ := List.getElem?_eq_some_iff.1 (getElem?_filter_of_keep hf hkeep)
  have hlength := hrenames.length_eq
  refine ⟨(filterClass ctx blocklist c).1.funcs.get ⟨_, hlength ▸ hk⟩, ?_, ?_, List.get_mem _ _⟩
  · simp only [boundAt?, hf, Option.bind_eq_bind, Option.bind_some, hkeep, if_true]
    exact List.getElem?_eq_getElem _
  · have := hrenames.get hk (hlength ▸ hk)
    simpa only [List.get_eq_getElem, hget] using this

theorem of_boundAt? {i : Nat} {g : Function} (hg : c.boundAt? ctx blocklist i = some g) :
    ∃ f, c.funcs[i]? = some f ∧ c.keeps ctx blocklist f = true ∧ f.Renames g := by
  cases hf : c.funcs[i]? with
  | none => simp [boundAt?, hf] at hg
  | some f =>
    have hkeep : c.keeps ctx blocklist f = true := by
      by_contra hkeep
      simp [boundAt?, hf, hkeep] at hg
    obtain ⟨g', hg', hrenames, -⟩ := exists_boundAt? hf hkeep
    obtain rfl : g' = g := Option.some.inj (hg'.symm.trans hg)
    exact ⟨f, rfl, hkeep, hrenames⟩

/-- Renaming gives different positions different names. -/
theorem boundAt?_injective {i j : Nat} {g : Function} (hi : c.boundAt? ctx blocklist i = some g)
    (hj : c.boundAt? ctx blocklist j = some g) : i = j := by
  obtain ⟨f, hf, hkeepf, -⟩ := of_boundAt? hi
  obtain ⟨f', hf', hkeepf', -⟩ := of_boundAt? hj
  refine position_eq_of_countP hf hf' hkeepf hkeepf' ?_
  simp only [boundAt?, hf, hf', Option.bind_eq_bind, Option.bind_some, hkeepf, hkeepf',
    if_true] at hi hj
  obtain ⟨hki, hi⟩ := List.getElem?_eq_some_iff.1 hi
  obtain ⟨hkj, hj⟩ := List.getElem?_eq_some_iff.1 hj
  have hnodup : (filterClass ctx blocklist c).1.funcs.Nodup := (nodup_renameOverloads _).of_map _
  exact (hnodup.getElem_inj_iff).1 (hi.trans hj.symm)

theorem exists_position {g : Function} (hg : g ∈ (filterClass ctx blocklist c).1.funcs) :
    ∃ i, c.boundAt? ctx blocklist i = some g := by
  obtain ⟨k, hk, rfl⟩ := List.getElem_of_mem hg
  have hlength : (filterClass ctx blocklist c).1.funcs.length =
      (c.funcs.filter (c.keeps ctx blocklist)).length := length_renameOverloads _
  obtain ⟨i, hi, hkeep, hcount⟩ :=
    exists_of_getElem?_filter (List.getElem?_eq_getElem (hlength ▸ hk))
  refine ⟨i, ?_⟩
  simp only [boundAt?, hi, Option.bind_eq_bind, Option.bind_some, hkeep, if_true, hcount]
  exact List.getElem?_eq_getElem hk

end ClassInfo

/-! ## All classes -/

namespace Schema

/-- A slot of the table as that of the function at a position of an enabled class. -/
structure EntryAt (schema : Schema) (config : Config) (owner : ClassInfo) (i : Nat) (e : Entry) :
    Prop where
  mem : e ∈ (Prepared.of schema config).table
  enabled : (e.module, owner) ∈ schema.enabledClasses config
  slot : e.unnumbered ∈ classEntries (schema.unblocked config) e.module
    (filterClass (schema.unblocked config) config.blocklist owner).1
  bound : owner.boundAt? (schema.unblocked config) config.blocklist i = some e.func

variable {schema : Schema} {config : Config}

/-- The slots are those of the filtered classes, once they are numbered. -/
theorem mem_unnumbered_iff {e : Entry} :
    e ∈ (Prepared.of schema config).table.map Entry.unnumbered ↔
      ∃ c ∈ schema.enabledClasses config, e ∈ classEntries (schema.unblocked config) c.1
        (filterClass (schema.unblocked config) config.blocklist c.2).1 := by
  have hperm : ((Prepared.of schema config).table.map Entry.unnumbered).Perm _ :=
    Context.funcTable_perm.trans entries_perm
  rw [hperm.mem_iff, List.mem_flatMap]

/-- Every slot is that of a position. -/
theorem exists_entryAt {e : Entry} (he : e ∈ (Prepared.of schema config).table) :
    ∃ owner ∈ schema.classes, ∃ i, schema.EntryAt config owner i e := by
  obtain ⟨⟨m, owner⟩, henabled, hslot⟩ := mem_unnumbered_iff.1 (List.mem_map_of_mem he)
  obtain ⟨hmodule, -, hfunc⟩ := mem_classEntries hslot
  obtain rfl : e.module = m := hmodule
  obtain ⟨i, hi⟩ := ClassInfo.exists_position hfunc
  exact ⟨owner, (mem_enabledClasses.1 henabled).1, i, he, henabled, hslot, hi⟩

namespace EntryAt

variable {owner : ClassInfo} {i : Nat} {e : Entry}

/-- A slot is that of one position of a class. -/
theorem position_eq {j : Nat} (hi : schema.EntryAt config owner i e)
    (hj : schema.EntryAt config owner j e) : i = j :=
  ClassInfo.boundAt?_injective hi.bound hj.bound

theorem className_eq (h : schema.EntryAt config owner i e) : e.className = owner.name :=
  (mem_classEntries h.slot).2.1

theorem super_ne (h : schema.EntryAt config owner i e) : owner.super ≠ .text "Interface" := by
  intro hsuper
  have hslot := h.slot
  rw [classEntries, if_pos (show (filterClass _ _ owner).1.super = _ from hsuper)] at hslot
  cases hslot

/-- A position with a slot is that of a listed declaration. -/
theorem exists_listed (h : schema.EntryAt config owner i e) :
    ∃ f, owner.funcs[i]? = some f ∧ f.Renames e.func ∧
      (Declaration.mk e.module owner f).isListed schema config = true := by
  obtain ⟨f, hf, hkeep, hrenames⟩ := ClassInfo.of_boundAt? h.bound
  refine ⟨f, hf, hrenames, ?_⟩
  have hslot := h.slot
  rw [classEntries, if_neg (show (filterClass _ _ owner).1.super ≠ _ from h.super_ne)] at hslot
  obtain ⟨g, hg, heq⟩ := List.mem_map.1 hslot
  obtain rfl : g = e.func := congrArg Entry.func heq
  have htable := (List.mem_filter.1 hg).2
  rw [tableSkip?_congr hrenames.params] at htable
  exact Bool.and_eq_true_iff.2 ⟨hkeep, htable⟩

end EntryAt

/-- The position of a listed declaration has a slot. -/
theorem exists_entryAt_of_listed {module : String} {owner : ClassInfo} {i : Nat} {f : Function}
    (henabled : (module, owner) ∈ schema.enabledClasses config)
    (hsuper : owner.super ≠ .text "Interface") (hf : owner.funcs[i]? = some f)
    (hlisted : (Declaration.mk module owner f).isListed schema config = true) :
    ∃ e, schema.EntryAt config owner i e ∧ e.module = module ∧ f.Renames e.func := by
  obtain ⟨hkeep, htable⟩ := Bool.and_eq_true_iff.1 hlisted
  obtain ⟨g, hg, hrenames, hmem⟩ := ClassInfo.exists_boundAt? hf hkeep
  have hslot : owner.slot module g ∈ classEntries (schema.unblocked config) module
      (filterClass (schema.unblocked config) config.blocklist owner).1 := by
    rw [classEntries, if_neg (show (filterClass _ _ owner).1.super ≠ _ from hsuper)]
    refine List.mem_map.2 ⟨g, List.mem_filter.2 ⟨hmem, ?_⟩, rfl⟩
    rwa [tableSkip?_congr hrenames.params]
  obtain ⟨e, he, hunnumbered⟩ := List.mem_map.1 (mem_unnumbered_iff.2 ⟨_, henabled, hslot⟩)
  obtain rfl : e.module = module := congrArg Entry.module hunnumbered
  obtain rfl : e.func = g := congrArg Entry.func hunnumbered
  exact ⟨e, ⟨he, henabled, hunnumbered ▸ hslot, hg⟩, rfl, hrenames⟩

end Schema

/-! ## Order of the table -/

namespace Schema

/-- No two enabled classes of a module share a name. -/
def NamesDiffer (schema : Schema) (config : Config) : Prop :=
  (schema.enabledClasses config).Pairwise fun a b =>
    a.1 = b.1 → a.2.name.same b.2.name = false

variable {schema : Schema} {config : Config}

/-- The classes that a configuration enables come from the groups of the context. -/
theorem mem_members_of_enabled {c : String × ClassInfo}
    (hc : c ∈ schema.enabledClasses config) : c ∈ (schema.unblocked config).classes.members :=
  (Context.members_unblocked_perm schema config).mem_iff.2 hc

/-- Enabled classes are in the groups that were built before blocking. -/
theorem mem_members_build {c : String × ClassInfo} (hc : c ∈ schema.enabledClasses config) :
    c ∈ (Context.build schema config).classes.members := by
  have h := mem_members_of_enabled hc
  rw [unblocked, Context.members_unblocked] at h
  exact (List.mem_filter.1 h).1

/-- Names of classes of one module are told apart by their order. -/
theorem class_eq_of_rank_eq (hcheck : Check.build schema config = .ok ())
    {a b : String × ClassInfo} (ha : a ∈ schema.enabledClasses config)
    (hb : b ∈ schema.enabledClasses config) (hmodule : a.1 = b.1)
    (hrank : a.2.name.rank = b.2.name.rank) : a.2.name.same b.2.name = true := by
  obtain ⟨g, hg, hga, hgb⟩ := Groups.exists_group (Groups.nodup_modules _ _ _)
    (mem_members_build ha) (mem_members_build hb) hmodule
  have halike := Label.alike_of_comparable (Check.comparable_classes hcheck hg)
    (List.mem_map_of_mem hga) (List.mem_map_of_mem hgb)
  exact halike.same hrank

theorem class_eq_of_same (hnames : schema.NamesDiffer config)
    {a b : String × ClassInfo} (ha : a ∈ schema.enabledClasses config)
    (hb : b ∈ schema.enabledClasses config) (hmodule : a.1 = b.1)
    (hsame : a.2.name.same b.2.name = true) : a = b := by
  have hsymm : Std.Symm fun a b : String × ClassInfo =>
      a.1 = b.1 → a.2.name.same b.2.name = false :=
    ⟨fun a b h e => Label.same_comm a.2.name b.2.name ▸ h e.symm⟩
  by_contra hne
  have := hnames.forall ha hb hne hmodule
  simp [hsame] at this

/-! ## Keys -/

/-- The key of a slot: the module and the name of an enabled class, and a text. -/
structure KeyOf (schema : Schema) (config : Config) (e : Entry) (c : String × ClassInfo) :
    Prop where
  mem : c ∈ schema.enabledClasses config
  module : e.module = c.1
  className : e.className = c.2.name
  funcName : e.funcName.isText = true

/-- Functions that pass the first filter have texts for names. -/
theorem isText_of_kept (hcheck : Check.filter (Context.build schema config) config.blocklist =
      .ok ()) {c : String × ClassInfo} (hc : c ∈ schema.enabledClasses config) {f : Function}
    (hf : f ∈ c.2.funcs) (hbindable : functionSkip? (schema.unblocked config) config.blocklist
      c.2.name (c.2.funcs.map (·.name)) f = none) : f.name.isText = true := by
  obtain ⟨group, hgroup, -, hcg⟩ := Groups.mem_members.1 (mem_members_of_enabled hc)
  exact Check.isText_of_bindable (Check.function_of_filter hcheck hgroup hcg hf) hbindable

/-- So they have under the names that renaming gives them. -/
theorem isText_of_renamed (hcheck : Check.filter (Context.build schema config) config.blocklist =
      .ok ()) {c : String × ClassInfo} (hc : c ∈ schema.enabledClasses config) {g : Function}
    (hg : g ∈ (filterClass (schema.unblocked config) config.blocklist c.2).1.funcs) :
    g.name.isText = true := by
  obtain ⟨f, hf, hfg⟩ := exists_of_mem_right (renameOverloads_renames _) hg
  obtain ⟨hmem, hbindable⟩ := List.mem_filter.1 hf
  exact hfg.isText (isText_of_kept hcheck hc hmem (Option.isNone_iff_eq_none.1 hbindable))

theorem exists_keyOf (hcheck : Check.filter (Context.build schema config) config.blocklist =
      .ok ()) {e : Entry} (he : e ∈ (Prepared.of schema config).context.entries) :
    ∃ c, KeyOf schema config e c := by
  obtain ⟨c, hc, he⟩ := List.mem_flatMap.1 (entries_perm.mem_iff.1 he)
  obtain ⟨hmodule, hclass, hfunc⟩ := mem_classEntries he
  exact ⟨c, hc, hmodule, hclass, isText_of_renamed hcheck hc hfunc⟩

/-- The keys of two slots differ first at a place where the order tells them apart. -/
theorem separated_keys (hnames : schema.NamesDiffer config)
    (hcheck : Check.build schema config = .ok ()) {e e' : Entry} {c c' : String × ClassInfo}
    (h : KeyOf schema config e c) (h' : KeyOf schema config e' c') :
    Label.Separated e.key e'.key := by
  refine ⟨Label.eq_of_same rfl rfl, Label.eq_of_rank_eq rfl rfl, fun hmodule => ?_⟩
  have hmodule : c.1 = c'.1 := by
    rw [← h.module, ← h'.module]
    exact Document.text.inj hmodule
  have hclass : e.className.same e'.className = true → e.className = e'.className := by
    intro hs
    rw [h.className, h'.className] at hs ⊢
    rw [class_eq_of_same hnames h.mem h'.mem hmodule hs]
  refine ⟨hclass, fun hrank => hclass ?_, fun _ => ?_⟩
  · rw [h.className, h'.className] at hrank ⊢
    exact class_eq_of_rank_eq hcheck h.mem h'.mem hmodule hrank
  · exact ⟨Label.eq_of_same h.funcName h'.funcName, Label.eq_of_rank_eq h.funcName h'.funcName,
      fun _ => trivial⟩

/-- No two slots have the same key. -/
theorem entries_differ (hnames : schema.NamesDiffer config) :
    (Prepared.of schema config).context.entries.Pairwise fun a b => a.key ≠ b.key := by
  refine (entries_perm.pairwise_iff fun h e => h e.symm).2 (List.pairwise_flatMap.2 ⟨?_, ?_⟩)
  · intro c hc
    unfold classEntries
    split
    · exact .nil
    have hfuncs := List.pairwise_map.1 (nodup_renameOverloads
      (c.2.funcs.filter fun f => (functionSkip? (schema.unblocked config) config.blocklist
        c.2.name (c.2.funcs.map (·.name)) f).isNone))
    refine List.pairwise_map.2 ((hfuncs.filter _).imp fun hne he => hne ?_)
    simpa [Entry.key, Entry.funcName] using he
  · refine hnames.imp fun {a b} hne e he e' he' hkey => ?_
    obtain ⟨hmodule, hclass, -⟩ := mem_classEntries he
    obtain ⟨hmodule', hclass', -⟩ := mem_classEntries he'
    simp only [Entry.key, List.cons.injEq, Document.text.injEq] at hkey
    have hsame := hne (hmodule.symm.trans (hkey.1.trans hmodule'))
    rw [show a.2.name = b.2.name from hclass.symm.trans (hkey.2.1.trans hclass'),
      Label.same_self] at hsame
    cases hsame

/-- The table is strictly increasing. -/
theorem funcTable_strict (hnames : schema.NamesDiffer config)
    (hbuild : Check.build schema config = .ok ())
    (hfilter : Check.filter (Context.build schema config) config.blocklist = .ok ()) :
    (Prepared.of schema config).table.Pairwise fun a b => Label.listLT a.key b.key := by
  have hsorted := Label.sortOnList_strict
    (fun e he e' he' => separated_keys hnames hbuild (exists_keyOf hfilter he).choose_spec
      (exists_keyOf hfilter he').choose_spec) (entries_differ hnames)
  rw [← Context.map_unnumbered_funcTable, List.pairwise_map] at hsorted
  exact hsorted

end Schema

/-- In the function table of a schema in which no two classes of a module share a name, indices are
dense and keys strictly increasing; and every function that an enabled class declares, interfaces
apart, ends in one slot or in one record. -/
theorem funcTable_numbered_partition (schema : Schema) (config : Config)
    (hnames : schema.NamesDiffer config) (hprepare : Check.prepare schema config = .ok ()) :
    let p := Prepared.of schema config
    (∀ i (h : i < p.table.length), p.table[i].id = i) ∧
    (p.table.Pairwise fun a b => Label.listLT a.key b.key) ∧
    ∃ fates : List (Declaration × Fate),
      (fates.map (·.1)).Perm (schema.declarations config) ∧
      (∀ x ∈ fates, x.2.Of (schema.unblocked config) config.blocklist x.1) ∧
      ((fates.map (·.2)).filterMap Fate.slot?).Perm (p.table.map Entry.unnumbered) ∧
      ((fates.map (·.2)).filterMap Fate.skip? ++ schema.otherSkips config).Perm p.skips := by
  rw [Check.prepare, Check.bind_eq_ok_iff] at hprepare
  obtain ⟨hbuild, hrest⟩ := hprepare
  have hfilter := (Check.bind_eq_ok_iff.1 hrest).1
  exact ⟨fun i h => Prepared.table_id h, Schema.funcTable_strict hnames hbuild hfilter,
    schema.fates config, Schema.fates_declarations, fun x hx => Schema.fates_of hx,
    Schema.fates_slots, Schema.fates_skips⟩

/-! ## Two classes -/

/-- A class with an overloaded function and one that is not native. -/
def overloadedClass : ClassInfo :=
  { name := .text "Pawn", cppName := .text "APawn", package := .text "Engine"
    funcs := [{ name := .text "Jump", flags := 1024 }, { name := .text "Land" },
      { name := .text "Jump", flags := 1024 }] }

/-- Two classes of one module. -/
def overloadedSchema : Schema :=
  { classes := [
      { name := .text "Actor", cppName := .text "AActor", package := .text "Engine"
        funcs := [{ name := .text "Jump", flags := 1024 }] },
      overloadedClass] }

def overloadedConfig : Config :=
  { features := ["core"], modules := [⟨"Engine", .text "engine", .text "core"⟩] }

/-- The context of the two classes. -/
def overloadedContext : Context :=
  { packages := [("Engine", .text "engine")], features := [(.text "engine", .text "core")]
    enabled := ["engine"], classes := [("engine", overloadedSchema.classes)]
    classIndex := overloadedSchema.classes }

theorem build_overloaded :
    Context.build overloadedSchema overloadedConfig = overloadedContext :=
  Context.build_of_one_module rfl rfl (by decide) (by decide) (by decide)

theorem prepare_overloaded : Check.prepare overloadedSchema overloadedConfig = .ok () := by
  have horder : (overloadedContext.filtered overloadedConfig.blocklist).1.classesInOrder =
      (overloadedContext.filtered overloadedConfig.blocklist).1.classes.members :=
    Context.classesInOrder_of_singleton rfl
  rw [Check.prepare, Check.build, build_overloaded]
  dsimp only
  rw [Check.table, horder]
  rfl

/-- Both classes have a function `Jump`, one of them twice. -/
theorem funcTable_numbered_partition_overloaded :
    overloadedSchema.NamesDiffer overloadedConfig ∧
    Check.prepare overloadedSchema overloadedConfig = .ok () ∧
    (Prepared.of overloadedSchema overloadedConfig).table.Pairwise fun a b =>
      Label.listLT a.key b.key := by
  have hnames : overloadedSchema.NamesDiffer overloadedConfig := by
    unfold Schema.NamesDiffer
    decide
  exact ⟨hnames, prepare_overloaded,
    (funcTable_numbered_partition _ _ hnames prepare_overloaded).2.1⟩

end Bindery
