import Bindery.Proofs.Filter.OverloadNames
import Bindery.Proofs.FuncTable.Positions
import Bindery.Proofs.Preparation
import Bindery.Proofs.Reorder.Functions
import Bindery.Proofs.Verification

/-!
# Slots and the order of overloads

Overloads are numbered among the functions that pass the first filter, but the table leaves out some
of those. Which functions have slots does not depend on the order in which a class declares them,
and neither does the class that an index belongs to. The names can depend on it, if the table leaves
out one overload and keeps another one.

* `Entry.rank`, `Schema.pairwise_rank`: the order of slots as a linear one.
* `Schema.OverloadsTogether`: no class has an overload that is left out and one that is kept.
* `Schema.Shuffled.forall₂_samePlace`, `forall₂_sameName`: what the tables of shuffled schemas have
  in common.
* `Schema.overloadsTogether_of_sameName`: overloads that part change names in some order.
* `slots_of_shuffled`: all of it together.
* `parting_overloads_change_names`: two overloads that part.
-/

namespace Bindery

/-! ## Ranks of slots -/

/-- Two lists in order have the same ranks in the same places if they have the same ranks. -/
theorem map_eq_of_sorted {α β : Type} [LinearOrder β] {rank : α → β} {xs ys : List α}
    (hperm : (xs.map rank).Perm (ys.map rank)) (hxs : xs.Pairwise fun a b => rank a ≤ rank b)
    (hys : ys.Pairwise fun a b => rank a ≤ rank b) : xs.map rank = ys.map rank :=
  hperm.eq_of_pairwise (fun _ _ _ _ hab hba => le_antisymm hab hba) (List.pairwise_map.2 hxs)
    (List.pairwise_map.2 hys)

/-- Labels of which the ranks say whether they are the same decide a comparison by their ranks. -/
theorem Label.listLE_cons_iff {a b : Label} (h : a.rank = b.rank → a.same b = true)
    {as bs : List Label} :
    listLE (a :: as) (b :: bs) = true ↔
      a.rank < b.rank ∨ a.rank = b.rank ∧ listLE as bs = true := by
  rw [listLE]
  by_cases hrank : a.rank = b.rank
  · simp [h hrank, hrank]
  · have hsame : a.same b = false := by
      rw [Bool.eq_false_iff]
      intro hsame
      rcases same_iff.1 hsame with rfl | ⟨-, -, he⟩
      · exact hrank rfl
      · exact hrank he
    rw [hsame, if_neg Bool.false_ne_true, le_iff, le_iff_lt_or_eq]
    simp [hrank]

/-- Where the module and the class of a slot stand in the order of slots. -/
def Entry.classRank (e : Entry) :
    (ℚ ⊕ₗ (List ℕ ×ₗ String)) ×ₗ (ℚ ⊕ₗ (List ℕ ×ₗ String)) :=
  toLex (Label.rank (.text e.module), e.className.rank)

/-- Where a slot stands in the order of slots. -/
def Entry.rank (e : Entry) :
    (ℚ ⊕ₗ (List ℕ ×ₗ String)) ×ₗ (ℚ ⊕ₗ (List ℕ ×ₗ String)) ×ₗ (ℚ ⊕ₗ (List ℕ ×ₗ String)) :=
  toLex (Label.rank (.text e.module), toLex (e.className.rank, e.funcName.rank))

theorem Entry.classRank_le {e e' : Entry} (h : e.rank ≤ e'.rank) : e.classRank ≤ e'.classRank := by
  simp only [rank, classRank, Prod.Lex.toLex_le_toLex] at h ⊢
  rcases h with hmodule | ⟨hmodule, hclass | ⟨hclass, -⟩⟩
  · exact .inl hmodule
  · exact .inr ⟨hmodule, hclass.le⟩
  · exact .inr ⟨hmodule, hclass.le⟩

namespace Schema

variable {schema : Schema} {config : Config}

theorem key_le_iff (hbuild : Check.build schema config = .ok ()) {e e' : Entry}
    {c c' : String × ClassInfo} (h : KeyOf schema config e c) (h' : KeyOf schema config e' c') :
    Label.listLE e.key e'.key = true ↔ e.rank ≤ e'.rank := by
  have htext {a b : Label} (ha : a.isText = true) (hb : b.isText = true) (hrank : a.rank = b.rank) :
      a.same b = true := Label.eq_of_rank_eq ha hb hrank ▸ Label.same_self a
  rw [Entry.key, Entry.key, Label.listLE_cons_iff (htext rfl rfl), Entry.rank, Entry.rank,
    Prod.Lex.toLex_le_toLex]
  refine or_congr_right (and_congr_right fun hmodule => ?_)
  have hmodule : c.1 = c'.1 := by
    rw [← h.module, ← h'.module]
    exact Document.text.inj (Label.eq_of_rank_eq rfl rfl hmodule)
  have hclass (hrank : e.className.rank = e'.className.rank) :
      e.className.same e'.className = true := by
    rw [h.className, h'.className] at hrank ⊢
    exact class_eq_of_rank_eq hbuild h.mem h'.mem hmodule hrank
  rw [Label.listLE_cons_iff hclass, Prod.Lex.toLex_le_toLex]
  refine or_congr_right (and_congr_right fun _ => ?_)
  rw [Label.listLE_cons_iff (htext h.funcName h'.funcName)]
  simp [Label.listLE, le_iff_lt_or_eq]

/-- What the key of a slot of the table consists of. -/
theorem exists_keyOf_table
    (hfilter : Check.filter (Context.build schema config) config.blocklist = .ok ()) {e : Entry}
    (he : e ∈ (Prepared.of schema config).table) : ∃ c, KeyOf schema config e c := by
  obtain ⟨c, hc⟩ := exists_keyOf hfilter
    (Context.funcTable_perm.mem_iff.1 (List.mem_map_of_mem (f := Entry.unnumbered) he))
  exact ⟨c, hc.mem, hc.module, hc.className, hc.funcName⟩

/-- The table is in the order of ranks. -/
theorem pairwise_rank (hbuild : Check.build schema config = .ok ())
    (hfilter : Check.filter (Context.build schema config) config.blocklist = .ok ()) :
    (Prepared.of schema config).table.Pairwise fun e e' => e.rank ≤ e'.rank := by
  have hle : ∀ e ∈ (Prepared.of schema config).context.entries,
      ∀ e' ∈ (Prepared.of schema config).context.entries,
      Label.listLE e.key e'.key = true ↔ e.rank ≤ e'.rank := fun e he e' he' =>
    key_le_iff hbuild (exists_keyOf hfilter he).choose_spec (exists_keyOf hfilter he').choose_spec
  have hsorted := pairwise_mergeSort_of_mem
    (fun a ha b hb c hc hab hbc => (hle a ha c hc).2
      (((hle a ha b hb).1 hab).trans ((hle b hb c hc).1 hbc)))
    (fun a ha b hb => by simpa [hle a ha b hb, hle b hb a ha] using le_total a.rank b.rank)
  have hranks : (Label.sortOnList Entry.key (Prepared.of schema config).context.entries).Pairwise
      fun e e' => e.rank ≤ e'.rank := by
    refine hsorted.imp_of_mem fun ha hb hab => (hle _ ?_ _ ?_).1 hab
    · exact (List.mergeSort_perm _ _).mem_iff.1 ha
    · exact (List.mergeSort_perm _ _).mem_iff.1 hb
  rw [← Context.map_unnumbered_funcTable, List.pairwise_map] at hranks
  exact hranks

end Schema

/-! ## Slots of shuffled schemas -/

/-- Two slots with one index, for classes of one name in one module. -/
structure Entry.SamePlace (e e' : Entry) : Prop where
  id : e.id = e'.id
  module : e.module = e'.module
  className : e.className.same e'.className = true

/-- Two slots at one place, for functions of one name. -/
structure Entry.SameName (e e' : Entry) : Prop extends e.SamePlace e' where
  funcName : e.funcName = e'.funcName

/-- In no class does the table leave out one function that passed the first filter and keep
another one of its name. -/
def Schema.OverloadsTogether (schema : Schema) (config : Config) : Prop :=
  ∀ c ∈ schema.enabledClasses config, c.2.super ≠ .text "Interface" →
    ∀ f ∈ schema.passed config c.2, ∀ f' ∈ schema.passed config c.2, f.name = f'.name →
      (tableSkip? (schema.unblocked config) f).isNone =
        (tableSkip? (schema.unblocked config) f').isNone

instance (schema : Schema) (config : Config) : Decidable (schema.OverloadsTogether config) :=
  inferInstanceAs (Decidable (∀ c ∈ schema.enabledClasses config, _ → ∀ f ∈ _, ∀ f' ∈ _, _ → _))

theorem forall₂_of_map_eq {α β : Type} {R : α → α → Prop} {f : α → β} {xs ys : List α}
    (h : xs.map f = ys.map f)
    (hR : ∀ i (hi : i < xs.length) (hi' : i < ys.length), f xs[i] = f ys[i] → R xs[i] ys[i]) :
    List.Forall₂ R xs ys := by
  have hlength : xs.length = ys.length := by simpa using congrArg List.length h
  refine List.forall₂_iff_get.2 ⟨hlength, fun i hi hi' => hR i hi hi' ?_⟩
  have hget := List.getElem_of_eq h (by simpa using hi)
  simpa using hget

namespace Schema

variable (schema : Schema) (config : Config)

/-- The slots of a class, in the context of a schema that need not be its own. -/
def classSlots (c : String × ClassInfo) : List Entry :=
  classEntries (schema.unblocked config) c.1
    (filterClass (schema.unblocked config) config.blocklist c.2).1

/-- The names of functions that have a slot once overloads are renamed. -/
def listedNames (fs : List Function) : List Label :=
  ((renameOverloads fs).filter fun f => (tableSkip? (schema.unblocked config) f).isNone).map
    (·.name)

variable {schema config}

/-- The ranks of the slots of a class by the names of its functions. -/
theorem map_rank_classSlots (m : String) (c : ClassInfo) :
    (schema.classSlots config (m, c)).map Entry.rank =
      if c.super = .text "Interface" then [] else
        (schema.listedNames config (schema.passed config c)).map fun name =>
          toLex (Label.rank (.text m), toLex (c.name.rank, name.rank)) := by
  have hsuper : (filterClass (schema.unblocked config) config.blocklist c).1.super = c.super := rfl
  rw [classSlots, classEntries, hsuper]
  split
  · rfl
  · rw [listedNames, List.map_map, List.map_map]
    rfl

theorem isText_of_passed
    (hfilter : Check.filter (Context.build schema config) config.blocklist = .ok ())
    {c : String × ClassInfo} (hc : c ∈ schema.enabledClasses config) :
    ∀ f ∈ schema.passed config c.2, f.name.isText = true := fun f hf => by
  obtain ⟨hmem, hkeep⟩ := List.mem_filter.1 hf
  exact isText_of_kept hfilter hc hmem (Option.isNone_iff_eq_none.1 hkeep)

theorem isNone_tableSkip?_of_renames (f g : Function) (h : f.Renames g) :
    (tableSkip? (schema.unblocked config) g).isNone =
      (tableSkip? (schema.unblocked config) f).isNone := by
  rw [tableSkip?_congr h.params]

end Schema

namespace Schema.Shuffled

variable {s t : Schema} (h : s.Shuffled t) {config : Config}

include h

/-- The ranks of the slots of one schema in the context of the other. -/
theorem map_rank_table :
    ((Prepared.of t config).table.map Entry.rank).Perm
      ((t.enabledClasses config).flatMap fun c => (s.classSlots config c).map Entry.rank) := by
  refine (Schema.map_table_perm fun _ => rfl).trans (.of_eq ?_)
  unfold Schema.classSlots
  rw [Schema.slots, List.map_flatMap, (h.agrees config).filterClass, (h.agrees config).classEntries]

/-- The ranks are the same if no class has overloads that part. -/
theorem map_rank_perm
    (hfilter : Check.filter (Context.build s config) config.blocklist = .ok ())
    (htogether : s.OverloadsTogether config) :
    ((Prepared.of s config).table.map Entry.rank).Perm
      ((Prepared.of t config).table.map Entry.rank) := by
  refine (Shuffled.refl s).map_rank_table.trans (.trans ?_ h.map_rank_table.symm)
  refine perm_flatMap_of_forall₂ (h.enabledClasses config) fun ⟨m, c⟩ hmem ⟨m', c'⟩ _ hcc' => ?_
  obtain ⟨rfl, hc⟩ : m = m' ∧ c.Shuffled c' := hcc'
  rw [Schema.map_rank_classSlots, Schema.map_rank_classSlots, hc.super]
  split
  · exact .nil
  · next hsuper =>
    rw [hc.name, Schema.listedNames, Schema.listedNames]
    refine (renameOverloads_filter_perm ((Shuffled.refl s).passed hc config)
      (Schema.isText_of_passed hfilter hmem) Schema.isNone_tableSkip?_of_renames
      (htogether _ hmem (hc.super ▸ hsuper))).map _

variable (hprepare : Check.prepare s config = .ok ())

include hprepare

theorem samePlace {e e' : Entry} (he : e ∈ (Prepared.of s config).table)
    (he' : e' ∈ (Prepared.of t config).table) (hid : e.id = e'.id)
    (hrank : e.classRank = e'.classRank) : e.SamePlace e' := by
  obtain ⟨hbuild, hfilter, -⟩ := Check.prepare_eq_ok_iff.1 hprepare
  obtain ⟨-, hfilter', -⟩ := Check.prepare_eq_ok_iff.1 (Check.prepare_shuffled h hprepare)
  obtain ⟨c, hc⟩ := Schema.exists_keyOf_table hfilter he
  obtain ⟨c', hc'⟩ := Schema.exists_keyOf_table hfilter' he'
  obtain ⟨d, hd, hmodule, hname⟩ := exists_of_mem_right (h.enabledClasses config) hc'.mem
  obtain ⟨hmodules, hclasses⟩ := Prod.ext_iff.1 (toLex.injective hrank)
  have hmodules : e.module = e'.module := Document.text.inj (Label.eq_of_rank_eq rfl rfl hmodules)
  have hclass : e'.className = d.2.name := hc'.className.trans hname.name.symm
  refine ⟨hid, hmodules, ?_⟩
  rw [hc.className, hclass]
  refine Schema.class_eq_of_rank_eq hbuild hc.mem hd ?_ ?_
  · rw [← hc.module, hmodules, hc'.module, hmodule]
  · rw [← hc.className, ← hclass]
    exact hclasses

/-- The slots at one index belong to the same class. -/
theorem forall₂_samePlace :
    List.Forall₂ Entry.SamePlace (Prepared.of s config).table (Prepared.of t config).table := by
  obtain ⟨hbuild, hfilter, -⟩ := Check.prepare_eq_ok_iff.1 hprepare
  obtain ⟨hbuild', hfilter', -⟩ := Check.prepare_eq_ok_iff.1 (Check.prepare_shuffled h hprepare)
  have hperm : ((Prepared.of s config).table.map Entry.classRank).Perm
      ((Prepared.of t config).table.map Entry.classRank) := by
    have hslots : ((Prepared.of s config).table.map Entry.asDeclared).Perm
        ((Prepared.of t config).table.map Entry.asDeclared) := h.table_perm
    have hranks := hslots.map Entry.classRank
    rwa [List.map_map, List.map_map] at hranks
  refine forall₂_of_map_eq (map_eq_of_sorted hperm
    ((Schema.pairwise_rank hbuild hfilter).imp Entry.classRank_le)
    ((Schema.pairwise_rank hbuild' hfilter').imp Entry.classRank_le)) fun i hi hi' hrank => ?_
  refine h.samePlace hprepare (List.getElem_mem hi) (List.getElem_mem hi') ?_ hrank
  rw [Prepared.table_id, Prepared.table_id]

/-- The slots at one index have the same names if no class has overloads that part. -/
theorem forall₂_sameName (htogether : s.OverloadsTogether config) :
    List.Forall₂ Entry.SameName (Prepared.of s config).table (Prepared.of t config).table := by
  obtain ⟨hbuild, hfilter, -⟩ := Check.prepare_eq_ok_iff.1 hprepare
  obtain ⟨hbuild', hfilter', -⟩ := Check.prepare_eq_ok_iff.1 (Check.prepare_shuffled h hprepare)
  refine forall₂_of_map_eq (map_eq_of_sorted (h.map_rank_perm hfilter htogether)
    (Schema.pairwise_rank hbuild hfilter) (Schema.pairwise_rank hbuild' hfilter'))
    fun i hi hi' hrank => ?_
  obtain ⟨hmodule, hrest⟩ := Prod.ext_iff.1 (toLex.injective hrank)
  obtain ⟨hclass, hfunc⟩ := Prod.ext_iff.1 (toLex.injective hrest)
  obtain ⟨c, hc⟩ := Schema.exists_keyOf_table hfilter (List.getElem_mem hi)
  obtain ⟨c', hc'⟩ := Schema.exists_keyOf_table hfilter' (List.getElem_mem hi')
  refine ⟨h.samePlace hprepare (List.getElem_mem hi) (List.getElem_mem hi') ?_ ?_,
    Label.eq_of_rank_eq hc.funcName hc'.funcName hfunc⟩
  · rw [Prepared.table_id, Prepared.table_id]
  · exact congrArg toLex (Prod.ext hmodule hclass)

end Schema.Shuffled

/-! ## Overloads that part -/

/-- The class with one of its functions before the others. -/
def ClassInfo.withFirst (c : ClassInfo) (f : Function) : ClassInfo :=
  { c with funcs := f :: c.funcs.erase f }

theorem ClassInfo.shuffled_withFirst {c : ClassInfo} {f : Function} (hf : f ∈ c.funcs) :
    c.Shuffled (c.withFirst f) :=
  ⟨rfl, List.perm_cons_erase hf⟩

theorem Entry.SameName.rank_eq {e e' : Entry} (h : e.SameName e') : e.rank = e'.rank := by
  have hclass : e.className.rank = e'.className.rank := by
    rcases Label.same_iff.1 h.className with he | ⟨-, -, he⟩
    · rw [he]
    · exact he
  rw [Entry.rank, Entry.rank, h.module, h.funcName, hclass]

namespace Schema

variable {s : Schema} {config : Config}

/-- The ranks of the slots of a class one of whose functions comes first. -/
theorem map_rank_withFirst {c : ClassInfo} (hsuper : c.super ≠ .text "Interface") {f : Function}
    (hf : f ∈ s.passed config c) (m : String) :
    (s.classSlots config (m, c.withFirst f)).map Entry.rank =
      (s.listedNames config (f :: (c.funcs.erase f).filter
        (c.keeps (s.unblocked config) config.blocklist))).map fun name =>
          toLex (Label.rank (.text m), toLex (c.name.rank, name.rank)) := by
  obtain ⟨hmem, hkeep⟩ := List.mem_filter.1 hf
  have hkeeps : (c.withFirst f).keeps (s.unblocked config) config.blocklist =
      c.keeps (s.unblocked config) config.blocklist :=
    ((ClassInfo.shuffled_withFirst hmem).keeps (.refl _) _).symm
  have hsuper : (c.withFirst f).super ≠ .text "Interface" := hsuper
  have hfuncs : (c.withFirst f).funcs = f :: c.funcs.erase f := rfl
  rw [map_rank_classSlots, if_neg hsuper, passed, hkeeps, hfuncs, List.filter_cons_of_pos hkeep]
  rfl

/-- An enabled class can have any of its functions first while the other classes stay as they
are. -/
theorem exists_withFirst {c : String × ClassInfo} (hc : c ∈ s.enabledClasses config) :
    ∃ before after, ∀ f ∈ c.2.funcs, ∃ t, s.Shuffled t ∧
      t.enabledClasses config = before ++ (c.1, c.2.withFirst f) :: after := by
  obtain ⟨m, c⟩ := c
  obtain ⟨hmem, hblocked, hmodule⟩ := mem_enabledClasses.1 hc
  obtain ⟨before, after, hsplit⟩ := List.append_of_mem hmem
  let enabled : List ClassInfo → List (String × ClassInfo) := fun cs =>
    (cs.filter fun c => !c.name.isOneOf config.blocklist.classes).filterMap fun c =>
      (Context.enabledModule? (Context.packagesOf s config) (Context.enabledModules config)
        c.package).map (·, c)
  refine ⟨enabled before, enabled after, fun f hf => ?_⟩
  have hclasses : List.Forall₂ ClassInfo.Shuffled s.classes
      (before ++ c.withFirst f :: after) := by
    rw [hsplit]
    exact List.rel_append (List.forall₂_same.2 fun c _ => .refl c)
      (.cons (ClassInfo.shuffled_withFirst hf) (List.forall₂_same.2 fun c _ => .refl c))
  have hshuffled : s.Shuffled { s with classes := before ++ c.withFirst f :: after } :=
    ⟨hclasses, rfl, rfl⟩
  refine ⟨_, hshuffled, ?_⟩
  rw [enabledClasses, ← hshuffled.packagesOf]
  have hfirst : enabled (c.withFirst f :: after) = (m, c.withFirst f) :: enabled after := by
    have hblocked' : (c.withFirst f).name.isOneOf config.blocklist.classes = false := hblocked
    have hmodule' : Context.enabledModule? (Context.packagesOf s config)
        (Context.enabledModules config) (c.withFirst f).package = some m := hmodule
    simp only [enabled]
    rw [List.filter_cons_of_pos (by rw [hblocked']; rfl), List.filterMap_cons, hmodule']
    rfl
  rw [← hfirst]
  simp only [enabled, List.filter_append, List.filterMap_append]

/-- If the names of slots do not depend on the order of functions, a class has the same ranks of
slots whichever function it has first, since all other classes keep theirs. -/
theorem map_rank_withFirst_perm {c : String × ClassInfo} (hc : c ∈ s.enabledClasses config)
    (hall : ∀ t, s.Shuffled t →
      List.Forall₂ Entry.SameName (Prepared.of s config).table (Prepared.of t config).table)
    {f f' : Function} (hf : f ∈ c.2.funcs) (hf' : f' ∈ c.2.funcs) :
    ((s.classSlots config (c.1, c.2.withFirst f)).map Entry.rank).Perm
      ((s.classSlots config (c.1, c.2.withFirst f')).map Entry.rank) := by
  obtain ⟨before, after, hfirst⟩ := exists_withFirst hc
  obtain ⟨t, ht, henabled⟩ := hfirst f hf
  obtain ⟨t', ht', henabled'⟩ := hfirst f' hf'
  have hranks : (Prepared.of t config).table.map Entry.rank =
      (Prepared.of t' config).table.map Entry.rank :=
    (map_eq_of_forall₂ (hall t ht) fun _ _ h => h.rank_eq).symm.trans
      (map_eq_of_forall₂ (hall t' ht') fun _ _ h => h.rank_eq)
  have hslots := ht.map_rank_table.symm.trans (.trans (.of_eq hranks) ht'.map_rank_table)
  simp only [henabled, henabled', List.flatMap_append, List.flatMap_cons] at hslots
  exact (List.perm_append_right_iff _).1 ((List.perm_append_left_iff _).1 hslots)

theorem isText_of_mem_listedNames {fs : List Function} (htexts : ∀ f ∈ fs, f.name.isText = true)
    {name : Label} (h : name ∈ s.listedNames config fs) : name.isText = true := by
  obtain ⟨g, hg, rfl⟩ := List.mem_map.1 h
  obtain ⟨f, hf, hrenames⟩ :=
    exists_of_mem_right (renameOverloads_renames _) (List.mem_filter.1 hg).1
  exact hrenames.isText (htexts f hf)

/-- If the names of slots do not depend on the order of functions, overloads stay together: a class
with either of two overloads first has a slot for that name if it has one for that overload. -/
theorem overloadsTogether_of_sameName
    (hfilter : Check.filter (Context.build s config) config.blocklist = .ok ())
    (hall : ∀ t, s.Shuffled t →
      List.Forall₂ Entry.SameName (Prepared.of s config).table (Prepared.of t config).table) :
    s.OverloadsTogether config := by
  intro c hc hsuper f hf f' hf' hname
  have htexts := isText_of_passed hfilter hc
  -- With `f` first the class has a slot under their name, so it has one with `f'` first, too.
  have hlisted : ∀ f ∈ s.passed config c.2, ∀ f' ∈ s.passed config c.2, f.name = f'.name →
      (tableSkip? (s.unblocked config) f).isNone = true →
      (tableSkip? (s.unblocked config) f').isNone = true := by
    intro f hf f' hf' hname hlisted
    have hranks :=
      map_rank_withFirst_perm hc hall (List.mem_filter.1 hf).1 (List.mem_filter.1 hf').1
    rw [map_rank_withFirst hsuper hf, map_rank_withFirst hsuper hf'] at hranks
    obtain ⟨name, hleft, hrank⟩ := List.mem_map.1 (hranks.mem_iff.1 (List.mem_map_of_mem
      ((mem_renameOverloads_filter_iff isNone_tableSkip?_of_renames).2 hlisted)))
    have hrank : name.rank = f.name.rank :=
      (Prod.ext_iff.1 (toLex.injective (Prod.ext_iff.1 (toLex.injective hrank)).2)).2
    have htext : name.isText = true := by
      refine isText_of_mem_listedNames (fun g hg => ?_) hleft
      rcases List.mem_cons.1 hg with rfl | hg
      · exact htexts _ hf'
      · obtain ⟨herase, hkeep⟩ := List.mem_filter.1 hg
        exact htexts g (List.mem_filter.2 ⟨List.mem_of_mem_erase herase, hkeep⟩)
    obtain rfl : name = f'.name :=
      (Label.eq_of_rank_eq htext (htexts f hf) hrank).trans hname
    exact (mem_renameOverloads_filter_iff isNone_tableSkip?_of_renames).1 hleft
  exact Bool.eq_iff_iff.2 ⟨hlisted f hf f' hf' hname, hlisted f' hf' f hf hname.symm⟩

end Schema

/-! ## The order of functions -/

/-- Declaring the functions of classes in another order, the same functions have slots, and every
index belongs to the same class as before. The names at the indices are the same for all orders if
and only if the table keeps or leaves out overloads together. -/
theorem slots_of_shuffled (schema : Schema) (config : Config)
    (hprepare : Check.prepare schema config = .ok ()) :
    (∀ t, schema.Shuffled t → Check.prepare t config = .ok () ∧
      ((Prepared.of schema config).table.map Entry.asDeclared).Perm
        ((Prepared.of t config).table.map Entry.asDeclared) ∧
      List.Forall₂ Entry.SamePlace (Prepared.of schema config).table
        (Prepared.of t config).table) ∧
    (schema.OverloadsTogether config ↔ ∀ t, schema.Shuffled t →
      List.Forall₂ Entry.SameName (Prepared.of schema config).table
        (Prepared.of t config).table) := by
  refine ⟨fun t h => ⟨Check.prepare_shuffled h hprepare, h.table_perm,
    h.forall₂_samePlace hprepare⟩, fun htogether t h => h.forall₂_sameName hprepare htogether,
    fun hall => ?_⟩
  exact Schema.overloadsTogether_of_sameName (Check.prepare_eq_ok_iff.1 hprepare).2.1 hall

/-- The schema with the functions of its classes in reverse order. -/
def Schema.reversed (schema : Schema) : Schema :=
  { schema with classes := schema.classes.map fun c => { c with funcs := c.funcs.reverse } }

theorem Schema.shuffled_reversed (schema : Schema) : schema.Shuffled schema.reversed := by
  refine ⟨?_, rfl, rfl⟩
  rw [reversed, List.forall₂_map_right_iff]
  exact List.forall₂_same.2 fun c _ => ⟨rfl, (List.reverse_perm _).symm⟩

/-- The overloads of `Jump` take nothing, so they stay together. -/
theorem slots_of_shuffled_overloaded :
    Check.prepare overloadedSchema overloadedConfig = .ok () ∧
    overloadedSchema.OverloadsTogether overloadedConfig ∧
    List.Forall₂ Entry.SameName (Prepared.of overloadedSchema overloadedConfig).table
      (Prepared.of overloadedSchema.reversed overloadedConfig).table := by
  have htogether : overloadedSchema.OverloadsTogether overloadedConfig := by decide +kernel
  exact ⟨prepare_overloaded, htogether,
    (slots_of_shuffled _ _ prepare_overloaded).2.1 htogether _ (Schema.shuffled_reversed _)⟩

/-! ## A path of points -/

/-- An array of structs that have no static descriptor. -/
def pointsParam : Property where
  name := .text "Points"
  kind := .array
  inner := some { name := .text "Point", kind := .struct, structName := .text "Vector" }

/-- Two functions of one name, the first of which cannot get its parameter. -/
def partingClass : ClassInfo where
  name := .text "Actor"
  cppName := .text "AActor"
  package := .text "Engine"
  funcs := [{ name := .text "Move", flags := 1024, params := [pointsParam] },
    { name := .text "Move", flags := 1024 }]

def partingSchema : Schema where
  classes := [partingClass]
  structs := [{ name := .text "Vector", cppName := .text "FVector", package := .text "Engine" }]

theorem usable_pointsParam : pointsParam.Usable where
  datum := ⟨by decide, rfl, rfl, rfl, rfl, rfl, rfl⟩
  elements d hd := by
    obtain rfl : d = { name := .text "Point", kind := .struct, structName := .text "Vector" } :=
      Option.some.inj (List.mem_singleton.1 hd)
    exact ⟨by decide, rfl, rfl, rfl, rfl, rfl, rfl⟩
  signature := nofun

theorem usable_partingSchema : partingSchema.Usable where
  packages := by decide
  classNames := by decide
  structNames := by decide
  enumNames := nofun
  underlying := nofun
  props c hc p hp := by
    obtain rfl : c = partingClass := List.mem_singleton.1 hc
    exact absurd hp List.not_mem_nil
  funcs c hc f hf := by
    obtain rfl : c = partingClass := List.mem_singleton.1 hc
    have hparams : ∀ f ∈ partingClass.funcs, ∀ p ∈ f.params, p = pointsParam := by decide
    have hnames : ∀ f ∈ partingClass.funcs, f.name.isText = true := by decide
    exact ⟨hnames f hf, fun p hp => hparams f hf p hp ▸ usable_pointsParam⟩

/-- Whichever of the two functions comes first keeps its name, but only one of them has a slot. -/
theorem parting_overloads_change_names :
    Check.prepare partingSchema overloadedConfig = .ok () ∧
    partingSchema.Shuffled partingSchema.reversed ∧
    (Prepared.of partingSchema overloadedConfig).table.map Entry.funcName = [.text "Move_1"] ∧
    (Prepared.of partingSchema.reversed overloadedConfig).table.map Entry.funcName =
      [.text "Move"] := by
  have hslots : (partingSchema.slots overloadedConfig).map Entry.funcName = [.text "Move_1"] := by
    decide +kernel
  have hslots' : (partingSchema.reversed.slots overloadedConfig).map Entry.funcName =
      [.text "Move"] := by
    decide +kernel
  refine ⟨Check.prepare_of_usable usable_partingSchema ⟨by decide, by decide⟩,
    Schema.shuffled_reversed _, ?_, ?_⟩
  · exact List.perm_singleton.1 (hslots ▸ Schema.map_table_perm fun _ => rfl)
  · exact List.perm_singleton.1 (hslots' ▸ Schema.map_table_perm fun _ => rfl)

end Bindery
