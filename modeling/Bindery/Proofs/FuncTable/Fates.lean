import Bindery.FuncTable
import Bindery.Proofs.Context
import Bindery.Proofs.Filter.Overloads

/-!
# What becomes of declared functions

A function passes two filters on its way into the function table, with overload renaming in
between. Whichever one stops it leaves a record.

* `funcTable_perm`: the table holds the slots of all classes, numbered.
* `funcTable_id`: the slot at a position has that position as its index.
* `Declaration`: a function as a class of an enabled module declares it.
* `Fate`, `Fate.Of`: the slot or the record that a declaration ends in.
* `Schema.fates`: the fates of all declarations of a schema.
* `Schema.fates_declarations`, `fates_slots`, `fates_skips`: they are those of the declarations,
  the slots are those of the table, and the records are those of the run, apart from what
  `otherSkips` lists.
-/

namespace Bindery

/-! ## The entries of the table -/

/-- An entry apart from its index. -/
def Entry.unnumbered (e : Entry) : Entry := { e with id := 0 }

theorem mem_classEntries {ctx : Context} {module : String} {c : ClassInfo} {e : Entry}
    (he : e ∈ classEntries ctx module c) :
    e.module = module ∧ e.className = c.name ∧ e.func ∈ c.funcs := by
  unfold classEntries at he
  split at he
  · cases he
  · obtain ⟨g, hg, rfl⟩ := List.mem_map.1 he
    exact ⟨rfl, rfl, (List.mem_filter.1 hg).1⟩

namespace Context

/-- The slots of all classes, in the order of the classes. -/
def entries (ctx : Context) : List Entry :=
  ctx.classesInOrder.flatMap fun c => classEntries ctx c.1 c.2

variable {ctx : Context}

theorem unnumbered_of_mem_entries {e : Entry} (h : e ∈ ctx.entries) : e.unnumbered = e := by
  simp only [entries, List.mem_flatMap, classEntries] at h
  obtain ⟨c, -, he⟩ := h
  split at he
  · cases he
  · obtain ⟨f, -, rfl⟩ := List.mem_map.1 he
    rfl

theorem map_unnumbered_funcTable :
    ctx.funcTable.map Entry.unnumbered = Label.sortOnList Entry.key ctx.entries := by
  have hmem : ∀ e ∈ Label.sortOnList Entry.key ctx.entries, e.unnumbered = e := fun e he =>
    unnumbered_of_mem_entries ((List.mergeSort_perm _ _).mem_iff.1 he)
  refine List.ext_getElem (by simp [funcTable, entries]) fun i h h' => ?_
  simp only [funcTable, List.getElem_map, List.getElem_mapIdx]
  exact hmem _ (List.getElem_mem h')

/-- The table holds the slots of all classes, once each. -/
theorem funcTable_perm : (ctx.funcTable.map Entry.unnumbered).Perm ctx.entries := by
  rw [map_unnumbered_funcTable]
  exact List.mergeSort_perm _ _

/-- Indices are dense: they are the positions in the table. -/
theorem funcTable_id {i : Nat} (h : i < ctx.funcTable.length) : ctx.funcTable[i].id = i := by
  simp [funcTable]

end Context

theorem Prepared.table_id {schema : Schema} {config : Config} {i : Nat}
    (h : i < (Prepared.of schema config).table.length) :
    (Prepared.of schema config).table[i].id = i :=
  Context.funcTable_id h

/-- A function as a class of an enabled module declares it. -/
structure Declaration where
  module : String
  owner : ClassInfo
  func : Function

/-- Why the first filter stops a declaration. -/
def Declaration.skip? (ctx : Context) (blocklist : Blocklist) (d : Declaration) : Option String :=
  functionSkip? ctx blocklist d.owner.name (d.owner.funcs.map (·.name)) d.func

/-- The slot of a function of a class, not numbered yet. -/
def ClassInfo.slot (module : String) (c : ClassInfo) (f : Function) : Entry :=
  { id := 0, module, className := c.name, func := f, cppClass := c.cppName, header := c.header }

/-- A slot, or the record of a function that gets none. -/
inductive Fate where
  | slot (e : Entry)
  | skip (s : Skip)

namespace Fate

def slot? : Fate → Option Entry
  | slot e => some e
  | skip _ => none

def skip? : Fate → Option Skip
  | slot _ => none
  | skip s => some s

/-- The fates that a declaration can have: the first filter stops it, or the second one does under
the name that it goes by then, or it gets a slot. -/
inductive Of (ctx : Context) (blocklist : Blocklist) (d : Declaration) : Fate → Prop where
  | dropped {reason : String} : d.skip? ctx blocklist = some reason →
      Of ctx blocklist d (.skip ⟨d.owner.name, d.func.name, reason⟩)
  | unlisted {g : Function} {reason : String} : d.skip? ctx blocklist = none →
      d.func.Renames g → tableSkip? ctx g = some reason →
      Of ctx blocklist d (.skip ⟨d.owner.name, g.name, reason⟩)
  | listed {g : Function} : d.skip? ctx blocklist = none → d.func.Renames g →
      tableSkip? ctx g = none → Of ctx blocklist d (.slot (d.owner.slot d.module g))

end Fate

/-! ## One class -/

section Class

variable (ctx : Context) (blocklist : Blocklist) (module : String) (c : ClassInfo)

/-- The functions that a class declares. Interfaces count for nothing here. -/
def classDeclarations : List Declaration :=
  if c.super = .text "Interface" then [] else c.funcs.map (⟨module, c, ·⟩)

/-- The functions of a class that the first filter lets pass. -/
def keptFuncs : List Function :=
  c.funcs.filter fun f => ((Declaration.mk module c f).skip? ctx blocklist).isNone

/-- The fates of those that it does not let pass. -/
def droppedFates : List (Declaration × Fate) :=
  c.funcs.filterMap fun f =>
    ((Declaration.mk module c f).skip? ctx blocklist).map fun reason =>
      (⟨module, c, f⟩, .skip ⟨c.name, f.name, reason⟩)

/-- The fate of a function that passed the first filter and goes by `g`. -/
def keptFate (g : Function) : Fate :=
  match tableSkip? ctx g with
  | none => .slot (c.slot module g)
  | some reason => .skip ⟨c.name, g.name, reason⟩

/-- The fates of the functions of a class. -/
def classFates : List (Declaration × Fate) :=
  if c.super = .text "Interface" then [] else
  droppedFates ctx blocklist module c ++
    ((keptFuncs ctx blocklist module c).zip
      (renameOverloads (keptFuncs ctx blocklist module c))).map fun p =>
        (⟨module, c, p.1⟩, keptFate ctx module c p.2)

/-- The records that a class leaves for other reasons: those of its properties, and those of an
interface's functions. -/
def otherSkips : List Skip :=
  skipsOf c.name (·.name) (propertySkip? ctx) c.props ++
    if c.super = .text "Interface" then
      skipsOf c.name (·.name) (functionSkip? ctx blocklist c.name (c.funcs.map (·.name))) c.funcs
    else []

variable {ctx blocklist module c}

/-- What a function ends in is one of the fates that it can have. -/
theorem classFates_of : ∀ x ∈ classFates ctx blocklist module c, x.2.Of ctx blocklist x.1 := by
  intro x hx
  unfold classFates at hx
  split at hx
  · cases hx
  rcases List.mem_append.1 hx with hx | hx
  · obtain ⟨f, -, hf⟩ := List.mem_filterMap.1 hx
    obtain ⟨reason, hr, rfl⟩ := Option.map_eq_some_iff.1 hf
    exact .dropped hr
  · obtain ⟨⟨f, g⟩, hfg, rfl⟩ := List.mem_map.1 hx
    have hg : f.Renames g := List.forall₂_zip (renameOverloads_renames _) hfg
    have hf : (Declaration.mk module c f).skip? ctx blocklist = none := by
      simpa using (List.mem_filter.1 (List.of_mem_zip hfg).1).2
    simp only [keptFate]
    split
    · next h => exact .listed hf hg h
    · next h => exact .unlisted hf hg h

/-- Every function of a class has one fate. -/
theorem classFates_declarations :
    ((classFates ctx blocklist module c).map (·.1)).Perm (classDeclarations module c) := by
  unfold classFates classDeclarations
  split
  · exact .nil
  have hdropped : (droppedFates ctx blocklist module c).map (·.1) =
      (c.funcs.filter fun f => ! ((Declaration.mk module c f).skip? ctx blocklist).isNone).map
        (⟨module, c, ·⟩) := by
    rw [droppedFates]
    induction c.funcs with
    | nil => rfl
    | cons f rest ih =>
      cases h : (Declaration.mk module c f).skip? ctx blocklist <;> simp [h, ih]
  have hkept : (((keptFuncs ctx blocklist module c).zip
      (renameOverloads (keptFuncs ctx blocklist module c))).map fun p =>
        (Declaration.mk module c p.1, keptFate ctx module c p.2)).map (·.1) =
      (keptFuncs ctx blocklist module c).map (⟨module, c, ·⟩) := by
    rw [List.map_map]
    show List.map (Declaration.mk module c ∘ Prod.fst) _ = _
    rw [← List.map_map, List.map_fst_zip (Nat.le_of_eq (length_renameOverloads _).symm)]
  rw [List.map_append, hdropped, hkept, ← List.map_append]
  exact (List.perm_append_comm.trans (List.filter_append_perm _ _)).map _

theorem classFates_snd (hc : c.super ≠ .text "Interface") :
    (classFates ctx blocklist module c).map (·.2) =
      (skipsOf c.name (·.name) (functionSkip? ctx blocklist c.name (c.funcs.map (·.name)))
        c.funcs).map .skip ++
      (renameOverloads (keptFuncs ctx blocklist module c)).map (keptFate ctx module c) := by
  rw [classFates, if_neg hc, List.map_append, List.map_map]
  congr 1
  · simp only [droppedFates, skipsOf, List.map_filterMap, Option.map_map]
    rfl
  · show List.map (keptFate ctx module c ∘ Prod.snd) _ = _
    rw [← List.map_map, List.map_snd_zip (Nat.le_of_eq (length_renameOverloads _))]

@[simp] theorem slot?_keptFate (f : Function) :
    (keptFate ctx module c f).slot? =
      if (tableSkip? ctx f).isNone then some (c.slot module f) else none := by
  rw [keptFate]
  cases tableSkip? ctx f <;> rfl

@[simp] theorem skip?_keptFate (f : Function) :
    (keptFate ctx module c f).skip? = (tableSkip? ctx f).map fun r => ⟨c.name, f.name, r⟩ := by
  rw [keptFate]
  cases tableSkip? ctx f <;> rfl

/-- The slots among the fates of a class are those of its filtered functions. -/
theorem classFates_slots :
    ((classFates ctx blocklist module c).map (·.2)).filterMap Fate.slot? =
      classEntries ctx module (filterClass ctx blocklist c).1 := by
  by_cases hc : c.super = .text "Interface"
  · simp [classFates, classEntries, filterClass, hc]
  have hskip (ss : List Skip) : (ss.map Fate.skip).filterMap Fate.slot? = [] := by
    simp [List.filterMap_map, Fate.slot?]
  have hkept (fs : List Function) : (fs.map (keptFate ctx module c)).filterMap Fate.slot? =
      (fs.filter fun f => (tableSkip? ctx f).isNone).map (c.slot module) := by
    induction fs with
    | nil => rfl
    | cons f rest ih =>
      rw [List.map_cons, List.filterMap_cons, ih, slot?_keptFate]
      cases h : tableSkip? ctx f <;> simp [h]
  have hsuper : (filterClass ctx blocklist c).1.super ≠ .text "Interface" := hc
  rw [classFates_snd hc, List.filterMap_append, hskip, hkept, classEntries, if_neg hsuper]
  rfl

/-- The records among the fates of a class, with its other ones, are those of both filters. -/
theorem classFates_skips :
    (((classFates ctx blocklist module c).map (·.2)).filterMap Fate.skip? ++
        otherSkips ctx blocklist c).Perm
      ((filterClass ctx blocklist c).2 ++
        classTableSkips ctx (filterClass ctx blocklist c).1) := by
  by_cases hc : c.super = .text "Interface"
  · simp [classFates, classTableSkips, filterClass, otherSkips, hc]
  have hskip (ss : List Skip) : (ss.map Fate.skip).filterMap Fate.skip? = ss := by
    simp [List.filterMap_map, Function.comp_def, Fate.skip?]
  have hkept (fs : List Function) : (fs.map (keptFate ctx module c)).filterMap Fate.skip? =
      skipsOf c.name (·.name) (tableSkip? ctx) fs := by
    simp [List.filterMap_map, skipsOf]
  have hsuper : (filterClass ctx blocklist c).1.super ≠ .text "Interface" := hc
  rw [classFates_snd hc, List.filterMap_append, hskip, hkept, otherSkips, if_neg hc,
    classTableSkips, if_neg hsuper, List.append_nil]
  -- The first filter leaves its records of properties before those of functions.
  exact List.perm_append_comm.trans (.of_eq (List.append_assoc _ _ _).symm)

end Class

/-! ## All classes -/

namespace Schema

variable (schema : Schema) (config : Config)

/-- The context that both filters look names up in. -/
def unblocked : Context := (Context.build schema config).unblocked config.blocklist

/-- The functions that the enabled classes declare. -/
def declarations : List Declaration :=
  (schema.enabledClasses config).flatMap fun c => classDeclarations c.1 c.2

/-- The fates of all declarations. -/
def fates : List (Declaration × Fate) :=
  (schema.enabledClasses config).flatMap fun c =>
    classFates (schema.unblocked config) config.blocklist c.1 c.2

/-- The records of everything but the declarations. -/
def otherSkips : List Skip :=
  (schema.enabledClasses config).flatMap fun c =>
    Bindery.otherSkips (schema.unblocked config) config.blocklist c.2

variable {schema config}

theorem fates_of {x : Declaration × Fate} (hx : x ∈ schema.fates config) :
    x.2.Of (schema.unblocked config) config.blocklist x.1 := by
  obtain ⟨c, -, hx⟩ := List.mem_flatMap.1 hx
  exact classFates_of x hx

/-- Every declaration has one fate. -/
theorem fates_declarations :
    ((schema.fates config).map (·.1)).Perm (schema.declarations config) := by
  rw [fates, List.map_flatMap]
  exact List.Perm.flatMap_left _ fun c _ => classFates_declarations

/-- The filtered classes are those that are enabled, each filtered. -/
theorem members_filtered_perm :
    ((Context.build schema config).filtered config.blocklist).1.classes.members.Perm
      ((schema.enabledClasses config).map fun c =>
        (c.1, (filterClass (schema.unblocked config) config.blocklist c.2).1)) := by
  rw [Context.members_filtered]
  exact (Context.members_unblocked_perm schema config).map _

/-- The slots of a schema are those of the enabled classes, each filtered. -/
theorem entries_perm :
    (Prepared.of schema config).context.entries.Perm
      ((schema.enabledClasses config).flatMap fun c =>
        classEntries (schema.unblocked config) c.1
          (filterClass (schema.unblocked config) config.blocklist c.2).1) := by
  refine ((Context.classesInOrder_perm _).trans members_filtered_perm).flatMap_right _ |>.trans ?_
  rw [List.flatMap_map]
  exact .refl _

/-- The slots among the fates are those of the table. -/
theorem fates_slots :
    (((schema.fates config).map (·.2)).filterMap Fate.slot?).Perm
      ((Prepared.of schema config).table.map Entry.unnumbered) := by
  rw [fates, List.map_flatMap, List.filterMap_flatMap]
  simp only [classFates_slots]
  exact entries_perm.symm.trans Context.funcTable_perm.symm

/-- The records among the fates, with the other ones, are those of the run. -/
theorem fates_skips :
    (((schema.fates config).map (·.2)).filterMap Fate.skip? ++ schema.otherSkips config).Perm
      (Prepared.of schema config).skips := by
  let ctx := schema.unblocked config
  have hfilter : ((Context.build schema config).filtered config.blocklist).2.Perm
      ((schema.enabledClasses config).flatMap fun c =>
        (filterClass ctx config.blocklist c.2).2) := by
    refine List.Perm.trans (.of_eq ?_)
      ((Context.members_unblocked_perm schema config).flatMap_right _)
    simp only [Context.filtered, Groups.members, List.flatMap_map, List.flatMap_assoc]
    rfl
  have htable : (Context.tableSkips
        ((Context.build schema config).filtered config.blocklist).1).Perm
      ((schema.enabledClasses config).flatMap fun c =>
        classTableSkips ctx (filterClass ctx config.blocklist c.2).1) := by
    refine ((Context.classesInOrder_perm _).trans members_filtered_perm).flatMap_right _ |>.trans ?_
    rw [List.flatMap_map]
    exact .refl _
  rw [fates, List.map_flatMap, List.filterMap_flatMap, otherSkips]
  refine (List.flatMap_append_perm _ _ _).trans ?_
  refine (List.Perm.flatMap_left _ fun c _ => classFates_skips).trans ?_
  exact (List.flatMap_append_perm _ _ _).symm.trans (hfilter.symm.append htable.symm)

/-- Every slot of the table is the fate of a declaration. -/
theorem fate_of_mem_table {e : Entry} (he : e ∈ (Prepared.of schema config).table) :
    ∃ d ∈ schema.declarations config,
      (Fate.slot e.unnumbered).Of (schema.unblocked config) config.blocklist d := by
  have hmem : e.unnumbered ∈ ((schema.fates config).map (·.2)).filterMap Fate.slot? :=
    fates_slots.mem_iff.2 (List.mem_map_of_mem he)
  obtain ⟨fate, hfate, hslot⟩ := List.mem_filterMap.1 hmem
  obtain ⟨⟨d, fate⟩, hx, rfl⟩ := List.mem_map.1 hfate
  have hfate : fate = .slot e.unnumbered := by
    cases fate with
    | slot e => exact congrArg _ (Option.some.inj hslot)
    | skip s => cases hslot
  refine ⟨d, fates_declarations.mem_iff.1 (List.mem_map_of_mem hx), ?_⟩
  exact hfate ▸ fates_of hx

end Schema
end Bindery
