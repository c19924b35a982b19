import Bindery.FuncTable
import Bindery.Proofs.FuncTable.Fates

/-!
# What passes the filters

A filter gives no reason to leave something out just when none of its conditions is violated. One of
them is that every name that a type refers to is available: an entity of an enabled module has it.

The function table holds the declarations that both filters let pass, once each. The second filter
only looks at parameters, which renaming leaves alone, so both can be asked about the declaration.

* `paramSkip?_eq_none_iff`, `functionSkip?_eq_none_iff`: what can be bound.
* `tableSkip?_eq_none_iff`: what gets a slot in the function table.
* `Datum.RefersTo`: the names of classes, meta classes, structs, enums and interfaces in a type.
* `Schema.Offers`: the names of entities that a configuration enables, blocked classes apart.
* `Schema.isAvailable_iff`: those are the names that the filters find.
* `Schema.missing?_eq_none_iff`: what a type needs to pass.
* `Declaration.isListed`: both filters let the declaration pass.
* `Declaration.slot`, `Entry.asDeclared`: a slot under the name that its function has in the schema.
* `Schema.table_perm`: the table is the listed declarations.
* `Schema.exists_declaration`, `exists_slot`: a slot has a declaration, and a listed declaration a
  slot.
* `Schema.exists_function`: a slot has a function of the schema.
-/

namespace Bindery

/-! ## Conditions -/

section Conditions

variable {ctx : Context}

/-- The parameters that the first filter lets pass. -/
theorem paramSkip?_eq_none_iff {blockedStructs : List String} {p : Property} :
    paramSkip? ctx blockedStructs p = none ↔
      p.kind.isSupported = true ∧ p.kind.isDelegate = false ∧
      (p.kind.isContainer && !p.elements.all (elementExportable ctx)) = false ∧
      p.missing? ctx = none ∧ p.structName.isOneOf blockedStructs = false := by
  unfold paramSkip?
  dsimp only
  split
  · simp_all
  split
  · simp_all
  split
  · next helements => simp only [helements, reduceCtorEq, Bool.true_eq_false, false_and, and_false]
  split
  · simp_all
  · simp_all

/-- The functions that the first filter lets pass. -/
theorem functionSkip?_eq_none_iff {blocklist : Blocklist} {owner : Label} {names : List Label}
    {f : Function} :
    functionSkip? ctx blocklist owner names f = none ↔
      blocklist.blocks owner f.name = false ∧ f.isNative = true ∧
      ((wrapped? f.name).filter fun target => names.contains (.text target)) = none ∧
      ∀ p ∈ f.params, paramSkip? ctx blocklist.structs p = none := by
  unfold functionSkip?
  split
  · simp_all
  split
  · simp_all
  split
  · simp_all
  · simp_all

/-- The functions that the second filter lets pass: their types are mapped, with codecs of all
elements. -/
theorem tableSkip?_eq_none_iff {f : Function} :
    tableSkip? ctx f = none ↔
      (∀ p ∈ f.params, p.mapping.supported = true) ∧
      ∀ p ∈ f.params, p.kind.isContainer = true → (p.parts? (some ctx)).isSome = true := by
  have hparts : (f.params.any fun p => p.kind.isContainer && (p.parts? (some ctx)).isNone) = false ↔
      ∀ p ∈ f.params, p.kind.isContainer = true → (p.parts? (some ctx)).isSome = true := by
    simp [List.any_eq_false, Option.isSome_iff_ne_none]
  rw [← hparts, ← List.all_eq_true]
  unfold tableSkip?
  split
  · next hall =>
    simp only [Bool.not_eq_true'] at hall
    simp only [hall, reduceCtorEq, Bool.false_eq_true, false_and]
  split
  · next hany => simp only [hany, reduceCtorEq, Bool.true_eq_false, and_false]
  · next hall hany =>
    simp only [Bool.not_eq_true', Bool.not_eq_false] at hall
    exact iff_of_true rfl ⟨hall, Bool.not_eq_true _ ▸ hany⟩

end Conditions

/-! ## What a type refers to -/

/-- A name that a type refers to. The meta class counts for class references only. -/
inductive Datum.RefersTo (d : Datum) : Label → Prop where
  | className : d.className.isEmpty = false → RefersTo d d.className
  | metaClassName : d.kind = .classRef → d.metaClassName.isEmpty = false →
      RefersTo d d.metaClassName
  | structName : d.structName.isEmpty = false → RefersTo d d.structName
  | enumName : d.enumName.isEmpty = false → RefersTo d d.enumName
  | interfaceName : d.interfaceName.isEmpty = false → RefersTo d d.interfaceName

theorem Label.given?_eq_some_iff {l name : Label} :
    l.given? = some name ↔ l.isEmpty = false ∧ l = name := by
  unfold given?
  cases l.isEmpty <;> simp

/-- The references of a type are the names that it refers to. -/
theorem Datum.mem_references_iff {d : Datum} {name : Label} :
    name ∈ d.references ↔ d.RefersTo name := by
  simp only [references, List.mem_filterMap, Label.given?_eq_some_iff]
  constructor
  · rintro ⟨l, hl, hgiven, rfl⟩
    simp only [List.mem_cons, List.not_mem_nil, or_false] at hl
    rcases hl with rfl | rfl | rfl | rfl | rfl
    · exact .className hgiven
    · exact .structName hgiven
    · exact .enumName hgiven
    · exact .interfaceName hgiven
    · -- The meta class stands among the references only if the type is a class reference.
      split at hgiven
      · rw [if_pos ‹_›]
        exact .metaClassName ‹_› hgiven
      · cases hgiven
  · rintro (h | ⟨hkind, h⟩ | h | h | h)
    · exact ⟨_, by simp, h, rfl⟩
    · exact ⟨_, by simp [hkind], h, rfl⟩
    · exact ⟨_, by simp, h, rfl⟩
    · exact ⟨_, by simp, h, rfl⟩
    · exact ⟨_, by simp, h, rfl⟩

/-- No reference is missing if all of them are available. -/
theorem Datum.missing?_eq_none_iff {d : Datum} {ctx : Context} :
    d.missing? ctx = none ↔ ∀ name, d.RefersTo name → ctx.isAvailable name = true := by
  simp [missing?, List.find?_eq_none, mem_references_iff]

/-! ## What a configuration offers -/

namespace Schema

/-- Whether the module of a package is enabled. -/
def Enables (schema : Schema) (config : Config) (package : Label) : Prop :=
  (Context.enabledModule? (Context.packagesOf schema config) (Context.enabledModules config)
    package).isSome = true

/-- Whether an entity of an enabled module has a name. Blocked classes do not count. -/
inductive Offers (schema : Schema) (config : Config) (name : Label) : Prop where
  | class (c : ClassInfo) : c ∈ schema.classes → c.name.isOneOf config.blocklist.classes = false →
      schema.Enables config c.package → c.name.same name = true → Offers schema config name
  | struct (s : StructInfo) : s ∈ schema.structs → schema.Enables config s.package →
      s.name.same name = true → Offers schema config name
  | enum (e : EnumInfo) : e ∈ schema.enums → schema.Enables config e.package →
      e.name.same name = true → Offers schema config name

variable {schema : Schema} {config : Config} {name : Label}

theorem isSome_class?_iff :
    ((schema.unblocked config).class? name).isSome = true ↔
      ∃ c ∈ schema.classes, c.name.isOneOf config.blocklist.classes = false ∧
        schema.Enables config c.package ∧ c.name.same name = true := by
  simp [Context.class?, unblocked, Context.unblocked, Context.build, Enables, and_assoc]

theorem isSome_struct?_iff :
    ((schema.unblocked config).struct? name).isSome = true ↔
      ∃ s ∈ schema.structs, schema.Enables config s.package ∧ s.name.same name = true := by
  simp [Context.struct?, unblocked, Context.unblocked, Context.build, Enables, and_assoc]

theorem isSome_enum?_iff :
    ((schema.unblocked config).enum? name).isSome = true ↔
      ∃ e ∈ schema.enums, schema.Enables config e.package ∧ e.name.same name = true := by
  simp [Context.enum?, unblocked, Context.unblocked, Context.build, Enables, and_assoc]

/-- The names that the filters find are those that the configuration offers. -/
theorem isAvailable_iff :
    (schema.unblocked config).isAvailable name = true ↔ schema.Offers config name := by
  rw [Context.isAvailable, Bool.or_eq_true, Bool.or_eq_true, isSome_class?_iff, isSome_struct?_iff,
    isSome_enum?_iff]
  constructor
  · rintro ((⟨c, hc, hblocked, henabled, hname⟩ | ⟨s, hs, henabled, hname⟩) |
      ⟨e, he, henabled, hname⟩)
    · exact .class c hc hblocked henabled hname
    · exact .struct s hs henabled hname
    · exact .enum e he henabled hname
  · rintro (⟨c, hc, hblocked, henabled, hname⟩ | ⟨s, hs, henabled, hname⟩ |
      ⟨e, he, henabled, hname⟩)
    · exact .inl (.inl ⟨c, hc, hblocked, henabled, hname⟩)
    · exact .inl (.inr ⟨s, hs, henabled, hname⟩)
    · exact .inr ⟨e, he, henabled, hname⟩

/-- No reference of a type is missing if the configuration offers all of them. -/
theorem missing?_eq_none_iff {d : Datum} :
    d.missing? (schema.unblocked config) = none ↔
      ∀ name, d.RefersTo name → schema.Offers config name := by
  simp only [Datum.missing?_eq_none_iff, isAvailable_iff]

end Schema

/-! ## Listed declarations -/

theorem tableSkip?_congr {ctx : Context} {f g : Function} (h : g.params = f.params) :
    tableSkip? ctx g = tableSkip? ctx f := by
  simp only [tableSkip?, h]

/-- An entry apart from its index, under the declared name of its function. -/
def Entry.asDeclared (e : Entry) : Entry :=
  { e with id := 0, func := { e.func with name := e.func.declaredName } }

namespace Declaration

/-- The slot that a declaration would have if no function needed another name. -/
def slot (d : Declaration) : Entry :=
  d.owner.slot d.module { d.func with declaredName := d.func.name }

/-- Whether both filters let a declaration pass. -/
def isListed (schema : Schema) (config : Config) (d : Declaration) : Bool :=
  (d.skip? (schema.unblocked config) config.blocklist).isNone &&
    (tableSkip? (schema.unblocked config) d.func).isNone

variable {schema : Schema} {config : Config} {d : Declaration}

/-- Renaming does not show in a slot under its declared name. -/
theorem asDeclared_slot {g : Function} (h : d.func.Renames g) :
    (d.owner.slot d.module g).asDeclared = d.slot := by
  have hname : ({ g with name := g.declaredName } : Function) =
      { d.func with declaredName := d.func.name } := by
    rw [h.eq]
  exact congrArg (d.owner.slot d.module) hname

/-- Whatever slot a declaration ends in is its own. -/
theorem slot?_of_fate {fate : Fate}
    (h : fate.Of (schema.unblocked config) config.blocklist d) :
    fate.slot?.map Entry.asDeclared = if d.isListed schema config then some d.slot else none := by
  cases h with
  | dropped hskip => simp [isListed, hskip, Fate.slot?]
  | unlisted hskip hrenames htable =>
    rw [tableSkip?_congr hrenames.params] at htable
    simp [isListed, htable, Fate.slot?]
  | listed hskip hrenames htable =>
    rw [tableSkip?_congr hrenames.params] at htable
    simp [isListed, hskip, htable, Fate.slot?, asDeclared_slot hrenames]

end Declaration

namespace Schema

variable {schema : Schema} {config : Config}

/-- The table is the listed declarations. -/
theorem table_perm :
    ((Prepared.of schema config).table.map Entry.asDeclared).Perm
      (((schema.declarations config).filter (·.isListed schema config)).map Declaration.slot) := by
  have hslots : (((schema.fates config).map (·.2)).filterMap Fate.slot?).map Entry.asDeclared =
      (((schema.fates config).map (·.1)).filter (·.isListed schema config)).map
        Declaration.slot := by
    calc
      _ = (schema.fates config).filterMap fun x => x.2.slot?.map Entry.asDeclared := by
        rw [List.filterMap_map, List.map_filterMap]
        rfl
      _ = (schema.fates config).filterMap fun x =>
          if x.1.isListed schema config then some x.1.slot else none :=
        List.filterMap_congr fun x hx => Declaration.slot?_of_fate (fates_of hx)
      _ = _ := by
        rw [← List.filterMap_eq_map, ← List.filterMap_eq_filter, List.filterMap_filterMap,
          List.filterMap_map]
        refine List.filterMap_congr fun x _ => ?_
        cases h : x.1.isListed schema config <;> simp [h, Option.guard]
  have hdeclared : ((Prepared.of schema config).table.map Entry.asDeclared) =
      ((Prepared.of schema config).table.map Entry.unnumbered).map Entry.asDeclared := by
    rw [List.map_map]
    rfl
  rw [hdeclared]
  refine (fates_slots.symm.map _).trans ?_
  rw [hslots]
  exact (fates_declarations.filter _).map _

/-- Every slot of the table is that of a listed declaration. -/
theorem exists_declaration {e : Entry} (he : e ∈ (Prepared.of schema config).table) :
    ∃ d ∈ schema.declarations config, d.isListed schema config = true ∧ e.asDeclared = d.slot := by
  obtain ⟨d, hd, hslot⟩ := List.mem_map.1 (table_perm.mem_iff.1 (List.mem_map_of_mem he))
  obtain ⟨hmem, hlisted⟩ := List.mem_filter.1 hd
  exact ⟨d, hmem, hlisted, hslot.symm⟩

/-- The function of a slot is one that its class declares. -/
theorem exists_function {e : Entry} (he : e ∈ (Prepared.of schema config).table) :
    ∃ c ∈ schema.classes, ∃ f ∈ c.funcs, e.header = c.header ∧ e.func.params = f.params := by
  obtain ⟨d, hd, -, hslot⟩ := exists_declaration he
  obtain ⟨c, hc, hd⟩ := List.mem_flatMap.1 hd
  unfold classDeclarations at hd
  split at hd
  · cases hd
  obtain ⟨f, hf, rfl⟩ := List.mem_map.1 hd
  exact ⟨c.2, (Schema.mem_enabledClasses.1 hc).1, f, hf, congrArg Entry.header hslot,
    congrArg (fun e : Entry => e.func.params) hslot⟩

/-- Every listed declaration has a slot in the table. -/
theorem exists_slot {d : Declaration} (hd : d ∈ schema.declarations config)
    (hlisted : d.isListed schema config = true) :
    ∃ e ∈ (Prepared.of schema config).table, e.asDeclared = d.slot :=
  List.mem_map.1 (table_perm.mem_iff.2 (List.mem_map_of_mem (List.mem_filter.2 ⟨hd, hlisted⟩)))

end Schema

end Bindery
