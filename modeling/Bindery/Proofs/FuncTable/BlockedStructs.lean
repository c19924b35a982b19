import Bindery.Proofs.FuncTable.Exportable

/-!
# Blocked structs

The blocklist of structs is looked up for parameters themselves, and not for the elements of their
containers. So it takes out of the function table what has a parameter of a blocked struct, and a
container of blocked structs can still be passed.

* `Property.UsesStruct`: a struct as the type of a parameter or of an element.
* `Config.withoutStructs`: a configuration that blocks no structs.
* `table_blockedStructs`: what blocking structs changes about the table.
* `blockedStruct_in_containers`: a blocked struct in every kind of container.
-/

namespace Bindery

/-- Whether a parameter is of one of the structs, or contains them. -/
inductive Property.UsesStruct (p : Property) (structs : List String) : Prop where
  | own : p.structName.isOneOf structs = true → UsesStruct p structs
  | element (d : Datum) : some d ∈ p.elements → d.structName.isOneOf structs = true →
      UsesStruct p structs

/-- Whether no parameter is itself of one of the structs. -/
def Function.avoids (f : Function) (structs : List String) : Bool :=
  f.params.all fun p => !p.structName.isOneOf structs

/-- The configuration with no structs blocked. -/
def Config.withoutStructs (config : Config) : Config :=
  { config with blocklist := { config.blocklist with structs := [] } }

theorem Function.avoids_eq_true_iff {f : Function} {structs : List String} :
    f.avoids structs = true ↔ ∀ p ∈ f.params, p.structName.isOneOf structs = false := by
  simp [avoids]

theorem paramSkip?_structs {ctx : Context} {structs : List String} {p : Property} :
    paramSkip? ctx structs p = none ↔
      paramSkip? ctx [] p = none ∧ p.structName.isOneOf structs = false := by
  have hnil : p.structName.isOneOf [] = false := by
    rw [Label.isOneOf]
    cases p.structName.text? <;> rfl
  rw [paramSkip?_eq_none_iff, paramSkip?_eq_none_iff, hnil]
  tauto

variable {schema : Schema} {config : Config}

/-- Only the first filter knows blocked structs, and only as the types of parameters. -/
theorem Declaration.isListed_structs {d : Declaration} :
    d.isListed schema config = (d.isListed schema config.withoutStructs &&
      d.func.avoids config.blocklist.structs) := by
  rw [Bool.eq_iff_iff, Bool.and_eq_true, Function.avoids_eq_true_iff]
  simp only [isListed, skip?, Bool.and_eq_true, Option.isNone_iff_eq_none,
    functionSkip?_eq_none_iff]
  have hparams : (∀ p ∈ d.func.params,
      paramSkip? (schema.unblocked config) config.blocklist.structs p = none) ↔
      (∀ p ∈ d.func.params, paramSkip? (schema.unblocked config.withoutStructs)
        config.withoutStructs.blocklist.structs p = none) ∧
      ∀ p ∈ d.func.params, p.structName.isOneOf config.blocklist.structs = false := by
    rw [← forall₂_and]
    exact forall₂_congr fun p _ => paramSkip?_structs
  rw [hparams]
  have hblocks : config.withoutStructs.blocklist.blocks d.owner.name d.func.name =
    config.blocklist.blocks d.owner.name d.func.name := rfl
  have htable : tableSkip? (schema.unblocked config.withoutStructs) d.func =
    tableSkip? (schema.unblocked config) d.func := rfl
  rw [hblocks, htable]
  tauto

/-- Blocking structs takes exactly those functions out of the table that have a parameter of a
blocked struct. What stays uses blocked structs through containers only. -/
theorem table_blockedStructs (schema : Schema) (config : Config) :
    ((Prepared.of schema config).table.map Entry.asDeclared).Perm
      (((Prepared.of schema config.withoutStructs).table.map Entry.asDeclared).filter
        (·.func.avoids config.blocklist.structs)) ∧
    ∀ e ∈ (Prepared.of schema config).table, ∀ p ∈ e.func.params,
      p.UsesStruct config.blocklist.structs →
        p.kind.isContainer = true ∧ p.structName.isOneOf config.blocklist.structs = false := by
  constructor
  · -- Both configurations have the same declarations, listed under different conditions.
    have hlisted : (schema.declarations config).filter (·.isListed schema config) =
        ((schema.declarations config.withoutStructs).filter
          (·.isListed schema config.withoutStructs)).filter
          (·.func.avoids config.blocklist.structs) := by
      rw [List.filter_filter]
      refine List.filter_congr fun d _ => ?_
      rw [Declaration.isListed_structs, Bool.and_comm]
    have hslots : (((schema.declarations config.withoutStructs).filter
          (·.isListed schema config.withoutStructs)).map Declaration.slot).filter
          (·.func.avoids config.blocklist.structs) =
        ((schema.declarations config).filter (·.isListed schema config)).map Declaration.slot := by
      rw [hlisted, List.filter_map]
      rfl
    refine Schema.table_perm.trans ?_
    rw [← hslots]
    exact Schema.table_perm.symm.filter _
  · intro e he p hp huse
    obtain ⟨d, -, hlisted, hslot⟩ := Schema.exists_declaration he
    rw [Declaration.isListed_structs, Bool.and_eq_true, Function.avoids_eq_true_iff] at hlisted
    have hparams : e.func.params = d.func.params := congrArg (·.func.params) hslot
    have hown := hlisted.2 p (hparams ▸ hp)
    refine ⟨?_, hown⟩
    cases huse with
    | own h => exact absurd (h.symm.trans hown) (by decide)
    | element d hd => exact Property.isContainer_of_mem_elements hd

/-! ## Containers of a blocked struct -/

/-- The vectors of a container. -/
def vectorElement : Datum :=
  { name := .text "Element", kind := .struct, structName := .text "Vector" }

/-- A function with an array of vectors, a set of them, and a map from them to them. -/
def scatter : Function :=
  { name := .text "Scatter", flags := 1024
    params := [
      { name := .text "Points", kind := .array, inner := some vectorElement },
      { name := .text "Seen", kind := .set, element := some vectorElement },
      { name := .text "Moves", kind := .map, key := some vectorElement,
        value := some vectorElement }] }

def vectorSchema : Schema where
  classes := [{
    name := .text "Actor", cppName := .text "AActor", package := .text "Engine"
    funcs := [scatter] }]
  structs := [{
    name := .text "Vector", cppName := .text "FVector", package := .text "Engine"
    hasStaticStruct := true }]

def vectorConfig : Config :=
  { features := ["core"], modules := [⟨"Engine", .text "engine", .text "core"⟩]
    blocklist := { structs := ["Vector"] } }

/-- The declaration of the function in the enabled class. -/
theorem declarations_vectorSchema :
    vectorSchema.declarations vectorConfig =
      [⟨"engine", vectorSchema.classes.head (by decide), scatter⟩] := by
  rfl

/-- The table has a function all of whose parameters are containers of a blocked struct. -/
theorem blockedStruct_in_containers :
    ∃ e ∈ (Prepared.of vectorSchema vectorConfig).table,
      e.func.params.map (·.kind) = [.array, .set, .map] ∧
      ∀ p ∈ e.func.params, ∀ element ∈ p.elements, ∃ d, element = some d ∧
        d.structName.isOneOf vectorConfig.blocklist.structs = true := by
  let d : Declaration := ⟨"engine", vectorSchema.classes.head (by decide), scatter⟩
  have hd : d ∈ vectorSchema.declarations vectorConfig := by
    rw [declarations_vectorSchema]
    exact List.mem_singleton_self d
  have hlisted : d.isListed vectorSchema vectorConfig = true := by
    decide +kernel
  obtain ⟨e, he, hslot⟩ := Schema.exists_slot hd hlisted
  have hparams : e.func.params = scatter.params := congrArg (·.func.params) hslot
  refine ⟨e, he, ?_⟩
  rw [hparams]
  decide

end Bindery
