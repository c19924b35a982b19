import Bindery.Proofs.Filter.Availability
import Bindery.Proofs.FuncTable.Fates
import Bindery.Render.TableFile

/-!
# Alignment of call plans

The argument lists of a call are written by separate case splits over the way in which a parameter
is passed and its direction. They have to line up, position by position.

* `ScalarType`, `StandsFor`: what a C++ type and the type that stands for it in native calls have
  to do with each other.
* `ParamPlan.IsPlanOf`: a plan parameter and the function parameter behind it.
* `CallPlan.map_param_params`: a plan has the parameters that were declared.
* `CallPlan.Aligned`: the argument lists of a plan fit together.
* `Prepared.imports`: the functions that guests can import, with their value types.
* `argument_lists_agree`: every plan is aligned, and guests and host list the same imports.
-/

namespace Bindery

/-! ## Types -/

/-- A scalar type of C, however it is spelled. -/
inductive ScalarType where
  | boolean
  | integer (bits : Nat) (signed : Bool)
  | floating (bits : Nat)
  | address
deriving DecidableEq

namespace ScalarType

/-- The scalar type that a name denotes in native calls. -/
def ofNative? : String → Option ScalarType
  | "c_bool" => some boolean
  | "c_int8" => some (integer 8 true)
  | "c_uint8" => some (integer 8 false)
  | "c_int16" => some (integer 16 true)
  | "c_uint16" => some (integer 16 false)
  | "c_int32" => some (integer 32 true)
  | "c_uint32" => some (integer 32 false)
  | "c_int64" => some (integer 64 true)
  | "c_uint64" => some (integer 64 false)
  | "c_float" => some (floating 32)
  | "c_double" => some (floating 64)
  | "c_void_p" => some address
  | _ => none

/-- The scalar type that a C++ type is. -/
def ofCpp? : String → Option ScalarType
  | "bool" => some boolean
  | "int8" => some (integer 8 true)
  | "uint8" => some (integer 8 false)
  | "int16" => some (integer 16 true)
  | "uint16" => some (integer 16 false)
  | "int32" => some (integer 32 true)
  | "uint32" => some (integer 32 false)
  | "int64" => some (integer 64 true)
  | "uint64" => some (integer 64 false)
  | "float" => some (floating 32)
  | "double" => some (floating 64)
  | "void*" => some address
  | _ => none

end ScalarType

/-- Whether a type in native calls stands for a C++ type: an untyped pointer for a pointer to
anything, a pointer to a scalar for a pointer to the same scalar, and a scalar for itself. -/
inductive StandsFor : String → String → Prop where
  | untyped (target : String) : StandsFor "c_void_p" (target ++ "*")
  | pointer {name cpp : String} {s : ScalarType} : ScalarType.ofNative? name = some s →
      ScalarType.ofCpp? cpp = some s → StandsFor ("POINTER(" ++ name ++ ")") (cpp ++ "*")
  | scalar {name cpp : String} {s : ScalarType} : ScalarType.ofNative? name = some s →
      ScalarType.ofCpp? cpp = some s → StandsFor name cpp

/-- The two spellings of a slot type denote one scalar. -/
theorem Wire.exists_scalarType (w : Wire) :
    ∃ s, ScalarType.ofNative? w.nativeName = some s ∧ ScalarType.ofCpp? w.cppName = some s := by
  cases w with
  | bool => exact ⟨.boolean, rfl, rfl⟩
  | int t =>
    refine ⟨.integer t.bits t.signed, ?_⟩
    obtain ⟨width, signed⟩ := t
    cases width <;> cases signed <;> exact ⟨by decide, by decide⟩
  | f32 => exact ⟨.floating 32, rfl, rfl⟩
  | f64 => exact ⟨.floating 64, rfl, rfl⟩
  | handle => exact ⟨.address, rfl, rfl⟩
  | name => exact ⟨.integer 64 false, rfl, rfl⟩

/-- The native name of a slot type stands for its C++ name. -/
theorem Wire.standsFor (w : Wire) : StandsFor w.nativeName w.cppName := by
  obtain ⟨s, hn, hc⟩ := w.exists_scalarType
  exact .scalar hn hc

theorem Wire.standsFor_pointer (w : Wire) :
    StandsFor ("POINTER(" ++ w.nativeName ++ ")") (w.cppName ++ "*") := by
  obtain ⟨s, hn, hc⟩ := w.exists_scalarType
  exact .pointer hn hc

/-! ## One parameter -/

namespace ParamPlan

variable (p : ParamPlan)

/-- Every native type of a parameter has an argument in native calls. -/
theorem length_nativeArgs : p.nativeArgs.length = p.argTypes.length := by
  unfold nativeArgs argTypes
  cases p.passing <;> cases p.direction <;> rfl

/-- The host passes as many arguments on. -/
theorem length_hostArgs : p.hostArgs.length = p.argTypes.length := by
  unfold hostArgs argTypes
  cases p.passing <;> cases p.direction <;> rfl

/-- Every slot of a parameter has an argument in a guest. -/
theorem length_guestArgs : p.guestArgs.length = p.slots.length := by
  unfold guestArgs slots
  cases p.passing <;> cases p.direction <;> rfl

/-- The native types of a parameter stand for the types of its C++ parameters. -/
theorem argTypes_standFor :
    List.Forall₂ (fun t c => StandsFor t.text c.type) p.argTypes p.cppParams := by
  have hlength : StandsFor (NativeType.scalar lengthWire).text "uint32" := lengthWire.standsFor
  have hplace : StandsFor (NativeType.pointerTo lengthWire).text "uint32*" :=
    lengthWire.standsFor_pointer
  have hvoid : StandsFor NativeType.pointer.text "void*" := .untyped "void"
  have hbytes : StandsFor NativeType.pointer.text "const void*" := .untyped "const void"
  have hdata : StandsFor NativeType.pointer.text "const char*" := .untyped "const char"
  have hbuffer : StandsFor NativeType.pointer.text "char*" := .untyped "char"
  have hin : StandsFor (NativeType.scalar p.wire).text p.wire.cppName := p.wire.standsFor
  have hout : StandsFor (NativeType.pointerTo p.wire).text (p.wire.cppName ++ "*") :=
    p.wire.standsFor_pointer
  unfold argTypes cppParams
  cases p.passing <;> cases p.direction <;> simp [*]

/-- `q` is the plan of a parameter, up to its default and its place among the containers. -/
def IsPlanOf (ctx : Context) (param : Property) (q : ParamPlan) : Prop :=
  { q with default := none, containerIndex := -1 } = ParamPlan.of ctx param

variable {p}

theorem IsPlanOf.mapping {ctx : Context} {param : Property} (h : p.IsPlanOf ctx param) :
    p.mapping = param.mapping := congrArg ParamPlan.mapping h

theorem IsPlanOf.param {ctx : Context} {param : Property} (h : p.IsPlanOf ctx param) :
    p.param = param := congrArg ParamPlan.param h

end ParamPlan

/-! ## One plan -/

/-- Counting the containers changes no more than their places. -/
private theorem numberContainers_isPlanOf (ctx : Context) (n : Nat) (params : List Property) :
    List.Forall₂ (fun p q => ParamPlan.IsPlanOf ctx p q) params
      (numberContainers n (params.map (ParamPlan.of ctx))) := by
  induction params generalizing n with
  | nil => exact .nil
  | cons p rest ih =>
    rw [List.map_cons, numberContainers]
    split
    · exact .cons rfl (ih _)
    · exact .cons rfl (ih _)

/-- Giving defaults changes no more than the defaults. -/
private theorem assignDefaults_isPlanOf {ctx : Context} {params : List Property}
    {ps : List ParamPlan}
    (h : List.Forall₂ (fun p q => ParamPlan.IsPlanOf ctx p q) params ps) :
    List.Forall₂ (fun p q => ParamPlan.IsPlanOf ctx p q) params (assignDefaults ctx ps).1 := by
  induction h with
  | nil => exact .nil
  | cons hp _ ih =>
    rw [assignDefaults]
    dsimp only
    split
    · exact .cons hp ih
    split
    · exact .cons hp ih
    · exact .cons hp ih

namespace CallPlan

/-- A plan has one parameter for each of its function's. -/
theorem of_params (ctx : Context) (e : Entry) :
    List.Forall₂ (fun p q => ParamPlan.IsPlanOf ctx p q) e.func.params (CallPlan.of ctx e).params :=
  assignDefaults_isPlanOf (numberContainers_isPlanOf ctx 0 _)

/-- The declared parameters stand in the plan in order. -/
theorem map_param_params (ctx : Context) (e : Entry) :
    (CallPlan.of ctx e).params.map (·.param) = e.func.params := by
  have h : List.Forall₂ (· = ·) e.func.params ((CallPlan.of ctx e).params.map (·.param)) :=
    List.forall₂_map_right_iff.2 ((CallPlan.of_params ctx e).imp fun _ _ h => h.param.symm)
  rw [List.forall₂_eq_eq_eq] at h
  exact h.symm

/-- The argument lists of a plan fit together. -/
structure Aligned (plan : CallPlan) : Prop where
  nativeArgs : plan.nativeArgs.length = plan.argTypes.length
  hostArgs : plan.hostArgs.length = plan.argTypes.length
  cppParams : List.Forall₂ (fun t c => StandsFor t.text c.type) plan.argTypes plan.cppParams
  guestArgs : plan.guestArgs.length = plan.slots.length
  nativeResults : plan.nativeResults.length = plan.outputs.length
  guestResults : plan.guestResults.length = plan.outputs.length
  /-- Every scalar has the slot type that the lists go by. -/
  wires : ∀ p ∈ plan.params, p.passing = .scalar → p.wire? = some p.wire

private theorem length_flatMap_eq {α β γ : Type} {f : α → List β} {g : α → List γ}
    (h : ∀ a, (f a).length = (g a).length) (xs : List α) :
    (xs.flatMap f).length = (xs.flatMap g).length := by
  simp only [List.length_flatMap, h]

/-- Whatever its parameters are, the lists of a plan have the same shape. -/
theorem aligned_of_wires {plan : CallPlan}
    (h : ∀ p ∈ plan.params, p.passing = .scalar → p.wire? = some p.wire) : plan.Aligned where
  nativeArgs := by
    unfold CallPlan.nativeArgs CallPlan.argTypes
    have hparams := length_flatMap_eq ParamPlan.length_nativeArgs plan.params
    cases plan.isStatic <;> simp [hparams]
  hostArgs := by
    unfold CallPlan.hostArgs CallPlan.argTypes
    have hparams := length_flatMap_eq ParamPlan.length_hostArgs plan.params
    cases plan.isStatic <;> simp [hparams]
  cppParams := by
    have hobject : StandsFor NativeType.pointer.text "void*" := .untyped "void"
    unfold CallPlan.cppParams CallPlan.argTypes
    refine List.rel_append ?_ (List.rel_flatMap (List.forall₂_same.2 fun p _ => rfl) ?_)
    · cases plan.isStatic
      · exact .cons hobject .nil
      · exact .nil
    · rintro p _ rfl
      exact p.argTypes_standFor
  guestArgs := by
    unfold CallPlan.guestArgs CallPlan.slots
    have hparams := length_flatMap_eq ParamPlan.length_guestArgs plan.params
    cases plan.isStatic <;> simp [hparams]
  nativeResults := List.length_map _
  guestResults := List.length_map _
  wires := h

end CallPlan

/-! ## One type -/

@[simp] theorem Carrier.slot?_slot (w : Wire) : (Carrier.slot w).slot? = some w := rfl

/-- The conversions of what is passed as one value. -/
theorem Conversion.passing_eq_scalar {c : Conversion} :
    c.passing = .scalar ↔ c ∉ [.array, .map, .set, .text, .structBytes] := by
  cases c <;> decide

theorem PropertyKind.isDelegate_eq_false {k : PropertyKind} :
    k.isDelegate = false ↔ k ∉ [.delegate, .multicast, .multicastInline, .multicastSparse] := by
  cases k <;> simp [isDelegate]

namespace Mapping

@[simp] theorem supported_ofUnsupported (reason : String) :
    (ofUnsupported reason).supported = false := rfl

@[simp] theorem slot?_ofInt (row : IntRow) :
    (ofInt row).carrier.slot? = some (.int row.slot) := rfl

@[simp] theorem slot?_ofEnum (enum underlying : Label) :
    (ofEnum enum underlying).carrier.slot? = some (.int (declaredEnumType underlying)) := rfl

@[simp] theorem slot?_ofObject (target : Option Label) :
    (ofObject target).carrier.slot? = some .handle := by
  cases target <;> rfl

end Mapping

/-- A representation that is neither that of a container, of text, of a struct nor of a delegate
has a slot. -/
private theorem Datum.slot?_isSome {d : Datum} (hs : d.mapping.supported)
    (hd : d.kind.isDelegate = false)
    (hp : d.mapping.conversion.passing = .scalar) : d.mapping.carrier.slot?.isSome := by
  revert hs hd hp
  fun_cases Datum.mapping d <;>
    simp_all [Mapping.ofView, Conversion.passing_eq_scalar, PropertyKind.isDelegate_eq_false]

/-! ## Plans of a table -/

variable {schema : Schema} {config : Config}

/-- The scalars among the parameters of a table entry have slots: what has none was filtered. -/
theorem wires_of_mem_table {e : Entry} (he : e ∈ (Prepared.of schema config).table)
    (ctx : Context) :
    ∀ q ∈ (CallPlan.of ctx e).params, q.passing = .scalar → q.wire? = some q.wire := by
  intro q hq hpassing
  obtain ⟨p, hp, hpq⟩ := exists_of_mem_right (CallPlan.of_params ctx e) hq
  obtain ⟨d, -, hfate⟩ := Schema.fate_of_mem_table he
  generalize hslot : e.unnumbered = slot at hfate
  cases hfate with
  | @listed g hd hg ht =>
    have hfunc : e.unnumbered.func = g := by rw [hslot]; rfl
    replace hp : p ∈ g.params := hfunc ▸ hp
    -- A delegate among the parameters would have kept the function out of the table.
    have hdelegate : p.kind.isDelegate = false :=
      (paramSkip?_eq_none_iff.1 ((functionSkip?_eq_none_iff.1 hd).2.2.2 p (hg.params ▸ hp))).2.1
    have hsome : q.wire?.isSome := by
      rw [ParamPlan.passing, hpq.mapping] at hpassing
      rw [ParamPlan.wire?, hpq.mapping]
      exact Datum.slot?_isSome ((tableSkip?_eq_none_iff.1 ht).1 p hp) hdelegate hpassing
    obtain ⟨w, hw⟩ := Option.isSome_iff_exists.1 hsome
    rw [ParamPlan.wire, hw]
    rfl

/-! ## Imports -/

/-- The functions that guests can import, with the value types of their parameters: those of at
most 15 flattened parameters. -/
def Prepared.imports (p : Prepared) : List (String × List SandboxType) :=
  (p.table.filter fun e => (CallPlan.of p.context e).slots.length ≤ 15).map fun e =>
    ("uika_fn_" ++ toString e.id, (CallPlan.of p.context e).slots.map (·.type))

open Render

private theorem importablePlans_plans (p : Prepared) :
    importablePlans p.plans =
      (p.table.filter fun e => (CallPlan.of p.context e).slots.length ≤ 15).map
        (CallPlan.of p.context) := by
  rw [importablePlans, Prepared.plans, List.filter_map]
  rfl

/-- What guests declare are the imports. -/
private theorem importDeclarations_plans (p : Prepared) :
    (importDeclarations p.plans).map (fun d => (d.name, d.params)) = p.imports := by
  rw [importDeclarations, importablePlans_plans, List.map_map, List.map_map]
  rfl

/-- What the host defines are the imports. -/
private theorem importDefinitions_plans (p : Prepared) :
    (importDefinitions p.plans).map (fun d => (d.name, d.params)) = p.imports := by
  rw [importDefinitions, importablePlans_plans, List.map_map, List.map_map]
  rfl

/-- Indices are dense, so no import is listed twice. -/
theorem nodup_imports : ((Prepared.of schema config).imports.map (·.1)).Nodup := by
  have hids : (Prepared.of schema config).table.Pairwise fun a b =>
      toString a.id ≠ toString b.id := by
    -- The index of a slot is its position, so two slots have two indices.
    refine List.pairwise_iff_getElem.2 fun i j hi hj hij he => ?_
    rw [Prepared.table_id hi, Prepared.table_id hj] at he
    have : i = j := toString_nat_injective he
    omega
  rw [Prepared.imports, List.map_map, List.Nodup, List.pairwise_map]
  exact (hids.filter _).imp fun hne he => hne ((String.append_right_inj _).1 he)

/-- All argument lists of a call fit together, whatever its function's parameters are, of which each
has its part in them in order, and guests and host know the same imports: one for each entry with at
most 15 flattened parameters. -/
theorem argument_lists_agree (schema : Schema) (config : Config) :
    let p := Prepared.of schema config
    (∀ e ∈ p.table, let plan := CallPlan.of p.context e
      plan.params.map (·.param) = e.func.params ∧ plan.Aligned) ∧
    (importDeclarations p.plans).map (fun d => (d.name, d.params)) = p.imports ∧
    (importDefinitions p.plans).map (fun d => (d.name, d.params)) = p.imports ∧
    (p.imports.map (·.1)).Nodup := by
  refine ⟨fun e he => ?_, importDeclarations_plans _, importDefinitions_plans _, nodup_imports⟩
  exact ⟨CallPlan.map_param_params _ e, CallPlan.aligned_of_wires (wires_of_mem_table he _)⟩

end Bindery
