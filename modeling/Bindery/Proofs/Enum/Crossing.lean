import Bindery.Proofs.Enum.Class
import Bindery.Proofs.Filter.Availability
import Bindery.Proofs.Plan.Alignment
import Bindery.Proofs.Wire.Paths

/-!
# Enum members in slots

A parameter of an enum type is passed in a slot of the type that the parameter gives for the enum,
which need not be the type that the enum itself is declared with. A member is recovered behind the
slot if the slot's type has an integer for it.

* `EnumLayout.Crosses`: a member that comes out of a slot as itself.
* `EnumLayout.Lawful.crosses_iff`: the members that do.
* `EnumLayout.Lawful.crosses_of_bits_le`: a slot that is wide enough keeps all of them.
* `enum_parameter_crosses`: enum parameters, and the members that cross in their slots.
* `narrow_slot_confuses_members`: a slot that is too narrow for its enum.
-/

namespace Bindery

/-! ## Members that cross -/

namespace EnumLayout

/-- Whether a member, reduced to a slot's type and carried by the slot on either path, comes out as
itself. -/
def Crosses (l : EnumLayout) (enum : String) (t : IntType) (v : Variant) : Prop :=
  ∀ path ∈ [(Wire.int t).direct, (Wire.int t).sandboxed],
    ∃ raw, path (.int (t.wrap v.value)) = .ok (.int raw) ∧ l.fromValue enum raw = some v

variable {l : EnumLayout} {enum : String} {t : IntType} {v : Variant}

/-- What was reduced to the slot's type crosses the slot unchanged. -/
theorem crosses_iff_fromValue :
    l.Crosses enum t v ↔ l.fromValue enum (t.wrap v.value) = some v := by
  simp only [Crosses, List.forall_mem_cons, List.not_mem_nil, false_implies, implies_true, and_true,
    Wire.direct_int, Wire.sandboxed_int, IntType.wrap_wrap (Nat.le_refl _), Except.ok.injEq,
    Value.int.injEq, exists_eq_left', and_self]

/-- A slot at least as wide as the type of the enum keeps every member. -/
theorem Lawful.crosses_of_bits_le (h : l.Lawful) (hv : v ∈ l.members enum)
    (hbits : l.repr.bits ≤ t.bits) : l.Crosses enum t v :=
  crosses_iff_fromValue.2
    (h.fromValue_eq_some_iff.2 ⟨hv, IntType.emod_of_le hbits (t.wrap_emod v.value).symm⟩)

/-- A member crosses just when the slot's type has an integer that is the same in the type of the
enum. -/
theorem Lawful.crosses_iff (h : l.Lawful) (hv : v ∈ l.members enum) :
    l.Crosses enum t v ↔ ∃ r, t.Holds r ∧ r % l.repr.modulus = v.value % l.repr.modulus := by
  constructor
  · intro hcrosses
    have hc := (h.fromValue_eq_some_iff.1 (crosses_iff_fromValue.1 hcrosses)).2
    exact ⟨_, t.wrap_holds _, hc.symm⟩
  · rintro ⟨r, hr, hc⟩
    -- In a slot narrower than the enum, `r` can only be what the member was reduced to.
    rcases Nat.le_total l.repr.bits t.bits with hbits | hbits
    · exact h.crosses_of_bits_le hv hbits
    · have hwrap : r = t.wrap v.value := IntType.eq_wrap hr (IntType.emod_of_le hbits hc)
      exact crosses_iff_fromValue.2 (h.fromValue_eq_some_iff.2 ⟨hv, hwrap ▸ hc.symm⟩)

end EnumLayout

theorem EnumInfo.layout_bits (e : EnumInfo) :
    e.layout.repr.bits = (enumType e.underlying).bits := by
  rw [IntType.bits, IntType.bits, e.layout_width]

/-! ## Parameters -/

/-- The representation of an enum, whichever kind of property refers to it. -/
theorem Datum.mapping_of_enum {d : Datum} {enum : Label} (hkind : d.kind = .byte ∨ d.kind = .enum)
    (henum : d.enum? = some enum) : d.mapping = .ofEnum enum d.enumUnderlying := by
  rcases hkind with hkind | hkind <;> simp [Datum.mapping, hkind, henum]

/-- The codec of an enum in a container goes by the enum itself. -/
theorem Datum.codec_of_enum {d : Datum} {enum : Label} {ctx : Context} {info : EnumInfo}
    (hkind : d.kind = .byte ∨ d.kind = .enum) (henum : d.enum? = some enum)
    (hinfo : ctx.enum? enum = some info) :
    (d.element? (some ctx)).map (·.codec) = some (.enum enum info.layout.repr) := by
  rcases hkind with hkind | hkind <;>
    simp [Datum.element?, hkind, henum, Element.ofEnum, Context.enumRepr?, hinfo]

namespace ParamPlan

variable {q : ParamPlan} {enum : Label}

/-- A parameter of an enum type as the calls see it. -/
theorem of_enumMapping (h : q.mapping = .ofEnum enum q.param.enumUnderlying) :
    let t := Mapping.declaredEnumType q.param.enumUnderlying
    q.wire? = some (.int t) ∧
    q.scalarIn = .apply "wrap_int" [.apply "int" [.name q.name], .str t.tag] ∧
    ∀ raw, q.convertOut raw = (Script.Expr.name enum.spoken).method "from_value" [raw] := by
  have hwire : q.wire? = some (.int (Mapping.declaredEnumType q.param.enumUnderlying)) := by
    rw [wire?, h]
    rfl
  refine ⟨hwire, ?_, fun raw => ?_⟩
  · simp [scalarIn, h, wire, hwire, Mapping.isHandle, Mapping.ofEnum, Wire.tag]
  · simp [convertOut, h, Mapping.ofEnum]

end ParamPlan

/-- A parameter of an enum type is reduced to the type that the parameter gives for the enum, and
exactly those members are recovered from its slot for which that type has an integer that is the
same in the type of the enum: all of them, if the slot is at least as wide. The elements of
containers go by the type of the enum, where all members are recovered. -/
theorem enum_parameter_crosses {ctx : Context} {e : Entry} {q : ParamPlan} {enum : Label}
    {info : EnumInfo} (hq : q ∈ (CallPlan.of ctx e).params)
    (hkind : q.param.kind = .byte ∨ q.param.kind = .enum) (henum : q.param.enum? = some enum)
    (hinfo : ctx.enum? enum = some info) (hfit : info.Representable) :
    let t := Mapping.declaredEnumType q.param.enumUnderlying
    let declared := enumType info.underlying
    (q.wire? = some (.int t) ∧
      q.scalarIn = .apply "wrap_int" [.apply "int" [.name q.name], .str t.tag] ∧
      ∀ raw, q.convertOut raw = (Script.Expr.name enum.spoken).method "from_value" [raw]) ∧
    (∀ v ∈ info.layout.members info.name.spoken,
      (info.layout.Crosses info.name.spoken t v ↔
        ∃ r, t.Holds r ∧ r % declared.modulus = v.value % declared.modulus) ∧
      (declared.bits ≤ t.bits → info.layout.Crosses info.name.spoken t v) ∧
      ∀ c, EnumClass.load info = .ok c → c.Unshadowed →
        (c.fromValue (.int (t.wrap v.value)) = .ok (some (.member v)) ↔
          info.layout.Crosses info.name.spoken t v)) ∧
    (∀ d : Datum, (d.kind = .byte ∨ d.kind = .enum) → d.enum? = some enum →
      (d.element? (some ctx)).map (·.codec) = some (.enum enum info.layout.repr)) ∧
    ∀ v ∈ info.layout.members info.name.spoken,
      info.layout.Crosses info.name.spoken info.layout.repr v := by
  have hl := EnumInfo.layout_lawful hfit
  obtain ⟨p, -, hplan⟩ := exists_of_mem_right (CallPlan.of_params ctx e) hq
  have hmapping : q.mapping = .ofEnum enum q.param.enumUnderlying := by
    rw [hplan.mapping, ← hplan.param]
    exact Datum.mapping_of_enum hkind henum
  refine ⟨ParamPlan.of_enumMapping hmapping, fun v hv => ⟨?_, ?_, fun c hload hc => ?_⟩,
    fun d hd henum' => Datum.codec_of_enum hd henum' hinfo, fun v hv => ?_⟩
  · rw [hl.crosses_iff hv, EnumInfo.layout_modulus]
  · rw [← EnumInfo.layout_bits]
    exact hl.crosses_of_bits_le hv
  · obtain ⟨hname, hlayout, -⟩ := EnumClass.of_load hload
    have hne : c.layout.variants ≠ [] := by
      rw [hlayout]
      exact List.ne_nil_of_mem (List.mem_of_mem_filter hv)
    rw [EnumClass.fromValue_int hc hne, hname, hlayout, EnumLayout.crosses_iff_fromValue]
    simp
  · exact hl.crosses_of_bits_le hv (Nat.le_refl _)

/-! ## An enum of two bytes -/

/-- An enum with a value that takes two bytes. -/
def modeEnum : EnumInfo where
  name := .text "EMode"
  cppName := .text "EMode"
  package := .text "Engine"
  underlying := .text "uint16"
  pairs := [("EMode::Near", 44), ("EMode::Far", 300)]

/-- A parameter of the enum that gives a type for it, or none. -/
def modeParam (underlying : Label) : Property :=
  { name := .text "Mode", kind := .enum, enumName := .text "EMode", enumUnderlying := underlying }

def modeFunction (underlying : Label) : Function :=
  { name := .text "SetMode", flags := 1024, params := [modeParam underlying] }

/-- A function that takes the enum. -/
def modeSchema (underlying : Label) : Schema where
  classes := [{
    name := .text "Actor", cppName := .text "AActor", package := .text "Engine"
    funcs := [modeFunction underlying] }]
  enums := [modeEnum]

def modeConfig : Config :=
  { features := ["core"], modules := [⟨"Engine", .text "engine", .text "core"⟩] }

/-- The declaration of the function. -/
def modeDeclaration (underlying : Label) : Declaration where
  module := "engine"
  owner := {
    name := .text "Actor", cppName := .text "AActor", package := .text "Engine"
    funcs := [modeFunction underlying] }
  func := modeFunction underlying

theorem mode_mem_declarations (underlying : Label) :
    modeDeclaration underlying ∈ (modeSchema underlying).declarations modeConfig :=
  List.mem_singleton_self _

theorem mode_enum? (underlying : Label) :
    (Prepared.of (modeSchema underlying) modeConfig).context.enum? (.text "EMode") =
      some modeEnum := by
  rfl

/-- The function has a slot, and its plan the parameter of the enum. -/
theorem exists_modePlan {underlying : Label}
    (hlisted : (modeDeclaration underlying).isListed (modeSchema underlying) modeConfig = true) :
    ∃ e ∈ (Prepared.of (modeSchema underlying) modeConfig).table,
      ∃ q ∈ (CallPlan.of (Prepared.of (modeSchema underlying) modeConfig).context e).params,
        q.param = modeParam underlying := by
  obtain ⟨e, he, hslot⟩ := Schema.exists_slot (mode_mem_declarations underlying) hlisted
  have hparams : e.func.params = [modeParam underlying] := congrArg (·.func.params) hslot
  have hplans := CallPlan.of_params (Prepared.of (modeSchema underlying) modeConfig).context e
  rw [hparams] at hplans
  obtain ⟨q, rest, hplan, -, hq⟩ := List.forall₂_cons_left_iff.1 hplans
  exact ⟨e, he, q, hq ▸ List.mem_cons_self, hplan.param⟩

/-- The parameter gives the type of the enum, and the larger value crosses. -/
theorem enum_parameter_crosses_wide :
    ∃ e ∈ (Prepared.of (modeSchema (.text "uint16")) modeConfig).table,
      ∃ q ∈ (CallPlan.of (Prepared.of (modeSchema (.text "uint16")) modeConfig).context e).params,
        q.param = modeParam (.text "uint16") ∧ q.wire? = some (.int .u16) ∧
        modeEnum.layout.Crosses "EMode" .u16 ⟨"Far", "Far", 300⟩ := by
  have hlisted : (modeDeclaration (.text "uint16")).isListed (modeSchema (.text "uint16"))
      modeConfig = true := by decide +kernel
  obtain ⟨e, he, q, hq, hparam⟩ := exists_modePlan hlisted
  have hcrosses := enum_parameter_crosses hq (by rw [hparam]; exact .inr rfl)
    (by rw [hparam]; rfl) (mode_enum? _) (by decide)
  rw [hparam] at hcrosses
  obtain ⟨⟨hwire, -⟩, hmembers, -⟩ := hcrosses
  exact ⟨e, he, q, hq, hparam, hwire, (hmembers ⟨"Far", "Far", 300⟩ (by decide)).2.1 (by decide)⟩

/-- The parameter gives no type for the enum, and the larger value comes out of its slot as the
other member. -/
theorem narrow_slot_confuses_members :
    modeEnum.Representable ∧
    ⟨"Far", "Far", 300⟩ ∈ modeEnum.layout.members "EMode" ∧
    ∃ e ∈ (Prepared.of (modeSchema .null) modeConfig).table,
      ∃ q ∈ (CallPlan.of (Prepared.of (modeSchema .null) modeConfig).context e).params,
        q.param.enum? = some (.text "EMode") ∧ q.wire? = some (.int .u8) ∧
        (Prepared.of (modeSchema .null) modeConfig).context.enumRepr? (.text "EMode") = some .u16 ∧
        modeEnum.layout.fromValue "EMode" (IntType.u8.wrap 300) = some ⟨"Near", "Near", 44⟩ := by
  refine ⟨by decide, by decide, ?_⟩
  have hlisted : (modeDeclaration .null).isListed (modeSchema .null) modeConfig = true := by
    decide +kernel
  obtain ⟨e, he, q, hq, hparam⟩ := exists_modePlan hlisted
  obtain ⟨p, -, hplan⟩ := exists_of_mem_right (CallPlan.of_params _ e) hq
  refine ⟨e, he, q, hq, by rw [hparam]; rfl, ?_, rfl, by decide⟩
  rw [ParamPlan.wire?, hplan.mapping, ← hplan.param, hparam]
  rfl

end Bindery
