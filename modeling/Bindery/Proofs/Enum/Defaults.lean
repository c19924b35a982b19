import Bindery.Default
import Bindery.Proofs.Enum.Class
import Bindery.Proofs.Enum.Survivors
import Bindery.Proofs.References

/-!
# Defaults of enum parameters

The default of an enum parameter is written as the member for an integer. The integer is that of a
declared variant, and a member is there for it only if one that survived has the same integer.
The class of the enum then answers that member, unless it takes the member's name for that of a
private attribute.

* `EnumInfo.Denotes`: the variant that a default names and the member that it comes to.
* `Property.defaultLiteral?_eq_some_iff`: the literals of enum defaults.
* `EnumClass.Converting`, `EnumClass.exists_fromValue`: a class that answers its members.
* `enum_defaults_denote_members`: the main statement.
* `private_member_is_no_default`: a default that no member is there for.
-/

namespace Bindery

/-! ## Literals -/

/-- A text names a variant that is called so, with or without a scope in front. -/
theorem namesVariant_text_iff {s variant : String} :
    namesVariant (.text s) variant = true ↔
      variant = s ∨ ("::" ++ s).toList <:+ variant.toList := by
  have htext : (Document.text s = .text variant) ↔ variant = s := by
    rw [Document.text.injEq, eq_comm]
  rw [namesVariant, Bool.or_eq_true, decide_eq_true_iff, htext, List.isSuffixOf_iff_suffix]
  rfl

namespace EnumInfo

/-- A default names a variant, the first one of those that it names, and a member has the value of
that variant as the host stores it. -/
structure Denotes (e : EnumInfo) (s : String) (pair : String × Int) (v : Variant) : Prop where
  first : e.pairs.find? (fun p => namesVariant (.text s) p.1) = some pair
  member : v ∈ e.layout.variants
  value : v.value = e.layout.repr.wrap pair.2

variable {e : EnumInfo} {s : String} {pair : String × Int} {v : Variant}

/-- A default has an integer just when it names a variant and a member has its value. -/
theorem defaultValue?_eq_some_iff {n : Int} :
    e.defaultValue? (.text s) = some n ↔ ∃ pair v, e.Denotes s pair v ∧ v.value = n := by
  unfold defaultValue?
  constructor
  · intro h
    split at h
    · cases h
    · next pair hfirst =>
      dsimp only at h
      split at h
      · next hany =>
        cases h
        obtain ⟨v, hv, hvalue⟩ := List.any_eq_true.1 hany
        exact ⟨pair, v, ⟨hfirst, hv, of_decide_eq_true hvalue⟩, of_decide_eq_true hvalue⟩
      · cases h
  · rintro ⟨pair, v, hdenotes, rfl⟩
    rw [hdenotes.first]
    dsimp only
    rw [if_pos (List.any_eq_true.2 ⟨v, hdenotes.member, decide_eq_true hdenotes.value⟩),
      hdenotes.value]

theorem Denotes.names (h : e.Denotes s pair v) :
    pair ∈ e.pairs ∧ (pair.1 = s ∨ ("::" ++ s).toList <:+ pair.1.toList) :=
  ⟨List.mem_of_find?_eq_some h.first,
    namesVariant_text_iff.1 (by simpa using List.find?_some h.first)⟩

/-- The value is that of the variant as far as the host tells values apart. -/
theorem Denotes.value_emod (h : e.Denotes s pair v) :
    v.value % 2 ^ e.layout.repr.bits = pair.2 % 2 ^ e.layout.repr.bits := by
  have hmodulus : (2 : Int) ^ e.layout.repr.bits = e.layout.repr.modulus := by
    simp [IntType.modulus]
  rw [hmodulus, h.value, IntType.wrap_emod]

theorem Denotes.wrap_value (h : e.Denotes s pair v) : e.layout.repr.wrap v.value = v.value := by
  rw [h.value, IntType.wrap_wrap (Nat.le_refl _)]

/-- No survivor marks the end of its enum. -/
theorem isSentinel_of_mem_survivors {q : String × Int} (hq : q ∈ e.survivors) :
    isSentinel q.1 = false := by
  have hpicked : q ∈ e.picked := by
    unfold survivors at hq
    split at hq
    · exact (firstsBy_sublist _ _).mem hq
    · exact hq
  have hdeclared : q ∈ e.declared :=
    (firstsBy_sublist _ _).mem ((firstsBy_sublist _ _).mem hpicked)
  simpa using List.of_mem_filter hdeclared

/-- The member stands for a variant that survived. -/
theorem Denotes.exists_survivor (h : e.Denotes s pair v) :
    ∃ q ∈ e.survivors, isSentinel q.1 = false ∧ e.layout.variantOf q = v := by
  have hv := h.member
  rw [e.layout_variants] at hv
  obtain ⟨q, hq, rfl⟩ := List.mem_map.1 hv
  exact ⟨q, hq, isSentinel_of_mem_survivors hq, rfl⟩

end EnumInfo

/-- The literals of enum defaults convert the integers that the defaults have. -/
theorem Property.defaultLiteral?_eq_some_iff {ctx : Context} {p : Property} {s literal : String}
    (hkind : p.kind = .enum ∨ p.kind = .byte ∧ p.enum?.isSome = true)
    (hdefault : p.default = .text s) :
    p.defaultLiteral? ctx = some literal ↔
      ∃ info pair v, ctx.enum? p.enumName = some info ∧ info.Denotes s pair v ∧
        literal = p.enumName.spoken ++ ".from_value(" ++ toString v.value ++ ")" := by
  have hliteral : p.defaultLiteral? ctx = enumLiteral? ctx p.enumName (.text s) := by
    rcases hkind with hkind | ⟨hkind, henum⟩
    · simp [defaultLiteral?, hdefault, hkind]
    · simp [defaultLiteral?, hdefault, hkind, henum]
  rw [hliteral, enumLiteral?]
  constructor
  · intro h
    obtain ⟨info, hinfo, h⟩ := Option.bind_eq_some_iff.1 h
    obtain ⟨n, hn, h⟩ := Option.bind_eq_some_iff.1 h
    obtain ⟨pair, v, hdenotes, rfl⟩ := EnumInfo.defaultValue?_eq_some_iff.1 hn
    exact ⟨info, pair, v, hinfo, hdenotes, (Option.some.inj h).symm⟩
  · rintro ⟨info, pair, v, hinfo, hdenotes, rfl⟩
    have hn := EnumInfo.defaultValue?_eq_some_iff.2 ⟨pair, v, hdenotes, rfl⟩
    simp [hinfo, hn]

/-! ## Members -/

theorem Value.equal_int_iff {m n : Int} : Value.equal (.int m) (.int n) = true ↔ m = n := by
  simp [Value.equal, Value.number?, Value.index?, Value.numbersEqual]

namespace EnumLayout

variable {l : EnumLayout} {enum : String} {raw : Int} {v : Variant}

theorem of_fromValue (h : l.fromValue enum raw = some v) :
    v ∈ l.members enum ∧ v.value = l.repr.wrap raw := by
  unfold fromValue at h
  exact ⟨List.mem_of_find?_eq_some h, by simpa using List.find?_some h⟩

theorem exists_fromValue (hv : v ∈ l.members enum) (hvalue : v.value = l.repr.wrap raw) :
    ∃ u, l.fromValue enum raw = some u :=
  Option.isSome_iff_exists.1 (List.find?_isSome.2 ⟨v, hv, decide_eq_true hvalue⟩)

/-- No other variant stands in for one that is private to the enum. -/
theorem fromValue_of_isPrivateTo (hvalues : (l.variants.map (·.value)).Nodup)
    (hv : v ∈ l.variants) (hwrap : l.repr.wrap v.value = v.value)
    (hprivate : isPrivateTo enum v.name = true) : l.fromValue enum v.value = none := by
  cases hfound : l.fromValue enum v.value with
  | none => rfl
  | some u =>
    obtain ⟨hu, hvalue⟩ := of_fromValue hfound
    obtain ⟨humem, hpublic⟩ := List.mem_filter.1 hu
    obtain rfl : u = v := List.inj_on_of_nodup_map hvalues humem hv (hvalue.trans hwrap)
    rw [hprivate] at hpublic
    cases hpublic

end EnumLayout

namespace EnumClass

/-- What the conversion of a class refers to means what it should, so that integers of members are
not refused. -/
structure Converting (c : EnumClass) : Prop where
  converts : c.converts = true
  name : c.name ∉ ["wrap_int", "_REPR", "_DISPLAY_NAMES"]

variable {c : EnumClass} {v : Variant}

/-- A class with members defines its own conversion. -/
theorem isPlain_of_mem_members (hv : v ∈ c.layout.members c.name) : c.isPlain = false := by
  unfold isPlain
  cases hvariants : c.layout.variants with
  | nil =>
    rw [EnumLayout.members, hvariants] at hv
    cases hv
  | cons _ _ => rfl

/-- The integer of a member is taken for itself, also by a class that stands in for the conversion
to integers. -/
theorem intOf_of_mem_members (hconverts : c.converts = true) (hv : v ∈ c.layout.members c.name) :
    c.intOf (.int v.value) = .ok v.value := by
  unfold intOf
  rw [if_neg (by simp [hconverts])]
  split
  · -- A class that stands in for the conversion looks the integer up among its members.
    have hsome : ((c.layout.members c.name).find? fun u =>
        (Value.int v.value).equal (.int u.value)).isSome = true :=
      List.find?_isSome.2 ⟨v, hv, Value.equal_int_iff.2 rfl⟩
    obtain ⟨u, hu⟩ := Option.isSome_iff_exists.1 hsome
    have hvalue : v.value = u.value := Value.equal_int_iff.1 (by simpa using List.find?_some hu)
    rw [hu]
    exact congrArg Except.ok hvalue.symm
  · rfl

/-- Of the members with one integer a class answers some one. -/
theorem exists_memberOf {n : Int} {u : Variant} (hu : c.layout.fromValue c.name n = some u) :
    ∃ w, c.memberOf n = .ok (some (.member w)) ∧ w.value = u.value := by
  unfold memberOf
  rw [hu]
  cases c.extra.find? fun m => m.2 = c.layout.repr.wrap n with
  | none => exact ⟨u, rfl, rfl⟩
  | some m => exact ⟨{ u with name := m.1 }, rfl, rfl⟩

/-- A class answers a member for the integer of each of its members. -/
theorem Converting.exists_fromValue (hc : c.Converting) (hv : v ∈ c.layout.members c.name)
    (hwrap : c.layout.repr.wrap v.value = v.value) :
    ∃ u, c.fromValue (.int v.value) = .ok (some (.member u)) ∧ u.value = v.value := by
  have hplain := isPlain_of_mem_members hv
  have hof := intOf_of_mem_members hc.converts hv
  have hname := hc.name
  simp only [List.mem_cons, List.not_mem_nil, or_false, not_or] at hname
  obtain ⟨hwrapInt, hrepr, hdisplay⟩ := hname
  have hshadow : c.shadowed? = none := by
    unfold shadowed?
    split
    · exact absurd ‹_› hwrapInt
    · exact absurd ‹_› hrepr
    · rfl
  obtain ⟨u, hu⟩ := EnumLayout.exists_fromValue hv hwrap.symm
  have hvalue : u.value = v.value := (EnumLayout.of_fromValue hu).2.trans hwrap
  obtain ⟨w, hmember, hw⟩ := exists_memberOf hu
  refine ⟨w, ?_, hw.trans hvalue⟩
  simp [fromValue, hdisplay, hof, hshadow, hplain, hmember, bind, Except.bind, pure, Except.pure]

end EnumClass

/-! ## Defaults -/

theorem Context.eq_text_of_enum? {ctx : Context} {enum : String} {info : EnumInfo}
    (h : ctx.enum? (.text enum) = some info) : info.name = .text enum :=
  Label.eq_text_of_same (List.find?_some (p := fun e : EnumInfo => e.name.same (.text enum)) h)

open EnumClass

/-- The default of an enum parameter has a literal just when the first variant that it names has,
reduced to the type that the host stores, the value of a member. The literal converts that value,
which is congruent to the declared one, and the member stands for a variant that survived, so the
value of a sentinel has a literal only if a survivor shares it. The class of the enum, if it can be
loaded and its name means nothing to itself, answers a member with the value, unless the member's
name is that of a private attribute: then it answers none. -/
theorem enum_defaults_denote_members {ctx : Context} {p : Property} {s : String}
    (hkind : p.kind = .enum ∨ p.kind = .byte ∧ p.enum?.isSome = true)
    (hdefault : p.default = .text s) :
    (∀ literal, p.defaultLiteral? ctx = some literal ↔
      ∃ info pair v, ctx.enum? p.enumName = some info ∧ info.Denotes s pair v ∧
        literal = p.enumName.spoken ++ ".from_value(" ++ toString v.value ++ ")") ∧
    ∀ info pair v, ctx.enum? p.enumName = some info → info.Denotes s pair v →
      (pair ∈ info.pairs ∧ (pair.1 = s ∨ ("::" ++ s).toList <:+ pair.1.toList)) ∧
      v.value % 2 ^ info.layout.repr.bits = pair.2 % 2 ^ info.layout.repr.bits ∧
      (∃ q ∈ info.survivors, isSentinel q.1 = false ∧ info.layout.variantOf q = v) ∧
      ∀ c, load info = .ok c → (∀ enum, p.enumName = .text enum → c.name = enum) ∧
        (c.Converting → EnumLayout.isPrivateTo c.name v.name = false →
          ∃ u, c.fromValue (.int v.value) = .ok (some (.member u)) ∧ u.value = v.value) ∧
        (c.Unshadowed → EnumLayout.isPrivateTo c.name v.name = true →
          c.fromValue (.int v.value) = .ok none) := by
  refine ⟨fun literal => Property.defaultLiteral?_eq_some_iff hkind hdefault,
    fun info pair v hinfo hdenotes => ⟨hdenotes.names, hdenotes.value_emod,
      hdenotes.exists_survivor, fun c hload => ?_⟩⟩
  obtain ⟨hname, hlayout, -⟩ := of_load hload
  refine ⟨fun enum henum => ?_, fun hc hpublic => ?_, fun hc hprivate => ?_⟩
  · rw [hname, Context.eq_text_of_enum? (henum ▸ hinfo)]
    rfl
  · refine hc.exists_fromValue ?_ (by rw [hlayout]; exact hdenotes.wrap_value)
    rw [hlayout]
    exact List.mem_filter.2 ⟨hdenotes.member, by simp [hpublic]⟩
  · have hne : c.layout.variants ≠ [] := hlayout ▸ List.ne_nil_of_mem hdenotes.member
    rw [fromValue_int hc hne, hlayout,
      EnumLayout.fromValue_of_isPrivateTo info.layout_values hdenotes.member hdenotes.wrap_value
        hprivate]
    rfl

/-- A parameter of an enum type with a default. -/
def defaultParam (default : String) : Property :=
  { name := .text "Mode", kind := .enum, enumName := .text "EMode", default := .text default }

/-- An enum whose last variant marks its end, at the value of another one. -/
def cappedEnum : EnumInfo where
  name := .text "EMode"
  cppName := .text "EMode"
  package := .text "Engine"
  pairs := [("EMode::Off", 0), ("EMode::On", 1), ("EMode::EMode_MAX", 1)]

/-- The end of the enum as a default is the variant with its value. -/
theorem enum_defaults_denote_members_capped :
    (defaultParam "EMode_MAX").defaultLiteral? { enumIndex := [cappedEnum] } =
      some "EMode.from_value(1)" ∧
    ∃ c, load cappedEnum = .ok c ∧
      ∃ u, c.fromValue (.int 1) = .ok (some (.member u)) ∧ u.value = 1 := by
  have hdenotes : cappedEnum.Denotes "EMode_MAX" ("EMode::EMode_MAX", 1) ⟨"On", "On", 1⟩ :=
    ⟨by decide +kernel, by decide +kernel, by decide⟩
  have hinfo : Context.enum? { enumIndex := [cappedEnum] } (.text "EMode") = some cappedEnum := by
    decide +kernel
  have hdefined : defined cappedEnum = .ok ([], true) := by decide +kernel
  have hload : load cappedEnum = .ok ⟨"EMode", cappedEnum.layout, [], true⟩ := by
    rw [load_eq rfl (by decide +kernel)
      (checkTexts_eq_ok (by decide +kernel) (by decide +kernel)) (by decide +kernel), hdefined]
    rfl
  obtain ⟨hliterals, hmembers⟩ := @enum_defaults_denote_members { enumIndex := [cappedEnum] }
    (defaultParam "EMode_MAX") "EMode_MAX" (.inl rfl) rfl
  refine ⟨(hliterals _).2 ⟨_, _, _, hinfo, hdenotes, by decide +kernel⟩, _, hload, ?_⟩
  exact ((hmembers _ _ _ hinfo hdenotes).2.2.2 _ hload).2.1 ⟨rfl, by decide⟩ (by decide +kernel)

/-- An enum with a variant that its class takes for a private attribute. -/
def privateEnum : EnumInfo where
  name := .text "EMode"
  cppName := .text "EMode"
  package := .text "Engine"
  pairs := [("EMode::_EMode__Raw", 5), ("EMode::On", 1)]

/-- The variant has a literal as a default, and its class has no member for it. -/
theorem private_member_is_no_default :
    (defaultParam "_EMode__Raw").defaultLiteral? { enumIndex := [privateEnum] } =
      some "EMode.from_value(5)" ∧
    ∃ c, load privateEnum = .ok c ∧ c.fromValue (.int 5) = .ok none := by
  have hdefined : defined privateEnum = .ok ([], true) := by decide +kernel
  have hload : load privateEnum = .ok ⟨"EMode", privateEnum.layout, [], true⟩ := by
    rw [load_eq rfl (by decide +kernel)
      (checkTexts_eq_ok (by decide +kernel) (by decide +kernel)) (by decide +kernel), hdefined]
    rfl
  have hfound : privateEnum.layout.fromValue "EMode" 5 = none := by decide +kernel
  refine ⟨by decide +kernel, _, hload, ?_⟩
  rw [fromValue_int ⟨rfl, rfl, by decide⟩ (by decide +kernel), hfound]
  rfl

end Bindery
