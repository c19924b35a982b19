import Bindery.Enum.Layout
import Bindery.Proofs.Wire.Wrap
import Mathlib.Data.List.Nodup

/-!
# Members of enums

Two passes choose the members of an enum: the first one drops values and names that were seen
before, the second one, of an enum with a negative value, values that are the same in the signed
type. What remains has names and values of its own, and the integers of the host recover it.

* `EnumInfo.Representable`: every declared value has a place in the declared type.
* `pickVariants_fresh`, `nodup_pickVariants`, `reduceVariants_fresh`, `nodup_reduceVariants`: what
  each pass keeps.
* `EnumLayout.Lawful`, `EnumInfo.layout_lawful`: what both passes together come to.
* `EnumLayout.Lawful.fromValue_eq_some_iff`: the member for an integer.
-/

namespace Bindery

/-! ## The first pass -/

/-- What the first pass keeps is new, in its value as in its name, and its value was declared. -/
theorem pickVariants_fresh {values : List Int} {names : List String} {pairs : List (String × Int)}
    {v : Variant} (h : v ∈ pickVariants values names pairs) :
    v.value ∉ values ∧ v.name ∉ names ∧ v.value ∈ pairs.map (·.2) := by
  induction pairs generalizing values names with
  | nil => cases h
  | cons p rest ih =>
    obtain ⟨variant, value⟩ := p
    rw [pickVariants] at h
    split at h
    · obtain ⟨hvalue, hname, hpair⟩ := ih h
      exact ⟨hvalue, hname, List.mem_cons_of_mem _ hpair⟩
    · next hnew =>
      simp only at h
      split at h
      · obtain ⟨hvalue, hname, hpair⟩ := ih h
        exact ⟨fun hm => hvalue (List.mem_cons_of_mem _ hm), hname, List.mem_cons_of_mem _ hpair⟩
      · next hfree =>
        rcases List.mem_cons.mp h with rfl | h
        · exact ⟨by simp_all, by simpa using hfree, List.mem_cons_self⟩
        · obtain ⟨hvalue, hname, hpair⟩ := ih h
          exact ⟨fun hm => hvalue (List.mem_cons_of_mem _ hm),
            fun hm => hname (List.mem_cons_of_mem _ hm), List.mem_cons_of_mem _ hpair⟩

/-- So no value and no name is kept twice. -/
theorem nodup_pickVariants (values : List Int) (names : List String) (pairs : List (String × Int)) :
    ((pickVariants values names pairs).map (·.name)).Nodup ∧
      ((pickVariants values names pairs).map (·.value)).Nodup := by
  induction pairs generalizing values names with
  | nil => exact ⟨.nil, .nil⟩
  | cons p rest ih =>
    obtain ⟨variant, value⟩ := p
    rw [pickVariants]
    split
    · exact ih _ _
    · simp only
      split
      · exact ih _ _
      · obtain ⟨hnames, hvalues⟩ := ih (value :: values)
          (Naming.enumMemberName (Naming.unscoped variant) :: names)
        simp only [List.map_cons, List.nodup_cons, List.mem_map]
        refine ⟨⟨?_, hnames⟩, ?_, hvalues⟩
        · rintro ⟨v, hv, he⟩
          exact (pickVariants_fresh hv).2.1 (he ▸ List.mem_cons_self)
        · rintro ⟨v, hv, he⟩
          exact (pickVariants_fresh hv).1 (he ▸ List.mem_cons_self)

/-! ## The second pass -/

/-- What the second pass keeps is new, too, and in the range of the signed type. -/
theorem reduceVariants_fresh {t : IntType} {values : List Int} {variants : List Variant}
    {v : Variant} (h : v ∈ reduceVariants t values variants) :
    v.value ∉ values ∧ t.Holds v.value := by
  induction variants generalizing values with
  | nil => cases h
  | cons u rest ih =>
    rw [reduceVariants] at h
    split at h
    · exact ih h
    · next hnew =>
      rcases List.mem_cons.mp h with rfl | h
      · exact ⟨by simpa using hnew, t.wrap_holds _⟩
      · obtain ⟨hvalue, hholds⟩ := ih h
        exact ⟨fun hm => hvalue (List.mem_cons_of_mem _ hm), hholds⟩

private theorem nodup_reduceVariants (t : IntType) (values : List Int) (variants : List Variant) :
    ((reduceVariants t values variants).map (·.value)).Nodup := by
  induction variants generalizing values with
  | nil => exact .nil
  | cons u rest ih =>
    rw [reduceVariants]
    split
    · exact ih _
    · simp only [List.map_cons, List.nodup_cons, List.mem_map]
      refine ⟨?_, ih _⟩
      rintro ⟨v, hv, he⟩
      exact (reduceVariants_fresh hv).1 (he ▸ List.mem_cons_self)

private theorem reduceVariants_names (t : IntType) (values : List Int) (variants : List Variant) :
    ((reduceVariants t values variants).map (·.name)).Sublist (variants.map (·.name)) := by
  induction variants generalizing values with
  | nil => exact .slnil
  | cons u rest ih =>
    rw [reduceVariants]
    split
    · exact (ih _).cons _
    · exact (ih _).cons_cons _

/-! ## Layouts -/

/-- A layout whose variants are known by their names and by their values, which are in the range
of the type that the host stores them in. -/
structure EnumLayout.Lawful (l : EnumLayout) : Prop where
  names : (l.variants.map (·.name)).Nodup
  values : (l.variants.map (·.value)).Nodup
  holds : ∀ v ∈ l.variants, l.repr.Holds v.value

/-- Whether every declared value has a place in the declared type, where a negative one of an
unsigned type stands for one of the signed type. -/
def EnumInfo.Representable (e : EnumInfo) : Prop :=
  let t := enumType e.underlying
  ∀ p ∈ e.pairs, -t.half ≤ p.2 ∧ p.2 < if t.signed then t.half else t.modulus

instance (e : EnumInfo) : Decidable e.Representable :=
  inferInstanceAs (Decidable (∀ p ∈ e.pairs, _))

theorem EnumInfo.layout_width (e : EnumInfo) :
    e.layout.repr.width = (enumType e.underlying).width := by
  unfold EnumInfo.layout
  simp only
  split <;> rfl

/-- The second pass changes the sign of the type and not its width. -/
theorem EnumInfo.layout_modulus (e : EnumInfo) :
    e.layout.repr.modulus = (enumType e.underlying).modulus := by
  rw [IntType.modulus, IntType.modulus, IntType.bits, IntType.bits, e.layout_width]

theorem EnumInfo.layout_names (e : EnumInfo) : (e.layout.variants.map (·.name)).Nodup := by
  have hnames := (nodup_pickVariants [] [] e.pairs).1
  unfold EnumInfo.layout
  simp only
  split
  · exact hnames.sublist (reduceVariants_names _ _ _)
  · exact hnames

/-- The values of a layout are distinct after either pass. -/
theorem EnumInfo.layout_values (e : EnumInfo) : (e.layout.variants.map (·.value)).Nodup := by
  unfold EnumInfo.layout
  simp only
  split
  · exact nodup_reduceVariants _ _ _
  · exact (nodup_pickVariants [] [] e.pairs).2

/-- A declared value that has a place in the declared type is in the range of the layout's type. -/
theorem EnumInfo.layout_lawful {e : EnumInfo} (h : e.Representable) : e.layout.Lawful := by
  refine ⟨e.layout_names, e.layout_values, ?_⟩
  unfold EnumInfo.layout
  simp only
  split
  · exact fun v hv => (reduceVariants_fresh hv).2
  · -- Without a negative value there is no second pass, and the declared type is kept.
    next hpositive =>
    intro v hv
    have h0 : 0 ≤ v.value := by
      simp only [List.any_eq_true, not_exists, not_and, decide_eq_true_eq, Int.not_lt] at hpositive
      exact hpositive v hv
    obtain ⟨p, hp, he⟩ := List.mem_map.mp (pickVariants_fresh hv).2.2
    have hplace := h p hp
    have hhalf := (enumType e.underlying).half_pos
    rw [he] at hplace
    change (enumType e.underlying).Holds v.value
    unfold IntType.Holds
    cases hs : (enumType e.underlying).signed with
    | true =>
      rw [hs, if_pos rfl] at hplace
      rw [if_pos rfl]
      omega
    | false =>
      rw [hs, if_neg Bool.false_ne_true] at hplace
      rw [if_neg Bool.false_ne_true]
      omega

namespace EnumLayout

variable {l : EnumLayout} {enum : String}

/-- The member for an integer is the one whose value is congruent to it. -/
theorem Lawful.fromValue_eq_some_iff (h : l.Lawful) {raw : Int} {v : Variant} :
    l.fromValue enum raw = some v ↔
      v ∈ l.members enum ∧ v.value % l.repr.modulus = raw % l.repr.modulus := by
  have hmem : ∀ {u : Variant}, u ∈ l.members enum → u ∈ l.variants := List.mem_of_mem_filter
  unfold fromValue
  constructor
  · intro hf
    have hv : v.value = l.repr.wrap raw := by simpa using List.find?_some hf
    exact ⟨List.mem_of_find?_eq_some hf, by rw [hv, IntType.wrap_emod]⟩
  · rintro ⟨hv, hc⟩
    have hwrap : v.value = l.repr.wrap raw := IntType.eq_wrap (h.holds v (hmem hv)) hc
    cases hf : (l.members enum).find? fun u => u.value = l.repr.wrap raw with
    | none => simpa [hwrap] using List.find?_eq_none.mp hf v hv
    | some u =>
      have hu : u.value = l.repr.wrap raw := by simpa using List.find?_some hf
      rw [List.inj_on_of_nodup_map h.values (hmem (List.mem_of_find?_eq_some hf)) (hmem hv)
        (hu.trans hwrap.symm)]

end EnumLayout
end Bindery
