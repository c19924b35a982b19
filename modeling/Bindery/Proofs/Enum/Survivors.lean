import Bindery.Proofs.Enum.Layout

/-!
# Surviving variants

What the variants of an enum fall to. Three passes choose the members, and in each one the first
variant stays: one by the declared values, one by the member names of those that are left, and, of
an enum with a negative value, one by the values in the signed type. A variant that falls to its
name has made others fall to its value before.

* `firstsBy`: the members of a list with a key that no earlier one has.
* `pickVariants_eq`, `reduceVariants_eq`, `EnumInfo.layout_variants`: the layout by such passes.
* `EnumInfo.HasValue`: a variant with a declared value, as far as the host tells values apart.
* `EnumInfo.NamesApartAt`: a declared value that no variant loses for its name.
* `variants_fall_to_survivors`: which variant stands for a declared one in the end.
* `variant_falls_to_dropped_one`: a variant of which neither the value nor the name is left.
-/

namespace Bindery

/-! ## First ones -/

/-- The members of a list whose key is none of `seen` and that of no earlier member. -/
def firstsBy {α β : Type} [BEq β] (key : α → β) (seen : List β) : List α → List α
  | [] => []
  | x :: xs =>
    if seen.contains (key x) then firstsBy key seen xs else x :: firstsBy key (key x :: seen) xs

section Firsts

variable {α β γ : Type} [DecidableEq β] {key : α → β}

theorem firstsBy_sublist (seen : List β) (xs : List α) : (firstsBy key seen xs).Sublist xs := by
  induction xs generalizing seen with
  | nil => exact .slnil
  | cons x xs ih =>
    rw [firstsBy]
    split
    · exact (ih _).cons _
    · exact (ih _).cons_cons _

/-- Keys may be taken before or after a map. -/
theorem firstsBy_map (f : γ → α) (seen : List β) (xs : List γ) :
    firstsBy key seen (xs.map f) = (firstsBy (fun x => key (f x)) seen xs).map f := by
  induction xs generalizing seen with
  | nil => rfl
  | cons x xs ih =>
    simp only [List.map_cons, firstsBy]
    split
    · exact ih _
    · rw [ih, List.map_cons]

/-- The first member with a key stays. -/
theorem find?_firstsBy {k : β} {seen : List β} (hk : k ∉ seen) (xs : List α) :
    (firstsBy key seen xs).find? (fun x => key x = k) = xs.find? fun x => key x = k := by
  induction xs generalizing seen with
  | nil => rfl
  | cons x xs ih =>
    rw [firstsBy]
    by_cases hx : key x = k
    · rw [if_neg (by simpa [hx] using hk), List.find?_cons_of_pos (by simpa using hx),
        List.find?_cons_of_pos (by simpa using hx)]
    · rw [List.find?_cons_of_neg (by simpa using hx)]
      split
      · exact ih hk
      · rw [List.find?_cons_of_neg (by simpa using hx)]
        refine ih fun hmem => ?_
        rcases List.mem_cons.1 hmem with rfl | hmem
        · exact hx rfl
        · exact hk hmem

/-- A member falls to the first one with its key, which stays. -/
theorem exists_first (key : α → β) {xs : List α} {x : α} (hx : x ∈ xs) :
    ∃ y, xs.find? (fun z => key z = key x) = some y ∧ y ∈ firstsBy key [] xs ∧ key y = key x := by
  have hsome : (xs.find? fun z => key z = key x).isSome = true :=
    List.find?_isSome.2 ⟨x, hx, decide_eq_true rfl⟩
  obtain ⟨y, hy⟩ := Option.isSome_iff_exists.1 hsome
  refine ⟨y, hy, ?_, by simpa using List.find?_some hy⟩
  rw [← find?_firstsBy List.not_mem_nil] at hy
  exact List.mem_of_find?_eq_some hy

/-- The member that is found first stands before every other one that has the property. -/
theorem rel_of_find? {R : α → α → Prop} {p : α → Bool} {xs : List α} {x y : α}
    (hpairwise : xs.Pairwise R) (hfind : xs.find? p = some x) (hy : y ∈ xs) (hp : p y = true) :
    x = y ∨ R x y := by
  obtain ⟨-, before, after, rfl, hbefore⟩ := List.find?_eq_some_iff_append.1 hfind
  rcases List.mem_append.1 hy with hy | hy
  · exact absurd hp (by simpa using hbefore y hy)
  · rcases List.mem_cons.1 hy with rfl | hy
    · exact .inl rfl
    · exact .inr ((List.pairwise_cons.1 (List.pairwise_append.1 hpairwise).2.1).1 y hy)

end Firsts

/-! ## Layouts -/

/-- The member name of a declared variant. -/
def memberNameOf (variant : String) : String := Naming.enumMemberName (Naming.unscoped variant)

/-- The member that a layout has for a declared variant, if it has one. -/
def EnumLayout.variantOf (l : EnumLayout) (p : String × Int) : Variant :=
  ⟨memberNameOf p.1, Naming.unscoped p.1, if l.signed then l.repr.wrap p.2 else p.2⟩

@[simp] theorem EnumLayout.variantOf_name (l : EnumLayout) (p : String × Int) :
    (l.variantOf p).name = memberNameOf p.1 := by
  rw [variantOf]

@[simp] theorem EnumLayout.variantOf_value (l : EnumLayout) (p : String × Int) :
    (l.variantOf p).value = if l.signed then l.repr.wrap p.2 else p.2 := by
  rw [variantOf]

/-- The first two passes: by declared values, then by member names among those that are left. -/
theorem pickVariants_eq (values : List Int) (names : List String) (pairs : List (String × Int)) :
    pickVariants values names pairs =
      (firstsBy (fun p => memberNameOf p.1) names
        (firstsBy (·.2) values (pairs.filter fun p => !isSentinel p.1))).map fun p =>
          ⟨memberNameOf p.1, Naming.unscoped p.1, p.2⟩ := by
  induction pairs generalizing values names with
  | nil => rfl
  | cons p rest ih =>
    obtain ⟨variant, value⟩ := p
    rw [pickVariants]
    cases hsentinel : isSentinel variant with
    | true => rw [Bool.true_or, if_pos rfl, ih, List.filter_cons_of_neg (by simp [hsentinel])]
    | false =>
      rw [Bool.false_or, List.filter_cons_of_pos (by simp [hsentinel]), firstsBy]
      split
      · exact ih _ _
      · rw [firstsBy]
        change (if names.contains (memberNameOf variant) then _ else _) = _
        split
        · exact ih _ _
        · rw [ih, List.map_cons]
          rfl

/-- The third pass: by the values in the signed type. -/
theorem reduceVariants_eq (t : IntType) (values : List Int) (variants : List Variant) :
    reduceVariants t values variants =
      (firstsBy (fun v => t.wrap v.value) values variants).map fun v =>
        { v with value := t.wrap v.value } := by
  induction variants generalizing values with
  | nil => rfl
  | cons v rest ih =>
    rw [reduceVariants, firstsBy]
    split
    · exact ih _
    · rw [ih, List.map_cons]

namespace EnumInfo

/-- The variants of an enum that mark no end. -/
def declared (e : EnumInfo) : List (String × Int) := e.pairs.filter fun p => !isSentinel p.1

/-- The variants with values and member names of their own. -/
def picked (e : EnumInfo) : List (String × Int) :=
  firstsBy (fun p => memberNameOf p.1) [] (firstsBy (·.2) [] e.declared)

/-- The variants that have a member. -/
def survivors (e : EnumInfo) : List (String × Int) :=
  if e.layout.signed then firstsBy (fun p => e.layout.repr.wrap p.2) [] e.picked else e.picked

/-- The members of a layout are the survivors in their order. -/
theorem layout_variants (e : EnumInfo) :
    e.layout.variants = e.survivors.map e.layout.variantOf := by
  have hpicked : pickVariants [] [] e.pairs = e.picked.map fun p =>
      ⟨memberNameOf p.1, Naming.unscoped p.1, p.2⟩ := pickVariants_eq [] [] e.pairs
  by_cases hnegative : ((pickVariants [] [] e.pairs).any fun v => v.value < 0) = true
  · have hlayout : e.layout = ⟨(enumType e.underlying).toSigned, true,
        reduceVariants (enumType e.underlying).toSigned [] (pickVariants [] [] e.pairs)⟩ := by
      rw [layout, if_pos hnegative]
    rw [survivors, hlayout]
    dsimp only
    rw [if_pos rfl, reduceVariants_eq, hpicked, firstsBy_map, List.map_map]
    exact List.map_congr_left fun p _ => by simp only [Function.comp, EnumLayout.variantOf, if_true]
  · have hlayout : e.layout = ⟨enumType e.underlying, false, pickVariants [] [] e.pairs⟩ := by
      rw [layout, if_neg hnegative]
    rw [survivors, hlayout]
    dsimp only
    rw [if_neg Bool.false_ne_true, hpicked]
    rfl

/-- Whether a variant of the layout has a declared value, reduced to the type that the host stores.
Where that type has no place for a declared value, the layout can hold it as it is. -/
def HasValue (e : EnumInfo) (v : Variant) (value : Int) : Prop :=
  e.layout.repr.wrap v.value = e.layout.repr.wrap value ∧
    (e.Representable → v.value = e.layout.repr.wrap value)

/-- Whether no variant with a value comes behind one with the same member name and another value. -/
def NamesApartAt (e : EnumInfo) (value : Int) : Prop :=
  e.declared.Pairwise fun r q => q.2 = value → memberNameOf r.1 = memberNameOf q.1 → r.2 = value

instance (e : EnumInfo) (value : Int) : Decidable (e.NamesApartAt value) :=
  inferInstanceAs (Decidable (List.Pairwise _ _))

variable {e : EnumInfo}

theorem hasValue_of_wrap {v : Variant} {value : Int} (hv : v ∈ e.layout.variants)
    (hwrap : e.layout.repr.wrap v.value = e.layout.repr.wrap value) : e.HasValue v value :=
  ⟨hwrap, fun h => (IntType.wrap_of_holds ((layout_lawful h).holds v hv)).symm.trans hwrap⟩

/-- What is picked has its value in the layout, and its name too if all values stay as they are. -/
theorem exists_survivor {r : String × Int} (hr : r ∈ e.picked) :
    ∃ v ∈ e.layout.variants, e.HasValue v r.2 ∧
      (e.layout.signed = false → v.name = memberNameOf r.1) := by
  have hvariants := e.layout_variants
  cases hsigned : e.layout.signed with
  | false =>
    have hmem : e.layout.variantOf r ∈ e.layout.variants := by
      rw [hvariants, survivors, hsigned]
      exact List.mem_map_of_mem hr
    refine ⟨_, hmem, hasValue_of_wrap hmem ?_, fun _ => e.layout.variantOf_name r⟩
    rw [EnumLayout.variantOf_value, hsigned, if_neg Bool.false_ne_true]
  | true =>
    obtain ⟨r', -, hr', hwrap⟩ := exists_first (fun p => e.layout.repr.wrap p.2) hr
    have hmem : e.layout.variantOf r' ∈ e.layout.variants := by
      rw [hvariants, survivors, hsigned, if_pos rfl]
      exact List.mem_map_of_mem hr'
    refine ⟨_, hmem, hasValue_of_wrap hmem ?_, nofun⟩
    rw [EnumLayout.variantOf_value, hsigned, if_pos rfl, IntType.wrap_wrap (Nat.le_refl _)]
    exact hwrap

end EnumInfo

/-! ## What a variant falls to -/

/-- The members of an enum are its variants after the passes by declared values, by member names,
and, in a signed layout, by reduced values. So a variant falls to the first one with its value, that
one to the first one left with its member name, and the value of that one is in the layout, under
its name unless the layout is signed. The value of a variant is in the layout itself if no variant
with it comes behind one with the same member name and another value. -/
theorem variants_fall_to_survivors (e : EnumInfo) :
    e.layout.variants = e.survivors.map e.layout.variantOf ∧
    ∀ p ∈ e.declared,
      (∃ q r, e.declared.find? (fun x => x.2 = p.2) = some q ∧
        (firstsBy (·.2) [] e.declared).find? (fun x => memberNameOf x.1 = memberNameOf q.1) =
          some r ∧
        ∃ v ∈ e.layout.variants, e.HasValue v r.2 ∧
          (e.layout.signed = false → v.name = memberNameOf q.1)) ∧
      (e.NamesApartAt p.2 → ∃ v ∈ e.layout.variants, e.HasValue v p.2) := by
  refine ⟨e.layout_variants, fun p hp => ?_⟩
  obtain ⟨q, hq, hqmem, hvalue⟩ := exists_first (fun x : String × Int => x.2) hp
  obtain ⟨r, hr, hrmem, hname⟩ := exists_first (fun x => memberNameOf x.1) hqmem
  obtain ⟨v, hv, hhas, hvname⟩ := EnumInfo.exists_survivor hrmem
  refine ⟨⟨q, r, hq, hr, v, hv, hhas, fun hsigned => (hvname hsigned).trans hname⟩,
    fun happart => ?_⟩
  have hrel := rel_of_find? (happart.sublist (firstsBy_sublist [] _)) hr hqmem (decide_eq_true rfl)
  have hsame : r.2 = p.2 := by
    rcases hrel with rfl | hrel
    · exact hvalue
    · exact hrel hvalue hname
  exact ⟨v, hv, hsame ▸ hhas⟩

/-- A variant that has its value from another one. -/
def aliasedEnum : EnumInfo where
  name := .text "EMode"
  cppName := .text "EMode"
  package := .text "Engine"
  pairs := [("EMode::Off", 0), ("EMode::On", 1), ("EMode::Active", 1), ("EMode::EMode_MAX", 2)]

/-- The third variant has its value from the second one, and its value is in the layout. -/
theorem variants_fall_to_survivors_aliased :
    ("EMode::Active", 1) ∈ aliasedEnum.declared ∧ aliasedEnum.NamesApartAt 1 ∧
    ∃ v ∈ aliasedEnum.layout.variants, v.value = 1 := by
  have hdeclared : ("EMode::Active", 1) ∈ aliasedEnum.declared := by decide +kernel
  have happart : aliasedEnum.NamesApartAt 1 := by decide +kernel
  obtain ⟨v, hv, -, hvalue⟩ := ((variants_fall_to_survivors aliasedEnum).2 _ hdeclared).2 happart
  refine ⟨hdeclared, happart, v, hv, (hvalue ?_).trans (by decide +kernel)⟩
  decide +kernel

/-- Two variants with one member name, the second of which makes a third one fall to its value. -/
def shadowedEnum : EnumInfo where
  name := .text "EMode"
  cppName := .text "EMode"
  package := .text "Engine"
  pairs := [("EMode::None_", 0), ("EMode::None", 1), ("EMode::Nothing", 1)]

/-- A declared variant of which the layout has neither the value nor the name. -/
theorem variant_falls_to_dropped_one :
    ("EMode::Nothing", 1) ∈ shadowedEnum.pairs ∧ isSentinel "EMode::Nothing" = false ∧
    ¬ ∃ v ∈ shadowedEnum.layout.variants,
      v.value = shadowedEnum.layout.repr.wrap 1 ∨ v.name = memberNameOf "EMode::Nothing" := by
  decide +kernel

end Bindery
