import Bindery.Naming

/-!
# Snake case

What snake case changes of a name and what it keeps. Where it puts an underscore depends on the
characters on both sides, of which neither is an underscore, so the underscores at the ends of a
name and next to each other are those that the name had there before.

* `Respelled`: a text with some underscores more and some capitals less.
* `doubleUnderscores`: how often two underscores follow each other.
* `SnakeCased`: all that is kept and changed, which `snakeCased_snakeCase` proves.
* `snakeCase_idem`: the snake case of a name in snake case.
-/

namespace Bindery.Naming

/-! ## Characters -/

/-- A text of ASCII characters. -/
def IsAscii (s : String) : Prop := ∀ c ∈ s.toList, c.toNat < 128

-- Not that of bounded quantifiers, which looks through every character where `Char` is finite.
instance (s : String) : Decidable (IsAscii s) :=
  decidable_of_iff (s.toList.all fun c => decide (c.toNat < 128)) (by simp [IsAscii])

/-- What holds of the first 128 characters holds of those of ASCII. -/
theorem forall_ascii {P : Char → Prop} (h : ∀ n < 128, P (Char.ofNat n)) {c : Char}
    (hc : c.toNat < 128) : P c :=
  Char.ofNat_toNat c ▸ h c.toNat hc

theorem toNat_toLower {c : Char} (hc : c.isUpper = true) :
    65 ≤ c.toNat ∧ c.toNat ≤ 90 ∧ c.toLower.toNat = c.toNat + 32 := by
  have hrange : c.val ≥ 'A'.val ∧ c.val ≤ 'Z'.val := of_decide_eq_true hc
  have hlow : 65 ≤ c.toNat := UInt32.le_iff_toNat_le.1 hrange.1
  have hhigh : c.toNat ≤ 90 := UInt32.le_iff_toNat_le.1 hrange.2
  have hlower : c.toLower.toNat = (c.val + 32).toNat := congrArg Char.toNat (dif_pos hrange)
  refine ⟨hlow, hhigh, ?_⟩
  rw [hlower, UInt32.toNat_add]
  exact Nat.mod_eq_of_lt (show c.toNat + 32 < 2 ^ 32 by omega)

theorem isUpper_toLower {c : Char} (hc : c.isUpper = true) : c.toLower.isUpper = false := by
  obtain ⟨hlow, -, hval⟩ := toNat_toLower hc
  refine decide_eq_false fun h => ?_
  have hhigh : c.toLower.toNat ≤ 90 := UInt32.le_iff_toNat_le.1 h.2
  omega

theorem toLower_eq_self {c : Char} (hc : c.isUpper = false) : c.toLower = c :=
  dif_neg (of_decide_eq_false hc)

theorem ne_underscore_of_isUpper {c : Char} (hc : c.isUpper = true) : c ≠ '_' := by
  rintro rfl
  cases hc

@[simp] theorem toLower_eq_underscore_iff {c : Char} : c.toLower = '_' ↔ c = '_' := by
  cases hc : c.isUpper with
  | false => rw [toLower_eq_self hc]
  | true =>
    refine iff_of_false (fun h => ?_) (ne_underscore_of_isUpper hc)
    obtain ⟨hlow, -, hval⟩ := toNat_toLower hc
    rw [h] at hval
    exact absurd (show 95 = c.toNat + 32 from hval) (by omega)

/-- What comes of one character: it is turned into a lower case letter if it is a capital, and it
gets an underscore in front if a word starts at it. -/
theorem snakeChars_cons (before : Option Char) (c : Char) (rest : List Char) :
    snakeChars before (c :: rest) =
      if c.isUpper && startsWord before rest then '_' :: c.toLower :: snakeChars (some c) rest
      else c.toLower :: snakeChars (some c) rest := by
  rw [snakeChars]
  cases hc : c.isUpper with
  | false => simp [toLower_eq_self hc]
  | true => simp

theorem isUpper_of_mem_snakeChars {before : Option Char} {cs : List Char} {c : Char}
    (h : c ∈ snakeChars before cs) : c.isUpper = false := by
  induction cs generalizing before with
  | nil => cases h
  | cons d rest ih =>
    have hlower : d.toLower.isUpper = false := by
      cases hd : d.isUpper with
      | false => rw [toLower_eq_self hd, hd]
      | true => exact isUpper_toLower hd
    rw [snakeChars_cons] at h
    split at h
    · rcases List.mem_cons.1 h with rfl | h
      · rfl
      · exact (List.mem_cons.1 h).elim (fun he => he ▸ hlower) ih
    · exact (List.mem_cons.1 h).elim (fun he => he ▸ hlower) ih

/-- No capital is left. -/
theorem isUpper_of_mem_snakeCase {name : String} {c : Char} (h : c ∈ (snakeCase name).toList) :
    c.isUpper = false := by
  rw [snakeCase, String.toList_ofList] at h
  exact isUpper_of_mem_snakeChars h

/-- Nothing changes where there is no capital. -/
theorem snakeChars_eq_self {before : Option Char} {cs : List Char}
    (h : ∀ c ∈ cs, c.isUpper = false) : snakeChars before cs = cs := by
  induction cs generalizing before with
  | nil => rfl
  | cons c rest ih =>
    obtain ⟨hc, hrest⟩ := List.forall_mem_cons.1 h
    rw [snakeChars_cons, ih hrest, hc, toLower_eq_self hc]
    rfl

/-- A name in snake case stays as it is. -/
theorem snakeCase_idem (name : String) : snakeCase (snakeCase name) = snakeCase name := by
  rw [snakeCase, snakeChars_eq_self fun _ => isUpper_of_mem_snakeCase, String.ofList_toList]

/-! ## Changes -/

/-- A text into which underscores are put, and of whose capitals some are turned into lower case
letters. -/
inductive Respelled : List Char → List Char → Prop
  | nil : Respelled [] []
  | underscore {cs ds : List Char} : Respelled cs ds → Respelled cs ('_' :: ds)
  | same (c : Char) {cs ds : List Char} : Respelled cs ds → Respelled (c :: cs) (c :: ds)
  | lower {c : Char} {cs ds : List Char} (hc : c.isUpper = true) :
      Respelled cs ds → Respelled (c :: cs) (c.toLower :: ds)

theorem Respelled.toLower (c : Char) {cs ds : List Char} (h : Respelled cs ds) :
    Respelled (c :: cs) (c.toLower :: ds) := by
  cases hc : c.isUpper with
  | false =>
    rw [toLower_eq_self hc]
    exact h.same c
  | true => exact h.lower hc

theorem respelled_snakeChars (before : Option Char) (cs : List Char) :
    Respelled cs (snakeChars before cs) := by
  induction cs generalizing before with
  | nil => exact .nil
  | cons c rest ih =>
    rw [snakeChars_cons]
    split
    · exact ((ih _).toLower c).underscore
    · exact (ih _).toLower c

/-- No character beyond ASCII comes in. -/
theorem Respelled.ascii {cs ds : List Char} (h : Respelled cs ds) (hcs : ∀ c ∈ cs, c.toNat < 128) :
    ∀ d ∈ ds, d.toNat < 128 := by
  induction h with
  | nil => exact List.forall_mem_nil _
  | underscore _ ih => exact List.forall_mem_cons.2 ⟨by decide, ih hcs⟩
  | same c _ ih =>
    obtain ⟨hc, hcs⟩ := List.forall_mem_cons.1 hcs
    exact List.forall_mem_cons.2 ⟨hc, ih hcs⟩
  | lower hc _ ih =>
    obtain ⟨-, hhigh, hval⟩ := toNat_toLower hc
    exact List.forall_mem_cons.2 ⟨by omega, ih (List.forall_mem_cons.1 hcs).2⟩

/-! ## Underscores -/

/-- How often two underscores follow each other in a text. -/
def doubleUnderscores : List Char → Nat
  | [] => 0
  | c :: rest => (if c = '_' ∧ rest.head? = some '_' then 1 else 0) + doubleUnderscores rest

/-- Where no word can start, the first character stays the first one. -/
theorem head?_snakeChars {before : Option Char} (h : ∀ after, startsWord before after = false)
    (cs : List Char) : (snakeChars before cs).head? = cs.head?.map Char.toLower := by
  cases cs with
  | nil => rfl
  | cons c rest => rw [snakeChars_cons, h, Bool.and_false]; rfl

theorem getLast?_snakeChars (before : Option Char) (cs : List Char) :
    (snakeChars before cs).getLast? = cs.getLast?.map Char.toLower := by
  induction cs generalizing before with
  | nil => rfl
  | cons c rest ih =>
    rw [snakeChars_cons]
    split <;> simp [List.getLast?_cons, ih, Option.getD_map]

/-- No underscore comes next to another one. -/
theorem doubleUnderscores_snakeChars (before : Option Char) (cs : List Char) :
    doubleUnderscores (snakeChars before cs) = doubleUnderscores cs := by
  induction cs generalizing before with
  | nil => rfl
  | cons c rest ih =>
    -- A word cannot start behind an underscore.
    have hnext : c = '_' →
        ((snakeChars (some c) rest).head? = some '_' ↔ rest.head? = some '_') := by
      rintro rfl
      rw [head?_snakeChars fun _ => rfl]
      simp
    have hcons : doubleUnderscores (c.toLower :: snakeChars (some c) rest) =
        doubleUnderscores (c :: rest) := by
      simp only [doubleUnderscores, ih, toLower_eq_underscore_iff, and_congr_right_iff.2 hnext]
    rw [snakeChars_cons]
    split
    · next hstart =>
      have hc := ne_underscore_of_isUpper (Bool.and_eq_true_iff.1 hstart).1
      rw [doubleUnderscores, hcons]
      simp [hc]
    · exact hcons

/-- A name and its snake case: underscores are put in, but none at an end and none next to another
one, and all capitals are turned into lower case letters. -/
structure SnakeCased (name result : String) : Prop where
  respelled : Respelled name.toList result.toList
  lower : ∀ c ∈ result.toList, c.isUpper = false
  first : result.toList.head? = some '_' ↔ name.toList.head? = some '_'
  last : result.toList.getLast? = some '_' ↔ name.toList.getLast? = some '_'
  doubles : doubleUnderscores result.toList = doubleUnderscores name.toList

theorem snakeCased_snakeCase (name : String) : SnakeCased name (snakeCase name) where
  respelled := by
    rw [snakeCase, String.toList_ofList]
    exact respelled_snakeChars none _
  lower _ := isUpper_of_mem_snakeCase
  first := by
    rw [snakeCase, String.toList_ofList, head?_snakeChars fun _ => rfl]
    simp
  last := by
    rw [snakeCase, String.toList_ofList, getLast?_snakeChars]
    simp
  doubles := by
    rw [snakeCase, String.toList_ofList]
    exact doubleUnderscores_snakeChars none _

theorem SnakeCased.ascii {name result : String} (h : SnakeCased name result)
    (hname : IsAscii name) : IsAscii result :=
  h.respelled.ascii hname

end Bindery.Naming
