import Bindery.Wire.Basic

/-!
# Reduction to the range of an integer type

* `IntType.Holds`: the integers of a type's range, `IntType.modulus` many.
* `IntType.wrap_holds`, `IntType.wrap_emod`, `IntType.eq_wrap`: the reduced integer is the one
  integer of the range that is congruent to the given one.
* `IntType.wrap_wrap`: a reduction to a type at least as wide does not matter before a second one.
-/

namespace Bindery.IntType

/-- The number of values of a type. -/
def modulus (t : IntType) : Int := Nat.pow 2 t.bits

/-- The number of values of a type that are not negative, if it is signed. -/
def half (t : IntType) : Int := Nat.pow 2 (t.bits - 1)

/-- Whether an integer is in the range of a type. -/
def Holds (t : IntType) (v : Int) : Prop :=
  if t.signed then -t.half ≤ v ∧ v < t.half else 0 ≤ v ∧ v < t.modulus

instance (t : IntType) (v : Int) : Decidable (t.Holds v) :=
  inferInstanceAs (Decidable
    (if t.signed then -t.half ≤ v ∧ v < t.half else 0 ≤ v ∧ v < t.modulus))

variable (t : IntType)

theorem bits_pos : 0 < t.bits := by
  unfold bits
  cases t.width <;> decide

theorem half_pos : 0 < t.half := Int.natCast_pos.mpr (Nat.pow_pos (by decide))

/-- `half` is half of the number of values. -/
theorem modulus_eq : t.modulus = 2 * t.half := by
  have h : t.bits = t.bits - 1 + 1 := by have := t.bits_pos; omega
  have hpow : Nat.pow 2 (t.bits - 1 + 1) = Nat.pow 2 (t.bits - 1) * 2 := rfl
  rw [modulus, half, h, hpow, Nat.add_sub_cancel]
  omega

theorem natCast_pow_bits : ((Nat.pow 2 t.bits : Nat) : Int) = t.modulus := rfl

theorem wrap_eq_bmod {t : IntType} (h : t.signed = true) (v : Int) :
    t.wrap v = Int.bmod v (Nat.pow 2 t.bits) := by
  simp [wrap, h]

theorem wrap_eq_emod {t : IntType} (h : t.signed = false) (v : Int) :
    t.wrap v = v % t.modulus := by
  rw [← natCast_pow_bits]
  simp [wrap, h]

/-- The reduced integer is in the range. -/
theorem wrap_holds (v : Int) : t.Holds (t.wrap v) := by
  have hm := t.modulus_eq
  have hp := t.half_pos
  have hc := t.natCast_pow_bits
  cases hs : t.signed with
  | true =>
    have hpos : 0 < Nat.pow 2 t.bits := Nat.pow_pos (by decide)
    have hlow := Int.le_bmod (x := v) hpos
    have hhigh := Int.bmod_lt (x := v) hpos
    rw [hc] at hlow hhigh
    rw [Holds, if_pos hs, wrap_eq_bmod hs]
    omega
  | false =>
    rw [Holds, if_neg (by simp [hs]), wrap_eq_emod hs]
    exact ⟨Int.emod_nonneg _ (by omega), Int.emod_lt_of_pos _ (by omega)⟩

/-- The reduced integer is congruent to the given one. -/
theorem wrap_emod (v : Int) : t.wrap v % t.modulus = v % t.modulus := by
  cases hs : t.signed with
  | true =>
    rw [wrap_eq_bmod hs, ← natCast_pow_bits]
    exact Int.bmod_emod
  | false => rw [wrap_eq_emod hs, Int.emod_emod]

/-- Two congruent integers of the range are equal. -/
theorem eq_of_holds {t : IntType} {v r : Int} (hv : t.Holds v) (hr : t.Holds r)
    (hc : v % t.modulus = r % t.modulus) : v = r := by
  have hm := t.modulus_eq
  have hp := t.half_pos
  have hdvd : t.modulus ∣ v - r :=
    Int.dvd_of_emod_eq_zero (Int.emod_eq_emod_iff_emod_sub_eq_zero.mp hc)
  have hclose : (v - r).natAbs < t.modulus.natAbs := by
    cases hs : t.signed <;>
      simp only [Holds, hs, if_true, Bool.false_eq_true, if_false] at hv hr <;> omega
  have := Int.eq_zero_of_dvd_of_natAbs_lt_natAbs hdvd hclose
  omega

/-- The reduced integer is the only one of the range that is congruent to the given one. -/
theorem eq_wrap {t : IntType} {v r : Int} (hr : t.Holds r) (hc : r % t.modulus = v % t.modulus) :
    r = t.wrap v :=
  eq_of_holds hr (t.wrap_holds v) (by rw [hc, wrap_emod])

theorem wrap_of_holds {t : IntType} {v : Int} (h : t.Holds v) : t.wrap v = v :=
  (eq_wrap h rfl).symm

/-- Integers are reduced to the same one if and only if they are congruent. -/
theorem wrap_eq_wrap_iff {t : IntType} {v r : Int} :
    t.wrap v = t.wrap r ↔ v % t.modulus = r % t.modulus := by
  constructor
  · intro h
    rw [← t.wrap_emod v, h, wrap_emod]
  · intro h
    exact eq_wrap (t.wrap_holds v) (by rw [wrap_emod, h])

/-- A wider type keeps what decides the value in a narrower one. -/
theorem modulus_dvd {t u : IntType} (h : t.bits ≤ u.bits) : t.modulus ∣ u.modulus := by
  rw [← natCast_pow_bits, ← natCast_pow_bits, Int.natCast_dvd_natCast]
  exact Nat.pow_dvd_pow 2 h

/-- Integers that are the same in a wider type are the same in a narrower one. -/
theorem emod_of_le {t u : IntType} (h : t.bits ≤ u.bits) {v r : Int}
    (hc : v % u.modulus = r % u.modulus) : v % t.modulus = r % t.modulus := by
  rw [← Int.emod_emod_of_dvd _ (modulus_dvd h), hc, Int.emod_emod_of_dvd _ (modulus_dvd h)]

/-- A reduction to a type at least as wide does not matter before a second one. -/
theorem wrap_wrap {t u : IntType} (h : t.bits ≤ u.bits) (v : Int) :
    t.wrap (u.wrap v) = t.wrap v := by
  rw [wrap_eq_wrap_iff, ← Int.emod_emod_of_dvd _ (modulus_dvd h), wrap_emod,
    Int.emod_emod_of_dvd _ (modulus_dvd h)]

end Bindery.IntType
