import Bindery.Number.Binary
import Mathlib.Data.Int.Log
import Mathlib.Data.Rat.Floor
import Mathlib.Tactic.FieldSimp
import Mathlib.Tactic.Linarith
import Mathlib.Tactic.NormNum
import Mathlib.Tactic.Ring

/-!
# Single precision within double precision

Every number of single precision is one of double precision, so narrowing a double that was widened
gives the single back. The value of a finite magnitude is a rational number here.

* `Format.value`: the value of a finite magnitude.
* `binaryExponent_eq`: the exponent of a quotient is its logarithm.
* `Format.roundRatio_value`: rounding the value of a magnitude gives that magnitude.
* `Format.exists_value_double`: double precision holds the numbers of single precision.
* `Double.ofSingle_toSingle`: what was widened is not changed by a trip through single precision.
-/

namespace Bindery.Number

/-! ## Quotients -/

section Quotients

variable {num den : Nat}

theorem scaleRatio_pos (hd : 0 < den) (e : Int) : 0 < (scaleRatio num den e).2 := by
  unfold scaleRatio
  split
  · exact hd
  · exact Nat.mul_pos hd (Nat.pow_pos (by decide))

/-- The quotient is scaled by a power of two. -/
theorem value_scaleRatio (num den : Nat) (e : Int) :
    ((scaleRatio num den e).1 : ℚ) / (scaleRatio num den e).2 = num / den * 2 ^ e := by
  unfold scaleRatio
  split
  case isTrue h =>
    obtain ⟨k, rfl⟩ := Int.eq_ofNat_of_zero_le h
    have hk : ((Nat.pow 2 k : Nat) : ℚ) = 2 ^ k := by push_cast [Nat.pow_eq]; rfl
    simp only [Int.toNat_natCast, Nat.cast_mul, hk, zpow_natCast]
    ring
  case isFalse h =>
    obtain ⟨k, hk⟩ := Int.eq_ofNat_of_zero_le (show 0 ≤ -e by omega)
    obtain rfl : e = -k := by omega
    have hk : ((Nat.pow 2 k : Nat) : ℚ) = 2 ^ k := by push_cast [Nat.pow_eq]; rfl
    simp only [neg_neg, Int.toNat_natCast, Nat.cast_mul, hk, zpow_neg, zpow_natCast]
    field_simp

theorem binaryExponent_eq (hn : 0 < num) (hd : 0 < den) :
    binaryExponent num den = Int.log 2 ((num : ℚ) / den) := by
  have hn' : (0 : ℚ) < num := by exact_mod_cast hn
  have hd' : (0 : ℚ) < den := by exact_mod_cast hd
  have hq : (0 : ℚ) < num / den := by positivity
  have hnum : (2 : ℚ) ^ num.log2 ≤ num ∧ (num : ℚ) < 2 ^ (num.log2 + 1) := by
    constructor
    · exact_mod_cast Nat.log2_self_le (by omega)
    · exact_mod_cast Nat.lt_log2_self
  have hden : (2 : ℚ) ^ den.log2 ≤ den ∧ (den : ℚ) < 2 ^ (den.log2 + 1) := by
    constructor
    · exact_mod_cast Nat.log2_self_le (by omega)
    · exact_mod_cast Nat.lt_log2_self
  obtain ⟨g, hg⟩ : ∃ g : Int, g = num.log2 - den.log2 := ⟨_, rfl⟩
  -- The bits of the two numbers give the exponent up to one.
  have hlow : g - 1 ≤ Int.log 2 ((num : ℚ) / den) := by
    rw [← Int.zpow_le_iff_le_log (by decide) hq, Nat.cast_ofNat, le_div_iff₀ hd']
    calc (2 : ℚ) ^ (g - 1) * den ≤ 2 ^ (g - 1) * 2 ^ (den.log2 + 1) :=
        mul_le_mul_of_nonneg_left hden.2.le (zpow_nonneg (by norm_num) _)
      _ = 2 ^ num.log2 := by
        rw [← zpow_natCast, ← zpow_natCast, ← zpow_add₀ (by norm_num), hg]
        congr 1
        push_cast
        ring
      _ ≤ num := hnum.1
  have hhigh : Int.log 2 ((num : ℚ) / den) < g + 1 := by
    rw [← Int.lt_zpow_iff_log_lt (by decide) hq, Nat.cast_ofNat, div_lt_iff₀ hd']
    calc (num : ℚ) < 2 ^ (num.log2 + 1) := hnum.2
      _ = 2 ^ (g + 1) * 2 ^ den.log2 := by
        rw [← zpow_natCast, ← zpow_natCast, ← zpow_add₀ (by norm_num), hg]
        congr 1
        push_cast
        ring
      _ ≤ 2 ^ (g + 1) * den := mul_le_mul_of_nonneg_left hden.1 (zpow_nonneg (by norm_num) _)
  have hscaled : (scaleRatio num den (-g)).2 ≤ (scaleRatio num den (-g)).1 ↔
      g ≤ Int.log 2 ((num : ℚ) / den) := by
    have hpos : (0 : ℚ) < (scaleRatio num den (-g)).2 := by exact_mod_cast scaleRatio_pos hd (-g)
    rw [← Int.zpow_le_iff_le_log (by decide) hq, Nat.cast_ofNat, ← Nat.cast_le (α := ℚ),
      ← one_le_div hpos, value_scaleRatio, zpow_neg, ← div_eq_mul_inv,
      one_le_div (zpow_pos (by norm_num) g)]
  simp only [binaryExponent, ← hg]
  split <;> omega

theorem roundHalfEven_mul (m : Nat) (hd : 0 < den) : roundHalfEven (m * den) den = m := by
  simp [roundHalfEven, Nat.mul_div_cancel m hd, hd]

/-- A quotient that is a multiple of a power of two is scaled to that multiple. -/
theorem scaleRatio_of_value {m : Nat} {e : Int} (hd : 0 < den)
    (h : (num : ℚ) / den = m * 2 ^ e) :
    (scaleRatio num den (-e)).1 = m * (scaleRatio num den (-e)).2 := by
  have hpos : (0 : ℚ) < (scaleRatio num den (-e)).2 := by exact_mod_cast scaleRatio_pos hd (-e)
  have hvalue := value_scaleRatio num den (-e)
  rw [h, mul_assoc, ← zpow_add₀ (by norm_num), add_neg_cancel, zpow_zero, mul_one,
    div_eq_iff hpos.ne'] at hvalue
  exact_mod_cast hvalue

/-- The exponent of a multiple of a power of two, from bounds on the bits of the multiple. -/
theorem binaryExponent_bounds {m bits : Nat} {e : Int} (hn : 0 < num) (hd : 0 < den)
    (h : (num : ℚ) / den = m * 2 ^ e) :
    (m < 2 ^ bits → binaryExponent num den < bits + e) ∧
      (2 ^ bits ≤ m → bits + e ≤ binaryExponent num den) := by
  have hq : (0 : ℚ) < num / den := div_pos (by exact_mod_cast hn) (by exact_mod_cast hd)
  have hpow : (0 : ℚ) < 2 ^ e := zpow_pos (by norm_num) e
  rw [binaryExponent_eq hn hd, ← Int.lt_zpow_iff_log_lt (by decide) hq,
    ← Int.zpow_le_iff_le_log (by decide) hq, Nat.cast_ofNat, h, zpow_add₀ (by norm_num),
    zpow_natCast]
  constructor
  · intro hm
    exact mul_lt_mul_of_pos_right (by exact_mod_cast hm) hpow
  · intro hm
    exact mul_le_mul_of_nonneg_right (by exact_mod_cast hm) hpow.le

end Quotients

/-! ## Magnitudes -/

namespace Format

variable {f : Format}

/-- The value of a finite magnitude. -/
def value (f : Format) (g : Nat) : ℚ := (f.significand g).1 * 2 ^ (f.significand g).2

/-- The parts of a magnitude: it is their sum, and only those of the smallest values do without a
leading one. -/
theorem significand_spec (f : Format) (g : Nat) :
    let m := (f.significand g).1
    let e := (f.significand g).2
    f.quantum ≤ e ∧ m < 2 ^ (f.fractionBits + 1) ∧ (e = f.quantum ∨ 2 ^ f.fractionBits ≤ m) ∧
      g = m + (e - f.quantum).toNat * Nat.pow 2 f.fractionBits := by
  have hpos : 0 < Nat.pow 2 f.fractionBits := Nat.pow_pos (by decide)
  have hmod := Nat.mod_lt g hpos
  have hdiv := Nat.div_add_mod' g (Nat.pow 2 f.fractionBits)
  have hsucc : 2 ^ (f.fractionBits + 1) = Nat.pow 2 f.fractionBits * 2 := rfl
  have hself : 2 ^ f.fractionBits = Nat.pow 2 f.fractionBits := rfl
  rw [hsucc, hself]
  simp only [significand]
  by_cases hfield : g / Nat.pow 2 f.fractionBits = 0
  · rw [if_pos hfield]
    rw [hfield] at hdiv
    refine ⟨le_refl _, by omega, .inl rfl, ?_⟩
    simp only [sub_self, Int.toNat_zero]
    omega
  · rw [if_neg hfield]
    obtain ⟨k, hk⟩ := Nat.exists_eq_succ_of_ne_zero hfield
    rw [hk] at hdiv ⊢
    refine ⟨by simp, by omega, .inr (by omega), ?_⟩
    simp only [Nat.succ_sub_one, add_sub_cancel_left, Int.toNat_natCast]
    rw [Nat.succ_mul] at hdiv
    omega

/-- Rounding what a finite magnitude stands for gives that magnitude, however the quotient is
written. -/
theorem roundRatio_value {g num den : Nat} (hd : 0 < den) (hg : g < f.infinity)
    (h : (num : ℚ) / den = f.value g) : f.roundRatio num den = g := by
  obtain ⟨hle, hlt, hnormal, hsum⟩ := f.significand_spec g
  rw [value] at h
  generalize (f.significand g).1 = m at *
  generalize (f.significand g).2 = e at *
  rcases Nat.eq_zero_or_pos num with rfl | hn
  · have hpow : (0 : ℚ) < 2 ^ e := zpow_pos (by norm_num) e
    obtain rfl : m = 0 := by simpa [hpow.ne'] using h
    have hquantum : e = f.quantum := hnormal.resolve_right (by simp)
    rw [hsum, hquantum]
    simp [roundRatio]
  have hexp : max (binaryExponent num den - f.fractionBits) f.quantum = e := by
    have hhigh := (binaryExponent_bounds hn hd h).1 hlt
    have hlow := hnormal.imp_right (binaryExponent_bounds hn hd h).2
    omega
  simp only [roundRatio, hexp, scaleRatio_of_value hd h,
    roundHalfEven_mul m (scaleRatio_pos hd (-e)), ← hsum]
  rw [if_neg (by omega)]
  exact min_eq_left hg.le

theorem roundRatio_scaled {g m : Nat} {e : Int} (hg : g < f.infinity)
    (h : (m : ℚ) * 2 ^ e = f.value g) :
    f.roundRatio (scaleRatio m 1 e).1 (scaleRatio m 1 e).2 = g := by
  refine roundRatio_value (scaleRatio_pos (by decide) _) hg ?_
  rw [value_scaleRatio, Nat.cast_one, div_one, h]

/-- Double precision holds the numbers of single precision. -/
theorem exists_value_double {m : Nat} {e : Int} (hm : m < 2 ^ 24) (he : -149 ≤ e)
    (he' : e ≤ 104) : ∃ g < double.infinity, double.value g = m * 2 ^ e := by
  rcases Nat.eq_zero_or_pos m with rfl | hpos
  · exact ⟨0, by decide, by simp [value, significand]⟩
  -- The highest bit is moved to where the leading one stands.
  have hlog : m.log2 < 24 := (Nat.log2_lt hpos.ne').2 hm
  obtain ⟨k, hk⟩ : ∃ k, k + m.log2 = 52 := ⟨52 - m.log2, by omega⟩
  have hlow : 2 ^ 52 ≤ m * 2 ^ k := by
    rw [← hk, Nat.add_comm, Nat.pow_add]
    exact Nat.mul_le_mul_right _ (Nat.log2_self_le hpos.ne')
  have hhigh : m * 2 ^ k < 2 ^ 53 := by
    have hsucc : 53 = m.log2 + 1 + k := by omega
    rw [hsucc, Nat.pow_add]
    exact Nat.mul_lt_mul_of_pos_right Nat.lt_log2_self (Nat.pow_pos (by decide))
  obtain ⟨field, hfield⟩ : ∃ field : Nat, (field : Int) = e - k + 1074 :=
    ⟨(e - k + 1074).toNat, by omega⟩
  have hpow : Nat.pow 2 52 = 4503599627370496 := rfl
  have hinfinity : double.infinity = 2047 * 4503599627370496 := by decide
  have hquantum : double.quantum = -1074 := by decide
  obtain ⟨fraction, hfraction⟩ : ∃ fraction, m * 2 ^ k = fraction + 4503599627370496 :=
    ⟨m * 2 ^ k - 2 ^ 52, (Nat.sub_add_cancel hlow).symm⟩
  have hsignificand : double.significand (fraction + (field + 1) * 4503599627370496) =
      (m * 2 ^ k, e - k) := by
    have hdiv : (fraction + (field + 1) * 4503599627370496) / 4503599627370496 = field + 1 := by
      omega
    have hmod : (fraction + (field + 1) * 4503599627370496) % 4503599627370496 = fraction := by
      omega
    simp only [significand, show double.fractionBits = 52 from rfl, hpow, hdiv, hmod, hquantum]
    rw [if_neg (by omega), hfraction]
    congr 1
    omega
  refine ⟨fraction + (field + 1) * 4503599627370496, by omega, ?_⟩
  rw [value, hsignificand]
  push_cast
  rw [mul_assoc, ← zpow_natCast, ← zpow_add₀ (by norm_num), add_sub_cancel]

end Format

namespace Double

theorem magnitude_ofParts (negative : Bool) {g : Nat} (h : g < 2 ^ 63) :
    (ofParts negative g).magnitude = g := by
  have hsign : double.signBit = 2 ^ 63 := by decide
  have hbits : (g + if negative then 2 ^ 63 else 0) < 2 ^ 64 := by split <;> omega
  simp only [magnitude, ofParts, hsign, UInt64.toNat_ofNat_of_lt' hbits]
  cases negative
  · simpa using Nat.mod_eq_of_lt h
  · simpa using Nat.mod_eq_of_lt h

theorem isNegative_ofParts (negative : Bool) {g : Nat} (h : g < 2 ^ 63) :
    (ofParts negative g).isNegative = negative := by
  have hsign : double.signBit = 2 ^ 63 := by decide
  have hbits : (g + if negative then 2 ^ 63 else 0) < 2 ^ 64 := by split <;> omega
  simp only [isNegative, ofParts, hsign, UInt64.toNat_ofNat_of_lt' hbits]
  cases negative
  · simpa using h
  · simp

/-- A finite double that has the value of a single is narrowed to it. -/
theorem toSingle_ofParts (negative : Bool) {g mag : Nat} (hg : g < double.infinity)
    (hmag : mag < single.infinity) (h : double.value g = single.value mag) :
    (ofParts negative g).toSingle =
      UInt32.ofNat ((if negative then single.signBit else 0) + mag) := by
  have hbound : double.infinity < 2 ^ 63 := by decide
  simp only [toSingle, isNaN, isInfinite, magnitude_ofParts negative (hg.trans hbound),
    isNegative_ofParts negative (hg.trans hbound), Format.roundRatio_scaled hmag h]
  rw [if_neg (by simp only [decide_eq_true_eq]; omega),
    if_neg (by simp only [decide_eq_true_eq]; omega)]

/-- A finite single is widened to a double of the same value. -/
theorem ofSingle_finite {w : UInt32} (h : w.toNat % single.signBit < single.infinity) :
    ∃ g < double.infinity, double.value g = single.value (w.toNat % single.signBit) ∧
      ofSingle w = ofParts (single.signBit ≤ w.toNat) g := by
  generalize hmag : w.toNat % single.signBit = mag at h
  have hbounds := single.significand_spec mag
  have hquantum : single.quantum = -149 := by decide
  have hpow : Nat.pow 2 single.fractionBits = 8388608 := rfl
  have hpow' : 2 ^ single.fractionBits = 8388608 := rfl
  have hinfinity : single.infinity = 255 * 8388608 := by decide
  simp only [hquantum, hpow, hpow', pow_succ] at hbounds
  obtain ⟨g, hg, hvalue⟩ := Format.exists_value_double (m := (single.significand mag).1)
    (e := (single.significand mag).2) (by omega) (by omega) (by omega)
  refine ⟨g, hg, hvalue, ?_⟩
  simp only [ofSingle, hmag, ofRatio, Format.roundRatio_scaled hg hvalue.symm]
  rw [if_neg (by omega), if_neg (by omega)]

theorem ofNat_parts (w : UInt32) :
    UInt32.ofNat ((if single.signBit ≤ w.toNat then single.signBit else 0) +
      w.toNat % single.signBit) = w := by
  have hsign : single.signBit = 2147483648 := by decide
  have hw := w.toNat_lt
  have hparts : (if single.signBit ≤ w.toNat then single.signBit else 0) +
      w.toNat % single.signBit = w.toNat := by
    rw [hsign]
    split <;> omega
  rw [hparts, UInt32.ofNat_toNat]

/-- A NaN is widened with its payload; only the quiet bit may be new. -/
theorem ofSingle_nan {w : UInt32} (h : single.infinity < w.toNat % single.signBit) :
    ofSingle w = ofParts (single.signBit ≤ w.toNat)
      (double.infinity + double.quietBit +
        w.toNat % single.signBit % single.quietBit * widening) := by
  simp only [ofSingle]
  rw [if_pos h]

theorem toSingle_nan (negative : Bool) {payload : Nat} (h : payload < single.quietBit) :
    (ofParts negative (double.infinity + double.quietBit + payload * widening)).toSingle =
      UInt32.ofNat ((if negative then single.signBit else 0) + single.infinity + single.quietBit +
        payload) := by
  have hinfinity : double.infinity = 9218868437227405312 := by decide
  have hquiet : double.quietBit = 2251799813685248 := by decide
  have hwidening : widening = 536870912 := by decide
  have hsquiet : single.quietBit = 4194304 := by decide
  obtain ⟨g, hg⟩ : ∃ g, g = double.infinity + double.quietBit + payload * widening := ⟨_, rfl⟩
  rw [← hg]
  rw [hinfinity, hquiet, hwidening] at hg
  have hbound : g < 2 ^ 63 := by omega
  have hnan : double.infinity < g := by omega
  have hpayload : g / widening % single.quietBit = payload := by rw [hwidening, hsquiet]; omega
  simp only [toSingle, isNaN, magnitude_ofParts negative hbound,
    isNegative_ofParts negative hbound, hpayload]
  rw [if_pos (decide_eq_true hnan)]

theorem ofSingle_toSingle_nan {w : UInt32} (h : single.infinity < w.toNat % single.signBit) :
    ofSingle (ofSingle w).toSingle = ofSingle w := by
  have hinfinity : single.infinity = 2139095040 := by decide
  have hquiet : single.quietBit = 4194304 := by decide
  have hsign : single.signBit = 2147483648 := by decide
  have hpayload : w.toNat % single.signBit % single.quietBit < single.quietBit :=
    Nat.mod_lt _ (by omega)
  obtain ⟨negative, hneg⟩ : ∃ b, b = decide (single.signBit ≤ w.toNat) := ⟨_, rfl⟩
  obtain ⟨payload, hp⟩ : ∃ n, n = w.toNat % single.signBit % single.quietBit := ⟨_, rfl⟩
  rw [ofSingle_nan h, ← hneg, ← hp, toSingle_nan negative (hp ▸ hpayload)]
  rw [← hp] at hpayload
  obtain ⟨n, hn⟩ : ∃ n, n = (if negative then single.signBit else 0) + single.infinity +
    single.quietBit + payload := ⟨_, rfl⟩
  rw [← hn]
  have hparts : n < 2 ^ 32 ∧ n % single.signBit = single.infinity + single.quietBit + payload ∧
      decide (single.signBit ≤ n) = negative := by
    rw [hsign, hinfinity, hquiet] at hn ⊢
    cases negative
    · simp only [Bool.false_eq_true, if_false] at hn
      exact ⟨by omega, by omega, decide_eq_false (by omega)⟩
    · simp only [if_true] at hn
      exact ⟨by omega, by omega, decide_eq_true (by omega)⟩
  obtain ⟨hlt, hmod, hnegative⟩ := hparts
  have htoNat : (UInt32.ofNat n).toNat = n := UInt32.toNat_ofNat_of_lt' hlt
  have hkept : (single.infinity + single.quietBit + payload) % single.quietBit = payload := by
    rw [hinfinity, hquiet]
    omega
  rw [ofSingle_nan (by rw [htoNat, hmod]; omega), htoNat, hmod, hnegative, hkept]

theorem toSingle_infinite (negative : Bool) :
    (ofParts negative double.infinity).toSingle =
      UInt32.ofNat ((if negative then single.signBit else 0) + single.infinity) := by
  have hbound : double.infinity < 2 ^ 63 := by decide
  simp only [toSingle, isNaN, isInfinite, magnitude_ofParts negative hbound,
    isNegative_ofParts negative hbound]
  rw [if_neg (by simp), if_pos (by simp)]

/-- What was widened is not changed by a trip through single precision. -/
theorem ofSingle_toSingle (w : UInt32) : ofSingle (ofSingle w).toSingle = ofSingle w := by
  rcases Nat.lt_trichotomy (w.toNat % single.signBit) single.infinity with h | h | h
  · obtain ⟨g, hg, hvalue, hw⟩ := ofSingle_finite h
    have hback : (ofSingle w).toSingle = w := by
      rw [hw, toSingle_ofParts _ hg h hvalue]
      simpa only [decide_eq_true_eq] using ofNat_parts w
    rw [hback]
  · have hw : ofSingle w = ofParts (single.signBit ≤ w.toNat) double.infinity := by
      simp only [ofSingle, h]
      rw [if_neg (lt_irrefl _), if_pos trivial]
    have hback : (ofSingle w).toSingle = w := by
      rw [hw, toSingle_infinite, ← h]
      simpa only [decide_eq_true_eq] using ofNat_parts w
    rw [hback]
  · exact ofSingle_toSingle_nan h

end Double
end Bindery.Number
