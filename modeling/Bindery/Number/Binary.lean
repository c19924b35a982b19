/-!
# Binary floating point

IEEE 754 binary formats described by the widths of their fields, with values kept as bit
patterns so that every operation is exact integer arithmetic. Numbers of different formats are
compared by what they stand for, without rounding.

* `Format`: field widths; `double` and `single` are the two formats in use.
* `Format.roundRatio`: the magnitude nearest to a quotient, ties to even, overflow to infinity.
* `Double`: a double by its bits, with `ofRatio`, `ofInt`, `truncate` and the conversions to and
  from single precision.
* `Exact`: a quotient by a power of two, an infinity, or no number.
* `Exact.less`: the order of numbers; what is no number is neither before nor after anything.
* `Double.add`: the double nearest to a sum.
-/

namespace Bindery.Number

/-- Number of fraction and exponent bits of a binary format. -/
structure Format where
  fractionBits : Nat
  exponentBits : Nat

/-- The 64-bit format. -/
def double : Format := ⟨52, 11⟩

/-- The 32-bit format. -/
def single : Format := ⟨23, 8⟩

namespace Format

/-- The sign bit. -/
def signBit (f : Format) : Nat := Nat.pow 2 (f.exponentBits + f.fractionBits)

/-- The highest fraction bit, which a quiet NaN has set. -/
def quietBit (f : Format) : Nat := Nat.pow 2 (f.fractionBits - 1)

/-- Power of two that the lowest fraction bit of the smallest values stands for. -/
def quantum (f : Format) : Int := 2 - Nat.pow 2 (f.exponentBits - 1) - f.fractionBits

/-- Bit pattern of infinity; smaller magnitudes are finite, larger ones are not numbers. -/
def infinity (f : Format) : Nat := (Nat.pow 2 f.exponentBits - 1) * Nat.pow 2 f.fractionBits

/-- A finite magnitude as `m * 2 ^ e`. -/
def significand (f : Format) (magnitude : Nat) : Nat × Int :=
  let field := magnitude / Nat.pow 2 f.fractionBits
  let fraction := magnitude % Nat.pow 2 f.fractionBits
  if field = 0 then (fraction, f.quantum)
  else (fraction + Nat.pow 2 f.fractionBits, f.quantum + (field - 1 : Nat))

end Format

/-- The integer nearest to `num / den`, a half going to the even neighbour. -/
def roundHalfEven (num den : Nat) : Nat :=
  let q := num / den
  let r := num % den
  if 2 * r < den then q
  else if den < 2 * r then q + 1
  else q + q % 2

/-- `num / den * 2 ^ e` as a quotient. -/
def scaleRatio (num den : Nat) (e : Int) : Nat × Nat :=
  if 0 ≤ e then (num * Nat.pow 2 e.toNat, den) else (num, den * Nat.pow 2 (-e).toNat)

/-- The exponent `e` with `2 ^ e ≤ num / den < 2 ^ (e + 1)`, for positive `num` and `den`. -/
def binaryExponent (num den : Nat) : Int :=
  let guess : Int := (num.log2 : Int) - den.log2
  let scaled := scaleRatio num den (-guess)
  if scaled.2 ≤ scaled.1 then guess else guess - 1

/-- The magnitude of a format nearest to `num / den`, ties to even; what is too large becomes
infinity. -/
def Format.roundRatio (f : Format) (num den : Nat) : Nat :=
  if num = 0 then 0 else
  let e := max (binaryExponent num den - f.fractionBits) f.quantum
  let scaled := scaleRatio num den (-e)
  let m := roundHalfEven scaled.1 scaled.2
  min (m + (e - f.quantum).toNat * Nat.pow 2 f.fractionBits) f.infinity

/-- A double-precision number, given by its bit pattern. -/
structure Double where
  bits : UInt64
deriving DecidableEq, Inhabited

namespace Double

/-- The sign bit. -/
def isNegative (d : Double) : Bool := double.signBit ≤ d.bits.toNat

/-- The pattern without the sign. -/
def magnitude (d : Double) : Nat := d.bits.toNat % double.signBit

/-- Not a number. -/
def isNaN (d : Double) : Bool := double.infinity < d.magnitude

/-- One of the two infinities. -/
def isInfinite (d : Double) : Bool := d.magnitude = double.infinity

/-- Neither infinite nor NaN. -/
def isFinite (d : Double) : Bool := d.magnitude < double.infinity

/-- Either zero. -/
def isZero (d : Double) : Bool := d.magnitude = 0

/-- The double with a given sign and magnitude. -/
def ofParts (negative : Bool) (magnitude : Nat) : Double :=
  ⟨UInt64.ofNat (magnitude + if negative then double.signBit else 0)⟩

/-- The double nearest to a quotient. -/
def ofRatio (negative : Bool) (num den : Nat) : Double :=
  ofParts negative (double.roundRatio num den)

/-- The double nearest to an integer. -/
def ofInt (n : Int) : Double := ofRatio (n < 0) n.natAbs 1

/-- The value of a finite double with its fraction cut off. -/
def truncate (d : Double) : Int :=
  let (m, e) := double.significand d.magnitude
  let whole : Nat := if 0 ≤ e then m * Nat.pow 2 e.toNat else m / Nat.pow 2 (-e).toNat
  if d.isNegative then -(whole : Int) else whole

/-- Numeric equality: a NaN differs from everything and the two zeros are equal. -/
def numEq (a b : Double) : Bool :=
  !a.isNaN && !b.isNaN && (a.bits == b.bits || (a.isZero && b.isZero))

/-- Whether a double is a given integer. -/
def isInt (d : Double) (n : Int) : Bool := d.isFinite && d.truncate == n && (ofInt n).numEq d

/-- The integer that a double is, if it is one. -/
def int? (d : Double) : Option Int := if d.isInt d.truncate then some d.truncate else none

/-- The value of a finite double as `n / 2 ^ k`. -/
def scaled (d : Double) : Int × Nat :=
  let (m, e) := double.significand d.magnitude
  let n : Nat := m * Nat.pow 2 e.toNat
  (if d.isNegative then -(n : Int) else n, (-e).toNat)

/-- Weight in double precision of the lowest fraction bit of single precision. -/
def widening : Nat := Nat.pow 2 (double.fractionBits - single.fractionBits)

/-- The pattern of a single-precision number nearest to a double. A NaN keeps its leading
payload bits and becomes quiet. -/
def toSingle (d : Double) : UInt32 :=
  let sign : Nat := if d.isNegative then single.signBit else 0
  if d.isNaN then
    UInt32.ofNat
      (sign + single.infinity + single.quietBit + d.magnitude / widening % single.quietBit)
  else if d.isInfinite then UInt32.ofNat (sign + single.infinity)
  else
    let (m, e) := double.significand d.magnitude
    let scaled := scaleRatio m 1 e
    UInt32.ofNat (sign + single.roundRatio scaled.1 scaled.2)

/-- The double with the value of a single-precision pattern; a NaN becomes quiet. -/
def ofSingle (bits : UInt32) : Double :=
  let negative : Bool := single.signBit ≤ bits.toNat
  let magnitude := bits.toNat % single.signBit
  if single.infinity < magnitude then
    ofParts negative
      (double.infinity + double.quietBit + magnitude % single.quietBit * widening)
  else if magnitude = single.infinity then ofParts negative double.infinity
  else
    let (m, e) := single.significand magnitude
    let scaled := scaleRatio m 1 e
    ofRatio negative scaled.1 scaled.2

/-- Whether a double is finite and rounds to infinity in single precision. -/
def overflowsSingle (d : Double) : Bool :=
  d.isFinite && d.toSingle.toNat % single.signBit = single.infinity

end Double

/-! ## Exact comparison and sums -/

/-- What a number stands for. -/
inductive Exact where
  /-- The quotient `n / 2 ^ k`. -/
  | ratio (n : Int) (k : Nat)
  | infinite (negative : Bool)
  | nan
deriving DecidableEq, Repr

namespace Exact

/-- An integer. -/
def ofInt (n : Int) : Exact := ratio n 0

/-- Whether a number is less than another one. -/
def less : Exact → Exact → Bool
  | nan, _ | _, nan => false
  | infinite a, infinite b => a && !b
  | infinite a, ratio _ _ => a
  | ratio _ _, infinite b => !b
  | ratio m j, ratio n k => m * Nat.pow 2 k < n * Nat.pow 2 j

theorem less_ofInt (m n : Int) : (ofInt m).less (ofInt n) = decide (m < n) := by
  change decide (m * ((1 : Nat) : Int) < n * ((1 : Nat) : Int)) = _
  simp

end Exact

namespace Double

/-- A pattern that is not a number. -/
def nan : Double := ofParts false (double.infinity + double.quietBit)

/-- What a double stands for. -/
def exact (d : Double) : Exact :=
  if d.isNaN then .nan
  else if d.isInfinite then .infinite d.isNegative
  else .ratio d.scaled.1 d.scaled.2

/-- The double nearest to the sum of two doubles. A sum of zero is only negative if both parts
are. -/
def add (a b : Double) : Double :=
  match a.exact, b.exact with
  | .ratio m j, .ratio n k =>
    let sum := m * Nat.pow 2 k + n * Nat.pow 2 j
    if sum = 0 then ofParts (a.isNegative && b.isNegative) 0
    else ofRatio (sum < 0) sum.natAbs (Nat.pow 2 (j + k))
  | .infinite negative, .infinite other => if negative = other then a else nan
  | .infinite _, .ratio _ _ => a
  | .ratio _ _, .infinite _ => b
  | _, _ => nan

end Double
end Bindery.Number
