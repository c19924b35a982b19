import Bindery.Number.Binary

/-!
# Shortest decimal text

The text of a double has the fewest digits that read back as the same double, and of the
candidates with that many digits the one nearest to the exact value.

* `Digits`: decimal digits `d₁ d₂ …` with an exponent, standing for `d₁d₂… * 10 ^ exponent`.
* `shortest`: the digits of a positive finite magnitude.
* `Double.text`: positional notation for decimal exponents from -4 to 15 (always with a
  fraction), scientific notation with an exponent of at least two digits otherwise.
-/

namespace Bindery.Number

/-- The number `digits * 10 ^ exponent`. -/
structure Digits where
  digits : Nat
  exponent : Int

/-- `a * 10 ^ k` compared with `num / den`: whether it is at most the quotient. -/
def atMost (a : Nat) (k : Int) (num den : Nat) : Bool :=
  if 0 ≤ k then a * Nat.pow 10 k.toNat * den ≤ num else a * den ≤ num * Nat.pow 10 (-k).toNat

/-- `num / den ≤ a * 10 ^ k`. -/
def atLeast (a : Nat) (k : Int) (num den : Nat) : Bool :=
  if 0 ≤ k then num ≤ a * Nat.pow 10 k.toNat * den else num * Nat.pow 10 (-k).toNat ≤ a * den

/-- The reals that round to a magnitude, as quotients over a common denominator, with the value
itself in the middle; `closed` tells whether the ends round to it too. -/
structure Interval where
  low : Nat
  value : Nat
  high : Nat
  den : Nat
  closed : Bool

/-- The rounding interval of a positive finite magnitude. Below a power of two the doubles lie
twice as close, which halves the lower part. -/
def Interval.ofMagnitude (magnitude : Nat) : Interval :=
  let (m, e) := double.significand magnitude
  let narrow := m = Nat.pow 2 double.fractionBits ∧ double.quantum < e
  let low := if narrow then 4 * m - 1 else 4 * m - 2
  let scaled := fun n : Nat => (scaleRatio n 4 e).1
  { low := scaled low, value := scaled (4 * m), high := scaled (4 * m + 2)
    den := (scaleRatio 1 4 e).2, closed := m % 2 = 0 }

/-- Whether `a * 10 ^ k` rounds to the magnitude of the interval. -/
def Interval.holds (i : Interval) (a : Nat) (k : Int) : Bool :=
  if i.closed then atLeast a k i.low i.den && atMost a k i.high i.den
  else !atMost a k i.low i.den && !atLeast a k i.high i.den

/-- The floor of the value in units of `10 ^ k`. -/
def Interval.floorAt (i : Interval) (k : Int) : Nat :=
  if 0 ≤ k then i.value / (i.den * Nat.pow 10 k.toNat)
  else i.value * Nat.pow 10 (-k).toNat / i.den

/-- Whether the lower neighbour `a` of the value on the grid `10 ^ k` is at least as near as the
upper neighbour `a + 1`. -/
def Interval.lowerNearer (i : Interval) (a : Nat) (k : Int) : Bool :=
  atLeast (2 * a + 1) k (2 * i.value) i.den
    && !(atMost (2 * a + 1) k (2 * i.value) i.den && a % 2 = 1)

/-- The neighbour of the value on the grid `10 ^ k` that rounds to the magnitude, if any. -/
def Interval.onGrid? (i : Interval) (k : Int) : Option Digits :=
  let a := i.floorAt k
  match i.holds a k && a != 0, i.holds (a + 1) k with
  | true, true => some ⟨if i.lowerNearer a k then a else a + 1, k⟩
  | true, false => some ⟨a, k⟩
  | false, true => some ⟨a + 1, k⟩
  | false, false => none

/-- Number of decimal digits of a positive integer. -/
def digitCount (n : Nat) : Nat := (Nat.toDigits 10 n).length

/-- Decimal exponent of the leading digit of the value. -/
def Interval.leading (i : Interval) : Int :=
  if i.den ≤ i.value then digitCount (i.value / i.den) - 1
  else
    let shift := digitCount i.den - digitCount i.value
    if i.den ≤ i.value * Nat.pow 10 shift then -(shift : Int) else -(shift : Int) - 1

/-- The shortest digits of a positive finite magnitude: the coarsest of the grids of one to
seventeen digits that has a point in the rounding interval. -/
def shortest (magnitude : Nat) : Digits :=
  let i := Interval.ofMagnitude magnitude
  let top := i.leading
  ((List.range 18).findSome? fun n : Nat => i.onGrid? (top - n)).getD ⟨0, 0⟩

/-- The digits without zeros at the end. -/
def stripZeros (fuel : Nat) (d : Digits) : Digits :=
  match fuel with
  | 0 => d
  | fuel + 1 =>
    if d.digits ≠ 0 ∧ d.digits % 10 = 0 then stripZeros fuel ⟨d.digits / 10, d.exponent + 1⟩
    else d

/-- An exponent with its sign and at least two digits. -/
def exponentText (e : Int) : String :=
  let n := toString e.natAbs
  (if e < 0 then "e-" else "e+") ++ (if n.length < 2 then "0" ++ n else n)

/-- Digits in positional or scientific notation. -/
def Digits.text (d : Digits) : String :=
  let digits := Nat.toDigits 10 d.digits
  let point : Int := digits.length + d.exponent
  if -4 < point ∧ point ≤ 16 then
    if point ≤ 0 then "0." ++ String.ofList (List.replicate (-point).toNat '0' ++ digits)
    else if digits.length ≤ point.toNat then
      String.ofList (digits ++ List.replicate (point.toNat - digits.length) '0') ++ ".0"
    else String.ofList (digits.take point.toNat ++ '.' :: digits.drop point.toNat)
  else
    let fraction := digits.drop 1
    String.ofList (digits.take 1 ++ if fraction.isEmpty then [] else '.' :: fraction)
      ++ exponentText (point - 1)

/-- The shortest text of a double. -/
def Double.text (d : Double) : String :=
  if d.isNaN then "nan" else
  let sign := if d.isNegative then "-" else ""
  if d.isInfinite then sign ++ "inf"
  else if d.isZero then sign ++ "0.0"
  else sign ++ (stripZeros 20 (shortest d.magnitude)).text

end Bindery.Number
