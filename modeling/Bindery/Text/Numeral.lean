import Bindery.Number.Binary

/-!
# Numerals

Reading of integers and decimal fractions. Blanks may surround a numeral, digits may come from
any script, and a single underscore may stand between two digits. The classes of characters are
those of the Unicode 14 standard.

* `decimalValue?`: the value of a decimal digit of any script.
* `isDigit`: decimal digits and the digit-like signs (superscripts, circled digits, ...).
* `isBlank`: the blanks that may surround a numeral.
* `readInt?`: an optional sign and digits, of which there are at most `maxDigits`.
* `readDecimal?`: digits with an optional point and exponent, or a name of infinity or NaN, as
  the nearest double.
-/

namespace Bindery.Text

/-! ## Digits and blanks -/

/-- Code points of the zeros of all scripts; the digits one to nine follow each of them. -/
def decimalZeros : List Nat := [
    0x30, 0x660, 0x6F0, 0x7C0, 0x966, 0x9E6, 0xA66, 0xAE6, 0xB66, 0xBE6, 0xC66, 0xCE6, 0xD66, 0xDE6,
    0xE50, 0xED0, 0xF20, 0x1040, 0x1090, 0x17E0, 0x1810, 0x1946, 0x19D0, 0x1A80, 0x1A90, 0x1B50,
    0x1BB0, 0x1C40, 0x1C50, 0xA620, 0xA8D0, 0xA900, 0xA9D0, 0xA9F0, 0xAA50, 0xABF0, 0xFF10, 0x104A0,
    0x10D30, 0x11066, 0x110F0, 0x11136, 0x111D0, 0x112F0, 0x11450, 0x114D0, 0x11650, 0x116C0,
    0x11730, 0x118E0, 0x11950, 0x11C50, 0x11D50, 0x11DA0, 0x16A60, 0x16AC0, 0x16B50, 0x1D7CE,
    0x1D7D8, 0x1D7E2, 0x1D7EC, 0x1D7F6, 0x1E140, 0x1E2F0, 0x1E950, 0x1FBF0]

/-- Code point ranges of the signs that stand for a digit but do not form numerals. -/
def digitSigns : List (Nat × Nat) := [
    (0xB2, 0xB3), (0xB9, 0xB9), (0x1369, 0x1371), (0x19DA, 0x19DA), (0x2070, 0x2070),
    (0x2074, 0x2079), (0x2080, 0x2089), (0x2460, 0x2468), (0x2474, 0x247C), (0x2488, 0x2490),
    (0x24EA, 0x24EA), (0x24F5, 0x24FD), (0x24FF, 0x24FF), (0x2776, 0x277E), (0x2780, 0x2788),
    (0x278A, 0x2792), (0x10A40, 0x10A43), (0x10E60, 0x10E68), (0x11052, 0x1105A),
    (0x1F100, 0x1F10A)]

/-- The value of a decimal digit of any script. -/
def decimalValue? (c : Char) : Option Nat :=
  if c.toNat < 128 then
    if c.isDigit then some (c.toNat - 48) else none
  else
    (decimalZeros.find? fun z => z ≤ c.toNat && c.toNat < z + 10).map (c.toNat - ·)

/-- Decimal digits and signs that stand for a digit. -/
def isDigit (c : Char) : Bool :=
  (decimalValue? c).isSome || digitSigns.any fun r => r.1 ≤ c.toNat && c.toNat ≤ r.2

/-- Blanks beyond ASCII. -/
def wideBlanks : List Nat := [
    0x85, 0xA0, 0x1680, 0x2000, 0x2001, 0x2002, 0x2003, 0x2004, 0x2005, 0x2006, 0x2007, 0x2008,
    0x2009, 0x200A, 0x2028, 0x2029, 0x202F, 0x205F, 0x3000]

/-- The blanks that may surround a numeral: space, tab to carriage return, and the wide ones. -/
def isBlank (c : Char) : Bool :=
  c.toNat == 32 || (9 ≤ c.toNat && c.toNat ≤ 13) || wideBlanks.contains c.toNat

/-- The text without the blanks at either end. -/
def trimBlanks (s : List Char) : List Char :=
  ((s.dropWhile isBlank).reverse.dropWhile isBlank).reverse

/-! ## Numerals -/

open Number

/-- The numeral with its decimal digits as ASCII digits. -/
def normalizeDigits (s : List Char) : List Char :=
  s.map fun c => match decimalValue? c with
    | some d => Char.ofNat (48 + d)
    | none => c

/-- The text without its underscores, each of which has to stand between two digits. -/
def joinGroups? : List Char → Option (List Char)
  | [] => some []
  | '_' :: _ => none
  | d :: '_' :: e :: rest =>
    if d.isDigit && e.isDigit then (joinGroups? (e :: rest)).map (d :: ·) else none
  | c :: rest => (joinGroups? rest).map (c :: ·)

/-- The value of ASCII digits. -/
def digitsValue (s : List Char) : Nat := s.foldl (fun n c => n * 10 + (c.toNat - 48)) 0

/-- The value of a text that consists of digits, at least one. -/
def natural? (s : List Char) : Option Nat :=
  if s.isEmpty || !s.all Char.isDigit then none else some (digitsValue s)

/-- A sign, if there is one, and the rest. -/
def splitSign : List Char → Bool × List Char
  | '-' :: rest => (true, rest)
  | '+' :: rest => (false, rest)
  | s => (false, s)

/-- An integer with an optional sign. -/
def signed? (s : List Char) : Option Int :=
  (natural? (splitSign s).2).map fun n => if (splitSign s).1 then -(n : Int) else n

/-- The numeral proper: trimmed, with ASCII digits and without underscores. -/
def numeral? (s : String) : Option (List Char) :=
  joinGroups? (trimBlanks (normalizeDigits s.toList))

/-- The greatest number of digits, leading zeros included, of an integer that is written out. -/
def maxDigits : Nat := 4300

/-- The integer that a text denotes, unless it has too many digits. -/
def readInt? (s : String) : Option Int :=
  (numeral? s).bind fun digits =>
    if (splitSign digits).2.length ≤ maxDigits then signed? digits else none

/-- The digits of a decimal fraction and its exponent: `digits * 10 ^ exponent`. -/
structure Fraction where
  digits : Nat
  exponent : Int

/-- The digits before and after the point; one side may be empty. -/
def mantissa? (s : List Char) : Option Fraction :=
  let whole := s.takeWhile (· ≠ '.')
  let fraction := (s.dropWhile (· ≠ '.')).drop 1
  if s.count '.' ≤ 1 then
    (natural? (whole ++ fraction)).map fun n => ⟨n, -(fraction.length : Int)⟩
  else none

/-- A character that starts an exponent. -/
def marksExponent (c : Char) : Bool := c = 'e' || c = 'E'

/-- A decimal fraction without sign. -/
def fraction? (s : List Char) : Option Fraction :=
  match s.dropWhile (!marksExponent ·) with
  | [] => mantissa? s
  | _ :: exponent => do
    let m ← mantissa? (s.takeWhile (!marksExponent ·))
    let e ← signed? exponent
    return ⟨m.digits, m.exponent + e⟩

/-- The double nearest to a decimal fraction. Exponents far beyond the range of doubles are
settled without computing the power of ten. -/
def Fraction.toDouble (negative : Bool) (f : Fraction) : Double :=
  let size : Int := (Nat.toDigits 10 f.digits).length
  if f.digits = 0 ∨ f.exponent + size < -400 then Double.ofParts negative 0
  else if 400 < f.exponent + size then Double.ofParts negative double.infinity
  else if 0 ≤ f.exponent then Double.ofRatio negative (f.digits * Nat.pow 10 f.exponent.toNat) 1
  else Double.ofRatio negative f.digits (Nat.pow 10 (-f.exponent).toNat)

/-- The quiet NaN without payload. -/
def nan (negative : Bool) : Double :=
  Double.ofParts negative (double.infinity + double.quietBit)

/-- A decimal fraction, or a name of infinity or NaN, with an optional sign. -/
def decimal? (s : List Char) : Option Double :=
  let (negative, body) := splitSign s
  let word := String.ofList (body.map Char.toLower)
  if word = "inf" || word = "infinity" then some (Double.ofParts negative double.infinity)
  else if word = "nan" then some (nan negative)
  else (fraction? body).map (Fraction.toDouble negative)

/-- The double that a text denotes. -/
def readDecimal? (s : String) : Option Double := numeral? s >>= decimal?

end Bindery.Text
