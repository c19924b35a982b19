import Bindery.Number.Binary
import Bindery.Text.Hex
import Bindery.Text.Identifier

/-!
# Numerals of scripts

Numbers as a script spells them: integers in four bases, and numbers with a point, an exponent or
the letter of imaginary ones. Single underscores may stand between digits.

* `Numeral`: what a numeral stands for.
* `Numeral.read?`: the numeral at the start of a text.
-/

namespace Bindery.Script

open Number

/-- What a numeral stands for. -/
inductive Numeral where
  | whole (n : Nat)
  | real (d : Double)
  | imaginary
deriving DecidableEq

namespace Numeral

/-- Digits with single underscores between them, and the rest; none if something else follows an
underscore. -/
def digits? (isDigit : Char → Bool) : List Char → Option (List Char × List Char)
  | ['_'] => none
  | '_' :: c :: rest =>
    if isDigit c then (digits? isDigit rest).map fun p => (c :: p.1, p.2) else none
  | c :: rest =>
    if isDigit c then (digits? isDigit rest).map fun p => (c :: p.1, p.2) else some ([], c :: rest)
  | [] => some ([], [])

/-- The words that may follow a numeral without a blank. -/
def followers : List String := ["and", "else", "for", "if", "in", "is", "or", "not"]

/-- Whether a numeral can end before a text. -/
def endsBefore (s : List Char) : Bool :=
  !(s.head?.any Text.continuesIdentifier) || followers.any fun w => w.toList.isPrefixOf s

/-- The number of some decimal digits. -/
def decimal (s : List Char) : Nat := s.foldl (fun n c => n * 10 + (c.toNat - 48)) 0

/-- The largest exponent that is told from larger ones; with it a number is far out of range. -/
def maxExponent : Nat := 5000

/-- The number with some digits before and after its point and an exponent. -/
def ofParts (whole fraction : List Char) (exponent : Int) : Double :=
  let n := decimal (whole ++ fraction)
  let e := max (-(maxExponent : Int)) (min maxExponent exponent) - fraction.length
  if 0 ≤ e then .ofRatio false (n * Nat.pow 10 e.toNat) 1
  else .ofRatio false n (Nat.pow 10 (-e).toNat)

/-- The exponent at the start of a text, if there is one, and the rest. -/
def exponent? (s : List Char) : Option (Option Int × List Char) :=
  match s with
  | e :: sign :: rest =>
    if e ≠ 'e' && e ≠ 'E' then some (none, s)
    else if sign = '+' || sign = '-' then
      match digits? Char.isDigit rest with
      | some (c :: ds, after) =>
        let n : Int := decimal (c :: ds)
        some (some (if sign = '-' then -n else n), after)
      | _ => none
    else if sign.isDigit then
      (digits? Char.isDigit (sign :: rest)).map fun p => (some (decimal p.1 : Int), p.2)
    else some (none, s)
  | _ => some (none, s)

/-- The digits behind a point, if there is one, and the rest. -/
def fraction? : List Char → Option (Option (List Char) × List Char)
  | '.' :: rest =>
    if rest.head?.any Char.isDigit then
      (digits? Char.isDigit rest).map fun p => (some p.1, p.2)
    else some (some [], rest)
  | rest => some (none, rest)

/-- The most decimal digits that an integer may have. -/
def maxDigits : Nat := 4300

/-- The numeral with the given digits before its point, and the rest. An integer has no zeros in
front of it. -/
def ofWhole? (whole rest : List Char) : Option (Numeral × List Char) := do
  let (fraction, rest) ← fraction? rest
  let (exponent, rest) ← exponent? rest
  match rest with
  | c :: after =>
    if c = 'j' || c = 'J' then
      return ← if endsBefore after then some (.imaginary, after) else none
  | [] => pure ()
  if !endsBefore rest then none
  if fraction.isSome || exponent.isSome then
    return (.real (ofParts whole (fraction.getD []) (exponent.getD 0)), rest)
  if whole.head? = some '0' && whole.any (· ≠ '0') then none
  if maxDigits < whole.length then none
  return (.whole (decimal whole), rest)

/-- Whether a character is a digit in a base. -/
def isDigitOf (base : Nat) (c : Char) : Bool := (Text.hexNumber? [c]).any (· < base)

/-- The integer in a base whose letter has been read, and the rest. -/
def ofBase? (base : Nat) (s : List Char) : Option (Numeral × List Char) := do
  let (ds, rest) ← digits? (isDigitOf base) s
  if ds.isEmpty || rest.head?.any Char.isDigit || !endsBefore rest then none
  let n ← ds.foldlM (fun n c => (Text.hexNumber? [c]).map (n * base + ·)) 0
  return (.whole n, rest)

/-- The letters of the bases other than ten. -/
def bases : List (Char × Nat) := [('x', 16), ('o', 8), ('b', 2)]

/-- The numeral at the start of a text that starts with a digit, or with a point and a digit, and
the rest. -/
def read? (s : List Char) : Option (Numeral × List Char) :=
  match s with
  | '.' :: _ => ofWhole? [] s
  | '0' :: c :: rest =>
    match bases.find? fun b => b.1 = c.toLower with
    | some b => ofBase? b.2 rest
    | none => do
      let (ds, rest) ← digits? Char.isDigit s
      ofWhole? ds rest
  | s => do
    let (ds, rest) ← digits? Char.isDigit s
    ofWhole? ds rest

end Numeral
end Bindery.Script
