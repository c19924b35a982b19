import Bindery.Text.CharacterNames
import Bindery.Text.Hex

/-!
# Characters by name

* `Text.numberOfName?`: the number of the character with a name.
-/

namespace Bindery.Text

/-! ## Tables -/

/-- The first words of a name. -/
def firstWords (count : Nat) (name : List Char) : List Char :=
  match count, name with
  | 0, _ | _, [] => []
  | count + 1, ' ' :: rest => if count = 0 then [] else ' ' :: firstWords count rest
  | count + 1, c :: rest => c :: firstWords (count + 1) rest

/-- Where a list of names is being read. -/
structure NameReading where
  /-- The name before the current one. -/
  before : List Char := []
  /-- How many words of it the current name has. -/
  kept : Nat := 0
  /-- The other words of the current name, in reverse. -/
  words : List Char := []
  /-- The number of the current name. -/
  number : Nat := 0
  /-- The number that is being read for the next name. -/
  next : Option Nat := none
  /-- The number of the name that is looked for. -/
  found : Option Nat := none

/-- The current name. -/
def NameReading.name (r : NameReading) : List Char :=
  let start := firstWords r.kept r.before
  if start.isEmpty || r.words.isEmpty then start ++ r.words.reverse
  else start ++ ' ' :: r.words.reverse

/-- Ends the current name, which may be the one that is looked for. -/
def NameReading.close (wanted : List Char) (r : NameReading) : NameReading :=
  let name := r.name
  { r with
    before := name
    words := []
    kept := 0
    found := if name = wanted then r.found.or (some r.number) else r.found }

/-- Starts a name that has some words of the one before it. -/
def NameReading.start (r : NameReading) (letter : Char) (number : Nat) : NameReading :=
  { r with kept := letter.toNat - 'a'.toNat, number, next := none }

/-- Reads one more character of a list of names. -/
def NameReading.read (wanted : List Char) (r : NameReading) (c : Char) : NameReading :=
  if c = '\n' then r
  else match r.next with
  | some n =>
    if c.isLower then r.start c n
    else { r with next := some (n * 16 + (hexNumber? [c]).getD 0) }
  | none =>
    if c = '@' then { r.close wanted with next := some 0 }
    else if c.isLower then (r.close wanted).start c (r.number + 1)
    else { r with words := c :: r.words }

/-- The number that a list of names has for one of them. The first name has the number zero, and the
lines that the list is written in do not matter. -/
def lookupName (names : String) (wanted : List Char) : Option Nat :=
  let first : NameReading := { next := some 0 }
  ((names.toList.foldl (NameReading.read wanted) first).close wanted).found

/-! ## Syllables -/

/-- The names of the first parts of syllables. -/
def leads : List String := [
  "G", "GG", "N", "D", "DD", "R", "M", "B", "BB", "S", "SS", "", "J", "JJ", "C", "K", "T", "P", "H"]

/-- The names of the vowels of syllables. -/
def vowels : List String := [
  "A", "AE", "YA", "YAE", "EO", "E", "YEO", "YE", "O", "WA", "WAE", "OE", "YO", "U", "WEO", "WE",
  "WI", "YU", "EU", "YI", "I"]

/-- The names of the last parts of syllables. -/
def tails : List String := [
  "", "G", "GG", "GS", "N", "NJ", "NH", "D", "L", "LG", "LM", "LB", "LS", "LT", "LP", "LH", "M",
  "B", "BS", "S", "SS", "NG", "J", "C", "K", "T", "P", "H"]

/-- The longest of some names that a text starts with, by its place, and the rest. -/
def longest? (names : List String) (s : List Char) : Option (Nat × List Char) :=
  let fits := names.zipIdx.filter fun n => n.1.toList.isPrefixOf s
  let best := fits.foldl
    (fun best n => if best.all fun b => b.1.length < n.1.length then some n else best) none
  best.map fun n => (n.2, s.drop n.1.length)

/-- The number of the syllable with a name. -/
def numberOfSyllable? (s : List Char) : Option Nat := do
  let (lead, s) ← longest? leads s
  let (vowel, s) ← longest? vowels s
  let (tail, s) ← longest? tails s
  if s.isEmpty then
    return 0xAC00 + (lead * vowels.length + vowel) * tails.length + tail
  none

/-! ## Names with numbers -/

/-- Whether a number is in one of some ranges. -/
def isInRanges (ranges : List (Nat × Nat)) (n : Nat) : Bool :=
  ranges.any fun r => r.1 ≤ n && n ≤ r.2

/-- Whether a character is a capital digit of a hexadecimal number. -/
def isCapitalHex (c : Char) : Bool := c.isDigit || ('A' ≤ c && c ≤ 'F')

/-- The number of an ideograph by the digits at the end of its name. -/
def numberOfIdeograph? (digits : List Char) : Option Nat := do
  if digits.length ≠ 4 && digits.length ≠ 5 || !digits.all isCapitalHex then none
  (hexNumber? digits).filter (isInRanges ideographs)

/-- The number of a character whose name ends with it. -/
def numberAtEnd? (name : List Char) : Option Nat :=
  numberedNames.findSome? fun e =>
    let start := e.1.toList ++ ['-']
    let digits := name.drop start.length
    if start.isPrefixOf name && digits.all isCapitalHex && digits.head? ≠ some '0' then
      (hexNumber? digits).filter (isInRanges e.2)
    else none

/-- The number of the character with a name. Small letters count as capital ones, but not in the
names of syllables and ideographs. -/
def numberOfName? (name : List Char) : Option Nat :=
  let syllable := "HANGUL SYLLABLE ".toList
  let ideograph := "CJK UNIFIED IDEOGRAPH-".toList
  if syllable.isPrefixOf name then numberOfSyllable? (name.drop syllable.length)
  else if ideograph.isPrefixOf name then numberOfIdeograph? (name.drop ideograph.length)
  else
    let capital := name.map Char.toUpper
    (numberAtEnd? capital).or (lookupName characterNames capital)

end Bindery.Text
