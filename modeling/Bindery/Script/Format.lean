import Bindery.Script.Datum

/-!
# Formats

Texts that say how other data are shown: one with a conversion for each datum, and the format of a
single datum. Here only what can go wrong with them is told, not the text that comes out.

* `Format.checkText`: refuses data that the conversions of a text do not take.
* `Format.checkSpec`: refuses a format that the kind of a datum does not have.
-/

namespace Bindery.Script.Format

/-! ## Conversions -/

/-- A conversion in a text that is formatted: whether its value has a name, how many numbers it
takes for its width and precision, and its letter. -/
structure Conversion where
  isNamed : Bool
  stars : Nat
  letter : Char

/-- The width or precision of a conversion: how many numbers it takes, and the rest. -/
def skipNumber (s : List Char) : Nat × List Char :=
  match s with
  | '*' :: rest => (1, rest)
  | s => (0, s.dropWhile Char.isDigit)

/-- The conversion behind a percent sign, none if the text ends too early, and the rest. -/
def conversion? (s : List Char) : Option (Conversion × List Char) :=
  let (isNamed, s) := match s with
    | '(' :: rest => (true, (rest.dropWhile (· ≠ ')')).drop 1)
    | s => (false, s)
  let (stars, s) := skipNumber (s.dropWhile fun c => ['-', '+', ' ', '#', '0'].contains c)
  let (more, s) := match s with
    | '.' :: rest => skipNumber rest
    | s => (0, s)
  match s.dropWhile fun c => ['h', 'l', 'L'].contains c with
  | letter :: rest => some (⟨isNamed, stars + more, letter⟩, rest)
  | [] => none

/-- The conversions in a text, none if one is not complete. -/
def conversions? (fuel : Nat) (s : List Char) : Option (List Conversion) :=
  match fuel, s with
  | _, [] => some []
  | 0, _ => none
  | fuel + 1, '%' :: rest => do
    let (c, rest) ← conversion? rest
    let more ← conversions? fuel rest
    return if c.letter = '%' then more else c :: more
  | fuel + 1, _ :: rest => conversions? fuel rest

/-- Refuses a datum that a conversion does not take. -/
def checkConversion (letter : Char) (d : Datum) : Except Fault Unit :=
  if ['s', 'r', 'a'].contains letter || d.isUnknown then .ok ()
  else if ['d', 'i', 'u'].contains letter then
    if d.rank?.any (· < 2) then .ok () else .error .wrongType
  else if ['o', 'x', 'X'].contains letter then if d.isWhole then .ok () else .error .wrongType
  else if ['e', 'E', 'f', 'F', 'g', 'G'].contains letter then
    if d.rank?.any (· < 2) then .ok () else .error .wrongType
  else if letter = 'c' then
    match d with
    | .plain (.text s) => if Text.size s = 1 then .ok () else .error .wrongType
    | .plain (.int n) => if 0 ≤ n && n < 0x110000 then .ok () else .error .outOfRange
    | d => if d.isWhole || d.kindName = "str" then .ok () else .error .wrongType
  else .error .malformed

/-- Refuses data that the conversions of a text do not take one by one. -/
def checkConversions (isLoose : Bool) : List Conversion → List Datum → Except Fault Unit
  | [], ds => if ds.isEmpty || isLoose then .ok () else .error .wrongType
  | _ :: _, [] => .error .wrongType
  | c :: cs, d :: ds =>
    if c.stars = 0 then do
      checkConversion c.letter d
      checkConversions isLoose cs ds
    else if d.isWhole then checkConversions isLoose ({ c with stars := c.stars - 1 } :: cs) ds
    else .error .wrongType
termination_by cs ds => (ds.length, cs.length)

/-- Refuses data that cannot be formatted into a text. A datum that has items by keys may be left
over, and its items are the values of the conversions with names. -/
def checkText (s : String) (d : Datum) : Except Fault Unit :=
  match conversions? (s.length + 1) s.toList with
  | none => .error .malformed
  | some cs =>
    let isMap := match d with
      | .table _ | .sequence .list _ | .plain (.bytes _) | .kind _ => true
      | d => d.isUnknown
    if cs.any (·.isNamed) then if isMap then .ok () else .error .wrongType
    else
      match d with
      | .sequence .tuple items => checkConversions false cs items
      | d => if d.isUnknown then .ok () else checkConversions isMap cs [d]

/-! ## Formats of a datum -/

/-- The format of a datum. -/
structure Spec where
  alignment : Option Char := none
  sign : Bool := false
  /-- Whether negative zeros are shown as zeros. -/
  unsigned : Bool := false
  alternate : Bool := false
  separator : Option Char := none
  precise : Bool := false
  letter : Option Char := none

/-- The characters that align a text. -/
def alignments : List Char := ['<', '>', '=', '^']

/-- The alignment at the start of a format, perhaps behind a character to fill with, and the
rest. -/
def alignment? : List Char → Option Char × List Char
  | fill :: a :: rest =>
    if alignments.contains a then (some a, rest)
    else if alignments.contains fill then (some fill, a :: rest)
    else (none, fill :: a :: rest)
  | [a] => if alignments.contains a then (some a, []) else (none, [a])
  | [] => (none, [])

/-- Whether a text starts with one of some characters, and the rest. -/
def flag (cs : List Char) : List Char → Bool × List Char
  | c :: rest => if cs.contains c then (true, rest) else (false, c :: rest)
  | [] => (false, [])

/-- Reads a format, none if it is none of any kind of data. -/
def spec? (s : List Char) : Option Spec := do
  let (alignment, s) := alignment? s
  let (sign, s) := flag ['+', '-', ' '] s
  let (unsigned, s) := flag ['z'] s
  let (alternate, s) := flag ['#'] s
  let s := s.dropWhile Char.isDigit
  let separator := s.head?.filter fun c => c = ',' || c = '_'
  let s := if separator.isSome then s.drop 1 else s
  let (precise, s) := flag ['.'] s
  if precise && !(s.head?.any Char.isDigit) then none
  let s := if precise then s.dropWhile Char.isDigit else s
  match s with
  | [] => some ⟨alignment, sign, unsigned, alternate, separator, precise, none⟩
  | [c] => some ⟨alignment, sign, unsigned, alternate, separator, precise, some c⟩
  | _ => none

/-- Whether a text has a format. -/
def fitsText (f : Spec) : Bool :=
  !f.sign && !f.unsigned && !f.alternate && f.alignment ≠ some '=' && f.separator.isNone
    && f.letter.all (· = 's')

/-- Whether a number with a point has a format. -/
def fitsReal (f : Spec) : Bool :=
  f.letter.all fun c => ['e', 'E', 'f', 'F', 'g', 'G', 'n', '%'].contains c
    && (c ≠ 'n' || f.separator.isNone)

/-- Whether an integer has a format. -/
def fitsWhole (f : Spec) : Bool :=
  match f.letter with
  | some 'c' => !f.sign && !f.precise && !f.unsigned && !f.alternate && f.separator.isNone
  | some 'd' => !f.precise && !f.unsigned
  | some 'n' => !f.precise && !f.unsigned && f.separator.isNone
  | none => !f.precise && !f.unsigned
  | some c =>
    if ['b', 'o', 'x', 'X'].contains c then !f.precise && !f.unsigned && f.separator ≠ some ','
    else fitsReal f

/-- Refuses a format that the kind of a datum does not have. -/
def checkSpec (s : String) (d : Datum) : Except Fault Unit :=
  let fits : Option (Spec → Bool) :=
    if d.isWhole then some fitsWhole
    else if d.rank? = some 1 then some fitsReal
    else if d.rank? = some 2 then some fun f => fitsReal f && f.letter ≠ some '%'
    else if d.kindName = "str" then some fitsText
    else none
  if s.isEmpty || d.isUnknown || d.kindName = "object" then .ok ()
  else match fits with
    | none => .error .wrongType
    | some fits => if (spec? s.toList).any fits then .ok () else .error .malformed

end Bindery.Script.Format
