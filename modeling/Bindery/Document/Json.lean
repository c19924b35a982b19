import Bindery.Document.Basic
import Bindery.Text.Hex
import Bindery.Text.Numeral

/-!
# JSON

Documents in JSON notation.

* `Json.read`: the document that a text denotes. A key that occurs again replaces the earlier
  value; numbers with a fraction or an exponent are doubles; `NaN` and `Infinity` are accepted.
* `Json.write`: the notation of a document, without blanks.

Reading has two steps, `lex` and `parse`. Each consumes at least one item per step, so the
length of its input bounds the recursion.
-/

namespace Bindery.Json

open Text

/-- A lexical item of JSON. -/
inductive Token where
  | openList | closeList | openTable | closeTable | colon | comma
  | value (d : Document)
  /-- What is no item; it ends the items of a text. -/
  | bad (e : ReadError)

/-- The blanks between items. -/
def isSpace (c : Char) : Bool := c = ' ' || c = '\t' || c = '\n' || c = '\r'

/-- The value of four hexadecimal digits and the rest. -/
def codeUnit? : List Char → Option (Nat × List Char)
  | a :: b :: c :: d :: rest => (hexNumber? [a, b, c, d]).map (·, rest)
  | _ => none

/-- The character of a short escape. -/
def shortEscape? (c : Char) : Option Char :=
  match c with
  | '"' => some '"'
  | '\\' => some '\\'
  | '/' => some '/'
  | 'b' => some (Char.ofNat 8)
  | 'f' => some (Char.ofNat 12)
  | 'n' => some '\n'
  | 'r' => some '\r'
  | 't' => some '\t'
  | _ => none

/-- Whether a code unit is the second half of a pair. -/
def isLowSurrogate (n : Nat) : Bool := 0xDC00 ≤ n && n < 0xE000

/-- The code point of an escape by code units, which may take a second unit, and the rest. -/
def unicodeEscape? (s : List Char) : Option (CodePoint × List Char) := do
  let (high, rest) ← codeUnit? s
  if 0xD800 ≤ high ∧ high < 0xDC00 then
    match rest with
    | '\\' :: 'u' :: more =>
      match codeUnit? more with
      | some (low, after) =>
        if isLowSurrogate low then
          return (.ofNumber (0x10000 + (high - 0xD800) * 0x400 + (low - 0xDC00)), after)
        else return (.ofNumber high, rest)
      | none => return (.ofNumber high, rest)
    | _ => return (.ofNumber high, rest)
  else return (.ofNumber high, rest)

/-- The characters of a text up to its closing quote, appended in reverse to `acc`, and the
rest. -/
def textBody? (fuel : Nat) (s acc : List Char) : Option (List Char × List Char) :=
  match fuel, s with
  | 0, _ => none
  | _, [] => none
  | _, '"' :: rest => some (acc, rest)
  | fuel + 1, '\\' :: 'u' :: rest =>
    match unicodeEscape? rest with
    | some (p, after) => textBody? fuel after (p.spelling.reverse ++ acc)
    | none => none
  | fuel + 1, '\\' :: e :: rest =>
    match shortEscape? e with
    | some c => textBody? fuel rest (c :: acc)
    | none => none
  | fuel + 1, c :: rest =>
    if c = '\\' ∨ c.toNat < 32 then none else textBody? fuel rest (c :: acc)

/-- Digits of a whole number: a single zero, or digits that do not start with one. -/
def isWhole (digits : List Char) : Bool :=
  match digits with
  | [] => false
  | ['0'] => true
  | d :: _ => d ≠ '0'

/-- An exponent with at least one digit, and what follows it; otherwise nothing is taken. -/
def splitExponent (s : List Char) : List Char × List Char :=
  match s with
  | e :: rest =>
    if e = 'e' ∨ e = 'E' then
      let sign := rest.takeWhile fun c => c = '+' || c = '-'
      let digits := (rest.drop sign.length).takeWhile Char.isDigit
      if sign.length ≤ 1 ∧ digits ≠ [] then
        (e :: sign ++ digits, (rest.drop sign.length).drop digits.length)
      else ([], s)
    else ([], s)
  | [] => ([], [])

/-- A fraction with at least one digit, and what follows it; otherwise nothing is taken. -/
def splitFraction (s : List Char) : List Char × List Char :=
  match s with
  | '.' :: rest =>
    let digits := rest.takeWhile Char.isDigit
    if digits = [] then ([], s) else ('.' :: digits, rest.drop digits.length)
  | _ => ([], s)

/-- An integer, unless it has too many digits. -/
def integer (negative : Bool) (digits : List Char) : Token :=
  let n : Int := digitsValue digits
  if maxDigits < digits.length then .bad .overlong
  else .value (.int (if negative then -n else n))

/-- A number without its sign, and the rest. -/
def number? (negative : Bool) (s : List Char) : Option (Token × List Char) :=
  let run := s.takeWhile Char.isDigit
  let whole := if run.head? = some '0' then ['0'] else run
  if isWhole whole then
    let (fraction, afterFraction) := splitFraction (s.drop whole.length)
    let (exponent, rest) := splitExponent afterFraction
    if fraction.isEmpty && exponent.isEmpty then some (integer negative whole, rest)
    else
      (fraction? (whole ++ fraction ++ exponent)).map fun f =>
        (.value (.float (f.toDouble negative)), rest)
  else none

/-- The words that denote values. -/
def words : List (List Char × Document) := [
  ("null".toList, .null), ("true".toList, .bool true), ("false".toList, .bool false),
  ("NaN".toList, .float (nan false)),
  ("Infinity".toList, .float (.ofParts false Number.double.infinity)),
  ("-Infinity".toList, .float (.ofParts true Number.double.infinity))]

/-- A word at the start of a text, and the rest. -/
def word? (s : List Char) : Option (Token × List Char) :=
  (words.find? fun w => w.1.isPrefixOf s).map fun w => (.value w.2, s.drop w.1.length)

/-- A text, number or word at the start, and the rest. -/
def scalar? (s : List Char) : Option (Token × List Char) :=
  match s with
  | '"' :: rest =>
    (textBody? (rest.length + 1) rest []).map fun t =>
      (.value (.text (String.ofList t.1.reverse)), t.2)
  | '-' :: rest => (number? true rest).or (word? s)
  | _ => (number? false s).or (word? s)

/-- The items of a text up to the first one that is bad, appended in reverse to `acc`. -/
def lexFrom (fuel : Nat) (s : List Char) (acc : List Token) : List Token :=
  match fuel, s with
  | _, [] => acc.reverse
  | 0, _ => (.bad .malformed :: acc).reverse
  | fuel + 1, c :: rest =>
    if isSpace c then lexFrom fuel rest acc
    else if c = '[' then lexFrom fuel rest (.openList :: acc)
    else if c = ']' then lexFrom fuel rest (.closeList :: acc)
    else if c = Char.ofNat 0x7B then lexFrom fuel rest (.openTable :: acc)
    else if c = Char.ofNat 0x7D then lexFrom fuel rest (.closeTable :: acc)
    else if c = ':' then lexFrom fuel rest (.colon :: acc)
    else if c = ',' then lexFrom fuel rest (.comma :: acc)
    else match scalar? (c :: rest) with
      | some (.bad e, _) => (.bad e :: acc).reverse
      | some (t, after) => lexFrom fuel after (t :: acc)
      | none => (.bad .malformed :: acc).reverse

/-- The lexical items of a text. -/
def lex (s : String) : List Token := lexFrom (s.length + 1) s.toList []

mutual

/-- A value at the start of the items, and the rest. Values nest up to a depth. -/
def value (fuel depth : Nat) (ts : List Token) : Except ReadError (Document × List Token) :=
  match fuel, depth, ts with
  | 0, _, _ => .error .malformed
  | _, _, .value d :: rest => .ok (d, rest)
  | _, _, .bad e :: _ => .error e
  | _, 0, .openList :: _ | _, 0, .openTable :: _ => .error .tooDeep
  | _, _, .openList :: .closeList :: rest => .ok (.list [], rest)
  | fuel + 1, depth + 1, .openList :: rest => items fuel depth rest []
  | _, _, .openTable :: .closeTable :: rest => .ok (.table [], rest)
  | fuel + 1, depth + 1, .openTable :: rest => entries fuel depth rest []
  | _, _, _ => .error .malformed

/-- The items of a list up to its end, after those in `acc` (in reverse), and the rest. -/
def items (fuel depth : Nat) (ts : List Token) (acc : List Document) :
    Except ReadError (Document × List Token) :=
  match fuel with
  | 0 => .error .malformed
  | fuel + 1 =>
    match value fuel depth ts with
    | .ok (d, .comma :: rest) => items fuel depth rest (d :: acc)
    | .ok (d, .closeList :: rest) => .ok (.list (d :: acc).reverse, rest)
    | .ok _ => .error .malformed
    | .error e => .error e

/-- The entries of a table up to its end, after those in `acc`, and the rest. -/
def entries (fuel depth : Nat) (ts : List Token) (acc : List (String × Document)) :
    Except ReadError (Document × List Token) :=
  match fuel, ts with
  | fuel + 1, .value (.text key) :: .colon :: rest =>
    match value fuel depth rest with
    | .ok (d, .comma :: rest) => entries fuel depth rest (Assoc.set key d acc)
    | .ok (d, .closeTable :: rest) => .ok (.table (Assoc.set key d acc), rest)
    | .ok _ => .error .malformed
    | .error e => .error e
  | _, _ => .error .malformed

end

/-- The document that consists of all the items. -/
def parse (ts : List Token) : Except ReadError Document :=
  match value (2 * ts.length + 1) maxNesting ts with
  | .ok (d, []) => .ok d
  | .ok _ => .error .malformed
  | .error e => .error e

/-- The document that a text denotes in JSON notation. -/
def read (s : String) : Except ReadError Document := parse (lex s)

/-- The notation of one code point inside a text. -/
def escape (p : CodePoint) : List Char :=
  if p = .char '"' ∨ p = .char '\\' then '\\' :: p.spelling
  else if p.char?.isNone ∨ p.number < 32 then '\\' :: 'u' :: hexDigits 4 p.number
  else p.spelling

/-- The notation of a text. -/
def quote (s : String) : String := "\"" ++ String.ofList ((points s).flatMap escape) ++ "\""

/-- The notation of a double. -/
def float (d : Number.Double) : String :=
  if d.isNaN then "NaN"
  else if d.isInfinite then (if d.isNegative then "-Infinity" else "Infinity")
  else d.text

mutual

/-- The notation of a document. -/
def write : Document → String
  | .null => "null"
  | .bool b => if b then "true" else "false"
  | .int n => toString n
  | .float d => float d
  | .text s => quote s
  | .moment s => quote s
  | .list items => "[" ++ ",".intercalate (writeItems items) ++ "]"
  | .table entries => "\x7b" ++ ",".intercalate (writeEntries entries) ++ "\x7d"

/-- The notations of list items. -/
def writeItems : List Document → List String
  | [] => []
  | d :: rest => write d :: writeItems rest

/-- The notations of table entries. -/
def writeEntries : List (String × Document) → List String
  | [] => []
  | (key, d) :: rest => (quote key ++ ":" ++ write d) :: writeEntries rest

end

end Bindery.Json
