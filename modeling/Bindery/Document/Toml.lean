import Bindery.Document.Basic
import Bindery.Document.Json
import Bindery.Text.Numeral

/-!
# TOML

Documents in TOML 1.0 notation.

* `Toml.read`: the table that a text denotes, unless the text is malformed or defines something
  twice.
* `Toml.Build`: the tables defined so far together with the marks that forbid to reopen them.

A parser takes characters from the front of a text and returns its result with the rest. What
contains a value can fail in more than one way.
-/

namespace Bindery.Toml

open Text

/-! ## Characters -/

/-- Blanks within a line. -/
def isBlankChar (c : Char) : Bool := c = ' ' || c = '\t'

/-- The text without blanks at its start. -/
def skipBlanks (s : List Char) : List Char := s.dropWhile isBlankChar

/-- Control characters, which only escapes can produce. Tabs are not among them. -/
def isControl (c : Char) : Bool := (c.toNat < 32 && c != '\t') || c.toNat = 127

/-- Characters of keys without quotes. -/
def isBareKeyChar (c : Char) : Bool := c.isAlphanum || c = '_' || c = '-'

/-- The rest of a text after a given start. -/
def after? (start : String) (s : List Char) : Option (List Char) :=
  if start.toList.isPrefixOf s then some (s.drop start.length) else none

/-- The text after a comment, if there is one. -/
def skipComment (s : List Char) : Option (List Char) :=
  match s with
  | '#' :: rest =>
    if (rest.takeWhile (· ≠ '\n')).any isControl then none else some (rest.dropWhile (· ≠ '\n'))
  | _ => some s

/-- The text after the blanks, line ends and comments that may stand in an array. -/
def skipFiller (fuel : Nat) (s : List Char) : Option (List Char) :=
  let s := s.dropWhile fun c => isBlankChar c || c = '\n'
  match fuel, s with
  | fuel + 1, '#' :: _ => skipComment s >>= skipFiller fuel
  | _, _ => some s

/-! ## Texts -/

/-- The character of an escape by its code, given as hexadecimal digits. -/
def codeEscape? (width : Nat) (s : List Char) : Option (List Char × List Char) := do
  let digits := s.take width
  if digits.length = width then
    let n ← Text.hexNumber? digits
    if n < 0x110000 ∧ ¬ (0xD800 ≤ n ∧ n < 0xE000) then
      return ((CodePoint.ofNumber n).spelling, s.drop width)
    else none
  else none

/-- The text after a line end that an escape removes, with the blanks around it. -/
def foldLine? (s : List Char) : Option (List Char × List Char) :=
  match skipBlanks s with
  | [] => some ([], [])
  | '\n' :: rest => some ([], rest.dropWhile fun c => isBlankChar c || c = '\n')
  | _ => none

/-- What an escape stands for; the text starts after its backslash. -/
def escape? (multiline : Bool) (s : List Char) : Option (List Char × List Char) :=
  match s with
  | 'u' :: rest => codeEscape? 4 rest
  | 'U' :: rest => codeEscape? 8 rest
  | 'b' :: rest => some ([Char.ofNat 8], rest)
  | 't' :: rest => some (['\t'], rest)
  | 'n' :: rest => some (['\n'], rest)
  | 'f' :: rest => some ([Char.ofNat 12], rest)
  | 'r' :: rest => some (['\r'], rest)
  | '"' :: rest => some (['"'], rest)
  | '\\' :: rest => some (['\\'], rest)
  | c :: _ => if multiline && (isBlankChar c || c = '\n') then foldLine? s else none
  | [] => none

/-- Up to two quotes that belong to a multi-line text although they touch its end. -/
def extraQuotes (quote : Char) (s : List Char) : List Char :=
  (s.take 2).takeWhile (· = quote)

/-- The characters of a text in double quotes up to its end. -/
def basic? (multiline : Bool) (fuel : Nat) (s acc : List Char) : Option (String × List Char) :=
  match fuel, s with
  | fuel + 1, '\\' :: rest =>
    match escape? multiline rest with
    | some (cs, rest) => basic? multiline fuel rest (cs.reverse ++ acc)
    | none => none
  | fuel + 1, '"' :: rest =>
    if !multiline then some (String.ofList acc.reverse, rest)
    else
      match after? "\"\"" rest with
      | some rest =>
        let extra := extraQuotes '"' rest
        some (String.ofList (acc.reverse ++ extra), rest.drop extra.length)
      | none => basic? multiline fuel rest ('"' :: acc)
  | fuel + 1, c :: rest =>
    if isControl c && !(multiline && c = '\n') then none else basic? multiline fuel rest (c :: acc)
  | _, _ => none

/-- The characters of a text in single quotes up to its end. -/
def literal? (multiline : Bool) (fuel : Nat) (s acc : List Char) : Option (String × List Char) :=
  match fuel, s with
  | fuel + 1, '\'' :: rest =>
    if !multiline then some (String.ofList acc.reverse, rest)
    else
      match after? "''" rest with
      | some rest =>
        let extra := extraQuotes '\'' rest
        some (String.ofList (acc.reverse ++ extra), rest.drop extra.length)
      | none => literal? multiline fuel rest ('\'' :: acc)
  | fuel + 1, c :: rest =>
    if isControl c && !(multiline && c = '\n') then none
    else literal? multiline fuel rest (c :: acc)
  | _, _ => none

/-- The text after the line end that may open a multi-line text. -/
def dropLineEnd (s : List Char) : List Char :=
  match s with
  | '\n' :: rest => rest
  | _ => s

/-- A text in quotes. -/
def text? (s : List Char) : Option (String × List Char) :=
  let fuel := s.length + 1
  match after? "\"\"\"" s, after? "'''" s, s with
  | some rest, _, _ => basic? true fuel (dropLineEnd rest) []
  | _, some rest, _ => literal? true fuel (dropLineEnd rest) []
  | _, _, '"' :: rest => basic? false fuel rest []
  | _, _, '\'' :: rest => literal? false fuel rest []
  | _, _, _ => none

/-! ## Keys -/

/-- One part of a key. -/
def keyPart? (s : List Char) : Option (String × List Char) :=
  match s with
  | '"' :: rest => basic? false (s.length + 1) rest []
  | '\'' :: rest => literal? false (s.length + 1) rest []
  | _ =>
    let part := s.takeWhile isBareKeyChar
    if part.isEmpty then none else some (String.ofList part, s.drop part.length)

/-- A key of one or more parts, and the blanks after it. -/
def key? (fuel : Nat) (s : List Char) : Option (List String × List Char) :=
  match fuel with
  | 0 => none
  | fuel + 1 => do
    let (part, rest) ← keyPart? s
    match skipBlanks rest with
    | '.' :: rest =>
      let (parts, rest) ← key? fuel (skipBlanks rest)
      return (part :: parts, rest)
    | rest => return ([part], rest)

/-! ## Numbers and moments -/

/-- Digits of a class with single underscores between them, at least one. -/
def digitRun (isDigitChar : Char → Bool) (fuel : Nat) (s : List Char) : List Char :=
  match fuel, s with
  | fuel + 1, c :: rest =>
    if isDigitChar c then
      match rest with
      | '_' :: d :: _ =>
        if isDigitChar d then c :: '_' :: digitRun isDigitChar fuel (rest.drop 1) else [c]
      | _ => c :: digitRun isDigitChar fuel rest
    else []
  | _, _ => []

/-- The value of digits in a base; underscores do not count. -/
def valueIn (base : Nat) (digits : List Char) : Nat :=
  (digits.filter (· ≠ '_')).foldl (fun n c => n * base + (Text.hexValue? c).getD 0) 0

/-- A number with a base of its own; the text starts after the zero. -/
def basedNumber? (s : List Char) : Option (Document × List Char) :=
  let parse := fun (base : Nat) (rest : List Char) =>
    let digits := digitRun (fun c => (Text.hexValue? c).any (· < base)) rest.length rest
    if digits.isEmpty then none
    else some (Document.int (valueIn base digits), rest.drop digits.length)
  match s with
  | 'x' :: rest => parse 16 rest
  | 'b' :: rest => parse 2 rest
  | 'o' :: rest => parse 8 rest
  | _ => none

/-- The fraction of a number with its point. -/
def fractionPart (s : List Char) : List Char :=
  match s with
  | '.' :: rest =>
    let digits := digitRun Char.isDigit rest.length rest
    if digits.isEmpty then [] else '.' :: digits
  | _ => []

/-- The exponent of a number with its mark. -/
def exponentPart (s : List Char) : List Char :=
  match s with
  | e :: rest =>
    if marksExponent e then
      let sign := (rest.take 1).takeWhile fun c => c = '+' || c = '-'
      let digits := digitRun Char.isDigit rest.length (rest.drop sign.length)
      if digits.isEmpty then [] else e :: sign ++ digits
    else []
  | [] => []

/-- An integer, unless it has too many digits. -/
def integer (s : List Char) : Except ReadError Document := do
  if maxDigits < (splitSign s).2.length then throw .overlong
  return .int (← ReadError.orMalformed (signed? s))

/-- A decimal number. -/
def decimalNumber? (s : List Char) : Option (Except ReadError Document × List Char) := do
  let sign := (s.take 1).takeWhile fun c => c = '+' || c = '-'
  let body := s.drop sign.length
  let whole := if body.head? = some '0' then ['0'] else digitRun Char.isDigit body.length body
  if whole.isEmpty then none
  let fraction := fractionPart (body.drop whole.length)
  let exponent := exponentPart (body.drop (whole.length + fraction.length))
  let spelled := (sign ++ whole ++ fraction ++ exponent).filter (· ≠ '_')
  let rest := s.drop (sign.length + whole.length + fraction.length + exponent.length)
  if fraction.isEmpty && exponent.isEmpty then return (integer spelled, rest)
  else return (.ok (.float (← decimal? spelled)), rest)

/-- The special doubles. -/
def specialNumber? (s : List Char) : Option (Document × List Char) :=
  let sign := (s.take 1).takeWhile fun c => c = '+' || c = '-'
  let word := (s.drop sign.length).take 3
  if word = "inf".toList || word = "nan".toList then
    (decimal? (sign ++ word)).map fun d => (.float d, s.drop (sign.length + 3))
  else none

/-- A number of exactly `width` digits within bounds. -/
def field? (width low high : Nat) (s : List Char) : Option (Nat × List Char) :=
  let digits := s.take width
  let n := digitsValue digits
  if digits.length = width ∧ digits.all Char.isDigit ∧ low ≤ n ∧ n ≤ high then
    some (n, s.drop width)
  else none

/-- The text after a character. -/
def expect (c : Char) (s : List Char) : Option (List Char) :=
  if s.head? = some c then some (s.drop 1) else none

/-- Number of days of a month. -/
def daysIn (year month : Nat) : Nat :=
  if month = 2 then (if year % 4 = 0 ∧ (year % 100 ≠ 0 ∨ year % 400 = 0) then 29 else 28)
  else if [4, 6, 9, 11].contains month then 30 else 31

/-- The text after a time of day. -/
def time? (s : List Char) : Option (List Char) := do
  let (_, s) ← field? 2 0 23 s
  let (_, s) ← field? 2 0 59 (← expect ':' s)
  let (_, s) ← field? 2 0 59 (← expect ':' s)
  match s with
  | '.' :: d :: rest => return if d.isDigit then rest.dropWhile Char.isDigit else s
  | _ => return s

/-- The text after an offset from universal time, if there is one. -/
def skipOffset (s : List Char) : List Char :=
  let numeric : List Char → Option (List Char) := fun rest => do
    let (_, t) ← field? 2 0 23 rest
    let (_, t) ← field? 2 0 59 (← expect ':' t)
    return t
  match s with
  | 'Z' :: rest | 'z' :: rest => rest
  | '+' :: rest => (numeric rest).getD s
  | '-' :: rest => (numeric rest).getD s
  | _ => s

/-- A date, its validity, and the rest. -/
def date? (s : List Char) : Option (Bool × List Char) := do
  let (year, s) ← field? 4 0 9999 s
  let (month, s) ← field? 2 1 12 (← expect '-' s)
  let (day, s) ← field? 2 1 31 (← expect '-' s)
  return (1 ≤ year && day ≤ daysIn year month, s)

/-- The text after the time that may follow a date. -/
def skipTime (s : List Char) : List Char :=
  match s with
  | c :: rest =>
    if c = 'T' ∨ c = 't' ∨ c = ' ' then ((time? rest).map skipOffset).getD s else s
  | [] => []

/-- A date, a time or both. -/
def moment? (s : List Char) : Option (Option (Document × List Char)) :=
  let spelled := fun rest : List Char => String.ofList (s.take (s.length - rest.length))
  match date? s with
  | some (true, rest) => some (some (.moment (spelled (skipTime rest)), skipTime rest))
  | some (false, _) => some none
  | none => (time? s).map fun rest => some (.moment (spelled rest), rest)

/-- A number or a moment. -/
def number (s : List Char) : Except ReadError (Document × List Char) := do
  if let some parsed := moment? s then return ← ReadError.orMalformed parsed
  let based := match s with
    | '0' :: rest => basedNumber? rest
    | _ => none
  match based, decimalNumber? s with
  | some parsed, _ => return parsed
  | none, some (d, rest) => return (← d, rest)
  | none, none => ReadError.orMalformed (specialNumber? s)

/-! ## Tables -/

/-- Why a path must not be defined again. -/
inductive Mark where
  /-- Defined by an inline value: nothing can be added to it. -/
  | frozen
  /-- Opened as a table: it cannot be opened again. -/
  | opened
deriving DecidableEq

/-- A mark on a path. A deep mark holds below the path too. -/
structure Marking where
  path : List String
  mark : Mark
  deep : Bool

/-- Whether a path carries a mark. -/
def isMarked (marks : List Marking) (path : List String) (mark : Mark) : Bool :=
  marks.any fun m => m.mark = mark && (m.path = path || (m.deep && m.path.isPrefixOf path))

/-- Applies a change to the table at a path, creating the tables on the way. A path through an
array of tables continues in its last table. -/
def alter (change : List (String × Document) → Option (List (String × Document))) :
    List String → List (String × Document) → Option (List (String × Document))
  | [], entries => change entries
  | key :: path, entries =>
    match Assoc.get? key entries with
    | none => (alter change path []).map fun es => Assoc.set key (.table es) entries
    | some (.table es) =>
      (alter change path es).map fun es => Assoc.set key (.table es) entries
    | some (.list items) =>
      match items.getLast? with
      | some (.table es) =>
        (alter change path es).map fun es =>
          Assoc.set key (.list (items.dropLast ++ [.table es])) entries
      | _ => none
    | some _ => none

/-- Adds an entry with a new key to a table. -/
def addEntry (key : String) (value : Document) (entries : List (String × Document)) :
    Option (List (String × Document)) :=
  if (Assoc.get? key entries).isSome then none else some (entries ++ [(key, value)])

/-- Adds a table to the array at a key. -/
def addTable (key : String) (entries : List (String × Document)) :
    Option (List (String × Document)) :=
  match Assoc.get? key entries with
  | none => some (entries ++ [(key, .list [.table []])])
  | some (.list items) => some (Assoc.set key (.list (items ++ [.table []])) entries)
  | some _ => none

/-- Whether a value is an inline table or an array. -/
def isComposite : Document → Bool
  | .table _ | .list _ => true
  | _ => false

/-- The tables defined so far. -/
structure Build where
  entries : List (String × Document) := []
  marks : List Marking := []
  /-- Marks that take effect when the next table is opened. -/
  pending : List Marking := []
  /-- The table that is open. -/
  header : List String := []

namespace Build

/-- Opens a table. -/
def openTable (b : Build) (path : List String) : Option Build :=
  let marks := b.pending ++ b.marks
  if isMarked marks path .opened || isMarked marks path .frozen then none
  else
    (alter some path b.entries).map fun entries =>
      { entries, marks := ⟨path, .opened, false⟩ :: marks, header := path }

/-- Opens a new table of an array of tables. -/
def openArrayTable (b : Build) (path : List String) : Option Build :=
  let marks := b.pending ++ b.marks
  if isMarked marks path .frozen then none
  else
    match path.getLast? with
    | none => none
    | some key =>
      (alter (addTable key) path.dropLast b.entries).map fun entries =>
        { entries, header := path
          marks := ⟨path, .opened, false⟩ :: marks.filter fun m => !path.isPrefixOf m.path }

/-- Adds a value to the open table. The tables that a dotted key names on its way must not have
been opened, and cannot be opened later. -/
def define (b : Build) (key : List String) (value : Document) : Option Build :=
  let onTheWay := (List.range key.length).drop 1 |>.map fun i => b.header ++ key.take i
  match key.getLast? with
  | none => none
  | some last =>
    let parent := b.header ++ key.dropLast
    if onTheWay.any fun path => isMarked b.marks path .opened then none
    else if isMarked b.marks parent .frozen then none
    else
      (alter (addEntry last value) parent b.entries).map fun entries =>
        { b with
          entries
          pending := onTheWay.map (⟨·, .opened, false⟩) ++ b.pending
          marks :=
            if isComposite value then ⟨b.header ++ key, .frozen, true⟩ :: b.marks else b.marks }

end Build

/-- Adds an entry of an inline table, whose marks are those of its own composite values. -/
def defineInline (b : Build) (key : List String) (value : Document) : Option Build :=
  match key.getLast? with
  | none => none
  | some last =>
    if isMarked b.marks key .frozen then none
    else
      (alter (addEntry last value) key.dropLast b.entries).map fun entries =>
        { b with
          entries
          marks := if isComposite value then ⟨key, .frozen, true⟩ :: b.marks else b.marks }

/-! ## Values -/

mutual

/-- A value. Values nest up to a depth, to which an array adds two and an inline table three. -/
def value (fuel depth : Nat) (s : List Char) : Except ReadError (Document × List Char) :=
  match fuel, s with
  | 0, _ => .error .malformed
  | _, [] => .error .malformed
  | fuel + 1, c :: rest =>
    if c = '"' ∨ c = '\'' then
      ReadError.orMalformed ((text? s).map fun t => (.text t.1, t.2))
    else if c = '[' then if depth < 2 then .error .tooDeep else items fuel (depth - 2) rest []
    else if c = Char.ofNat 0x7B then
      match expect (Char.ofNat 0x7D) (skipBlanks rest) with
      | some rest => .ok (.table [], rest)
      | none =>
        if depth < 3 then .error .tooDeep else pairs fuel (depth - 3) (skipBlanks rest) {}
    else
      match after? "true" s, after? "false" s with
      | some rest, _ => .ok (.bool true, rest)
      | _, some rest => .ok (.bool false, rest)
      | _, _ => number s

/-- The items of an array up to its end, after those in `acc` (in reverse). -/
def items (fuel depth : Nat) (s : List Char) (acc : List Document) :
    Except ReadError (Document × List Char) :=
  match fuel, skipFiller (s.length + 1) s with
  | fuel + 1, some s =>
    match s with
    | ']' :: rest => .ok (.list acc.reverse, rest)
    | _ =>
      match value fuel depth s with
      | .error e => .error e
      | .ok (d, rest) =>
        match skipFiller (rest.length + 1) rest with
        | some (',' :: rest) => items fuel depth rest (d :: acc)
        | some (']' :: rest) => .ok (.list (d :: acc).reverse, rest)
        | _ => .error .malformed
  | _, _ => .error .malformed

/-- The entries of an inline table up to its end, after those defined in `b`. -/
def pairs (fuel depth : Nat) (s : List Char) (b : Build) :
    Except ReadError (Document × List Char) :=
  match fuel, key? (s.length + 1) s with
  | fuel + 1, some (key, '=' :: rest) =>
    match value fuel depth (skipBlanks rest) with
    | .error e => .error e
    | .ok (d, rest) =>
      match defineInline b key d, skipBlanks rest with
      | some b, c :: rest =>
        if c = Char.ofNat 0x7D then .ok (.table b.entries, rest)
        else if c = ',' then pairs fuel depth (skipBlanks rest) b
        else .error .malformed
      | _, _ => .error .malformed
  | _, _ => .error .malformed

end

/-! ## Documents -/

/-- The table header at the start of a text; the text starts after its bracket. -/
def header? (s : List Char) (b : Build) : Option (Build × List Char) :=
  match s with
  | '[' :: rest => do
    let (path, rest) ← key? (rest.length + 1) (skipBlanks rest)
    return (← b.openArrayTable path, ← after? "]]" rest)
  | _ => do
    let (path, rest) ← key? (s.length + 1) (skipBlanks s)
    return (← b.openTable path, ← after? "]" rest)

/-- The key at the start of a text, and what follows its equals sign. -/
def assignment? (s : List Char) : Option (List String × List Char) := do
  let (key, rest) ← key? (s.length + 1) s
  return (key, ← expect '=' rest)

/-- The entry at the start of a text. -/
def entry (s : List Char) (b : Build) : Except ReadError (Build × List Char) := do
  let (key, rest) ← ReadError.orMalformed (assignment? s)
  let (d, rest) ← value (rest.length + 1) maxNesting (skipBlanks rest)
  return (← ReadError.orMalformed (b.define key d), rest)

/-- A statement at the start of a text, which may be missing. -/
def statement (s : List Char) (b : Build) : Except ReadError (Build × List Char) :=
  match s with
  | [] => .ok (b, [])
  | c :: rest =>
    if c = '[' then ReadError.orMalformed (header? rest b)
    else if isBareKeyChar c || c = '"' || c = '\'' then entry s b
    else if c = '#' || c = '\n' then .ok (b, s)
    else .error .malformed

/-- The statements of a text, one a line. -/
def statements (fuel : Nat) (s : List Char) (b : Build) : Except ReadError Build :=
  match fuel with
  | 0 => .error .malformed
  | fuel + 1 =>
    match statement (skipBlanks s) b with
    | .error e => .error e
    | .ok (b, rest) =>
      match skipComment (skipBlanks rest) with
      | some [] => .ok b
      | some ('\n' :: rest) => statements fuel rest b
      | _ => .error .malformed

/-- Line ends of two characters as line ends of one. -/
def unifyLineEnds : List Char → List Char
  | '\r' :: '\n' :: rest => '\n' :: unifyLineEnds rest
  | c :: rest => c :: unifyLineEnds rest
  | [] => []

/-- The table that a text denotes in TOML notation. -/
def read (s : String) : Except ReadError Document :=
  let chars := unifyLineEnds s.toList
  (statements (chars.length + 1) chars {}).map fun b => .table b.entries

end Bindery.Toml
