import Bindery.Text.CharacterName
import Bindery.Text.CodePoint

/-!
# Literals of scripts

Literals as a script spells them: letters for their kind, quotes, and between those characters that
stand for themselves and escapes. A template is a literal with fields between braces. A field holds
an expression, whose value is shown in its place, and may tell how.

* `Escape.read?`: what an escape stands for.
* `Escape.named?`: the escape of a character by its name.
* `Escape.resolve?`: what characters with escapes stand for.
* `Piece`: a part of a template.
* `Field.split?`: the expression of a field and what follows it.
* `Template.read?`: the parts of a template.
* `Literal`: a kind and what the literal stands for.
* `Literal.read?`: the literal at the start of a text.
-/

namespace Bindery.Script.Escape

/-! ## Escapes -/

/-- The code points of the escapes that consist of one character. -/
def short : List (Char × Nat) := [
  ('\\', 92), ('\'', 39), ('"', 34), ('a', 7), ('b', 8), ('f', 12), ('n', 10), ('r', 13),
  ('t', 9), ('v', 11)]

/-- The character with a code point of `count` hexadecimal digits, and the rest. -/
def hex? (count : Nat) (s : List Char) : Option (List Char × List Char) :=
  if s.length < count then none
  else match Text.hexNumber? (s.take count) with
    | some n => if n < 0x110000 then some ((CodePoint.ofNumber n).spelling, s.drop count) else none
    | none => none

/-- The character with a name between braces, and the rest. -/
def named? : List Char → Option (List Char × List Char)
  | '\x7b' :: rest => do
    let name := rest.takeWhile (· ≠ '\x7d')
    if name.length = rest.length then none
    let n ← Text.numberOfName? name
    return ((CodePoint.ofNumber n).spelling, rest.drop (name.length + 1))
  | _ => none

/-- Whether a character is an octal digit. -/
def isOctal (c : Char) : Bool := '0' ≤ c && c ≤ '7'

/-- The number of some octal digits. -/
def octalNumber (s : List Char) : Nat := s.foldl (fun n d => n * 8 + (d.toNat - 48)) 0

/-- What an escape stands for, given what follows its backslash, and the rest. A backslash before a
character that is no escape stands for itself. Only texts know characters beyond a byte. -/
def read? (ofText : Bool) : List Char → Option (List Char × List Char)
  | [] => none
  | '\n' :: rest => some ([], rest)
  | 'x' :: rest => hex? 2 rest
  | c :: rest =>
    if ofText && c = 'u' then hex? 4 rest
    else if ofText && c = 'U' then hex? 8 rest
    else if ofText && c = 'N' then named? rest
    else if isOctal c then
      let digits := ((c :: rest).take 3).takeWhile isOctal
      some ([Char.ofNat (octalNumber digits)], (c :: rest).drop digits.length)
    else match short.find? fun e => e.1 = c with
      | some e => some ([Char.ofNat e.2], rest)
      | none => some (['\\', c], rest)

/-- What the characters between quotes stand for, none if there is an escape that is wrong. -/
def resolve? (ofText : Bool) (fuel : Nat) (s : List Char) : Option (List Char) :=
  match fuel, s with
  | _, [] => some []
  | 0, _ => none
  | fuel + 1, '\\' :: rest => do
    let (start, after) ← read? ofText rest
    return start ++ (← resolve? ofText fuel after)
  | fuel + 1, c :: rest => return c :: (← resolve? ofText fuel rest)

end Bindery.Script.Escape

namespace Bindery.Script

/-! ## Templates -/

/-- A part of a template. -/
inductive Piece where
  /-- Characters that stand for themselves, and escapes. -/
  | text (s : List Char)
  /-- An expression, the letter that tells how to convert its value, and the format of the text,
  which may hold fields itself. -/
  | field (expr : List Char) (conversion : Option Char) (format : List Piece)

namespace Field

/-- The pairs of brackets. -/
def brackets : List (Char × Char) := [('(', ')'), ('[', ']'), ('\x7b', '\x7d')]

/-- Whether a character opens a bracket. -/
def opens (c : Char) : Bool := brackets.any fun b => b.1 = c

/-- Whether a character closes a bracket. -/
def closes (c : Char) : Bool := brackets.any fun b => b.2 = c

/-- A text up to its closing quotes, with those, and what follows. There are no escapes. -/
def quoted? (quotes : List Char) : List Char → Option (List Char × List Char)
  | [] => none
  | c :: rest =>
    if c = '\\' then none
    else if quotes.isPrefixOf (c :: rest) then some (quotes, (c :: rest).drop quotes.length)
    else (quoted? quotes rest).map fun p => (c :: p.1, p.2)

/-- The expression at the start of a field, inside of some open brackets, and what follows it. It
ends where a conversion, a format or the end of the field follows outside of all brackets, but not
within the sign of a comparison. -/
def split? (fuel : Nat) (opened : List Char) (s : List Char) : Option (List Char × List Char) :=
  match fuel, s with
  | _, [] => none
  | 0, _ => none
  | fuel + 1, c :: rest =>
    let more := fun (start : List Char) (opened after : List Char) =>
      (split? fuel opened after).map fun p => (start ++ p.1, p.2)
    if c = '\\' || c = '#' then none
    else if c = '"' || c = '\'' then
      let quotes := if [c, c, c].isPrefixOf s then [c, c, c] else [c]
      match quoted? quotes (s.drop quotes.length) with
      | some (inner, after) => more (quotes ++ inner) opened after
      | none => none
    else if opens c then more [c] (c :: opened) rest
    else if opened.isEmpty && ['!', ':', '\x7d', '=', '<', '>'].contains c then
      if ['!', '=', '<', '>'].contains c && rest.head? = some '=' then
        more [c, '='] opened (rest.drop 1)
      else if c = '<' || c = '>' then more [c] opened rest
      else some ([], s)
    else if closes c then
      match opened with
      | o :: others => if brackets.contains (o, c) then more [c] others rest else none
      | [] => none
    else more [c] opened rest

/-- The letter that tells how to convert a value, if there is one, and the rest. -/
def conversion? : List Char → Option (Option Char × List Char)
  | '!' :: c :: rest => if ['s', 'r', 'a'].contains c then some (some c, rest) else none
  | '!' :: [] => none
  | rest => some (none, rest)

/-- The sign behind an expression that asks for its text as well, with the blanks around it, and the
rest. -/
def echo (s : List Char) : List Char × List Char :=
  match s with
  | '=' :: rest =>
    let blanks := rest.takeWhile fun c => [' ', '\t', '\n', '\x0b', '\x0c'].contains c
    ('=' :: blanks, rest.drop blanks.length)
  | s => ([], s)

/-- The parts that a field and the text of its expression are. A value whose expression is shown as
well is shown as the script would spell it, unless the field tells how. -/
def pieces (expr echo : List Char) (conversion : Option Char) (format : Option (List Piece)) :
    List Piece :=
  if echo.isEmpty then [.field expr conversion (format.getD [])]
  else
    let spelled := if conversion.isNone && format.isNone then some 'r' else conversion
    [.text ((expr ++ echo).flatMap fun c => if c = '\\' then ['\\', '\\'] else [c]),
      .field expr spelled (format.getD [])]

end Field

namespace Template

/-- How deep fields can be nested. -/
def maxLevel : Nat := 2

/-- Parts with some more characters in front of them. -/
def push (start : List Char) : List Piece → List Piece
  | .text s :: rest => .text (start ++ s) :: rest
  | rest => .text start :: rest

mutual

/-- The parts of the field whose brace has been read, and what follows it. -/
def field? (raw : Bool) (fuel level : Nat) (s : List Char) : Option (List Piece × List Char) :=
  match fuel with
  | 0 => none
  | fuel + 1 => do
    if maxLevel ≤ level then none
    let (expr, rest) ← Field.split? (s.length + 1) [] s
    let (echo, rest) := Field.echo rest
    let (conversion, rest) ← Field.conversion? rest
    match rest with
    | '\x7d' :: rest => return (Field.pieces expr echo conversion none, rest)
    | ':' :: rest =>
      match ← pieces? raw fuel (level + 1) rest with
      | (format, '\x7d' :: rest) => return (Field.pieces expr echo conversion (some format), rest)
      | _ => none
    | _ => none

/-- The parts of a text, and what follows them. Two braces in a row stand for one outside of fields.
A format ends with the brace of its field. A backslash before a brace stands for itself. -/
def pieces? (raw : Bool) (fuel level : Nat) (s : List Char) : Option (List Piece × List Char) :=
  match fuel, s with
  | 0, _ => none
  | _, [] => some ([], [])
  | fuel + 1, '\x7b' :: rest =>
    if level = 0 && rest.head? = some '\x7b' then do
      let (more, rest) ← pieces? raw fuel level (rest.drop 1)
      return (push ['\x7b'] more, rest)
    else do
      let (ps, rest) ← field? raw fuel level rest
      let (more, rest) ← pieces? raw fuel level rest
      return (ps ++ more, rest)
  | fuel + 1, '\x7d' :: rest =>
    if level ≠ 0 then some ([], s)
    else if rest.head? = some '\x7d' then do
      let (more, rest) ← pieces? raw fuel level (rest.drop 1)
      return (push ['\x7d'] more, rest)
    else none
  | fuel + 1, c :: rest =>
    let start :=
      if raw || c ≠ '\\' then [c]
      else match rest with
        | 'N' :: '\x7b' :: _ => c :: (rest.takeWhile (· ≠ '\x7d')) ++ ['\x7d']
        | '\x7b' :: _ | '\x7d' :: _ => [c]
        | d :: _ => [c, d]
        | [] => [c]
    do
      let (more, rest) ← pieces? raw fuel level (s.drop start.length)
      return (push (if start = ['\\'] && !raw then ['\\', '\\'] else start) more, rest)

end

mutual

/-- A part with what its escapes stand for. -/
def resolve? (raw : Bool) : Piece → Option Piece
  | .text s => (if raw then some s else Escape.resolve? true (s.length + 1) s).map .text
  | .field expr conversion format => (resolveAll? raw format).map (.field expr conversion)

/-- Parts with what their escapes stand for. -/
def resolveAll? (raw : Bool) : List Piece → Option (List Piece)
  | [] => some []
  | p :: rest => do return (← resolve? raw p) :: (← resolveAll? raw rest)

end

/-- The parts of a template. -/
def read? (raw : Bool) (s : List Char) : Option (List Piece) := do
  let (ps, _) ← pieces? raw (2 * s.length + 2) 0 s
  resolveAll? raw ps

end Template

/-! ## Literals -/

/-- What kind of value a literal stands for. -/
inductive LiteralKind where
  | text
  | bytes
  /-- A text with fields. -/
  | template
deriving DecidableEq, Repr

/-- A literal. -/
structure Literal where
  kind : LiteralKind
  /-- The parts of a template. A literal that is none has one part, which is a text. -/
  parts : List Piece

namespace Literal

/-- The kind of literal that letters in front of it ask for, and whether its backslashes stand for
themselves. -/
def style? (letters : List Char) : Option (LiteralKind × Bool) :=
  match (letters.map Char.toLower) with
  | [] | ['u'] => some (.text, false)
  | ['r'] => some (.text, true)
  | ['b'] => some (.bytes, false)
  | ['b', 'r'] | ['r', 'b'] => some (.bytes, true)
  | ['f'] => some (.template, false)
  | ['f', 'r'] | ['r', 'f'] => some (.template, true)
  | _ => none

/-- The characters up to closing quotes, and what follows those. A single quote closes a literal on
the same line. -/
def splitBody? (quotes : List Char) : List Char → Option (List Char × List Char)
  | [] => none
  | '\\' :: c :: rest => (splitBody? quotes rest).map fun p => ('\\' :: c :: p.1, p.2)
  | c :: rest =>
    if quotes.isPrefixOf (c :: rest) then some ([], (c :: rest).drop quotes.length)
    else if c = '\n' && quotes.length = 1 then none
    else (splitBody? quotes rest).map fun p => (c :: p.1, p.2)

/-- The literal with the given characters between its quotes. -/
def ofBody? (kind : LiteralKind) (raw : Bool) (body : List Char) : Option Literal := do
  let resolve := fun ofText =>
    if raw then some body else Escape.resolve? ofText (body.length + 1) body
  match kind with
  | .text => return ⟨kind, [.text (← resolve true)]⟩
  | .bytes =>
    if body.all fun c => c.toNat < 128 then return ⟨kind, [.text (← resolve false)]⟩ else none
  | .template => return ⟨kind, ← Template.read? raw body⟩

/-- The characters that a literal stands for that is no template. -/
def value (l : Literal) : List Char :=
  l.parts.flatMap fun p => match p with
    | .text s => s
    | .field _ _ _ => []

/-- The literal at the start of a text, which letters may stand before, and the rest. -/
def read? (letters : List Char) (s : List Char) : Option (Literal × List Char) := do
  let (kind, raw) ← style? letters
  let q ← s.head?
  let quotes := if [q, q, q].isPrefixOf s then [q, q, q] else [q]
  let (body, rest) ← splitBody? quotes (s.drop quotes.length)
  return (← ofBody? kind raw body, rest)

end Literal
end Bindery.Script
