import Bindery.Fault
import Bindery.Script.Literal
import Bindery.Script.Numeral

/-!
# Lexical items

The lines of a script are indented, counted in two ways, which have to agree on what is deeper:
tabs and spaces may be mixed only as far as it does not matter how wide a tab is. What follows the
indentation of a line is made of items.

* `Indent`: an indentation.
* `Indent.read?`: the indentation at the start of a line, and what follows it.
* `Indent.fault`: why a line cannot follow another one.
* `Script.Item`: a lexical item of a script.
* `Script.itemsOf`: the items of a text.
-/

namespace Bindery.Script

/-! ## Indentation -/

/-- Whether a character is a blank within a line. -/
def isBlank (c : Char) : Bool := c = ' ' || c = '\t' || c = '\x0c'

/-- How far a line is indented. -/
structure Indent where
  /-- The width if a tab goes on to the next multiple of eight. -/
  width : Nat := 0
  /-- The width if a tab is as wide as a space. -/
  narrow : Nat := 0
deriving DecidableEq, Repr

namespace Indent

/-- The indentation with one more blank. A form feed starts anew. -/
def next (i : Indent) (c : Char) : Indent :=
  if c = '\x0c' then {}
  else ⟨if c = '\t' then (i.width / 8 + 1) * 8 else i.width + 1, i.narrow + 1⟩

/-- The indentation that blanks make. -/
def ofBlanks (s : List Char) : Indent := s.foldl next {}

/-- The indentation by spaces. -/
def spaces (n : Nat) : Indent := ⟨n, n⟩

/-- The indentation that the characters at the start of a line make, and the rest. A backslash at
the end of the line goes on in the next one, but the indentation that stands before the first such
backslash counts. There is none if something else follows the backslash. -/
def readFrom? (settled : Nat) (i : Indent) : List Char → Option (Indent × List Char)
  | '\\' :: '\n' :: rest => readFrom? (if settled = 0 then i.width else settled) i rest
  | '\\' :: _ => none
  | c :: rest =>
    if isBlank c then readFrom? settled (i.next c) rest
    else some (if settled = 0 then i else spaces settled, c :: rest)
  | [] => some (i, [])

/-- The indentation at the start of a line, and the rest. -/
def read? (s : List Char) : Option (Indent × List Char) := readFrom? 0 {} s

/-- Why a line cannot follow one that is indented differently, in a block or after it. -/
def fault (block line : Indent) : Fault :=
  if line.width = block.width || (block.width < line.width && line.narrow ≤ block.narrow) then
    .badTabs
  else .badIndent

end Indent

/-! ## Items -/

/-- A lexical item of a script. -/
inductive Item where
  | literal (l : Literal)
  | number (n : Numeral)
  | name (s : String)
  | sign (s : String)
  /-- The start of a line with something on it. -/
  | line (indent : Indent)
  /-- What is no item; it ends the items of a text. -/
  | bad

/-- The signs, longer ones first. -/
def signs : List String := [
  "**=", "//=", "<<=", ">>=", "...", "**", "//", "<<", ">>", "<=", ">=", "==", "!=", "->", ":=",
  "+=", "-=", "*=", "/=", "%=", "@=", "&=", "|=", "^=", "+", "-", "*", "/", "%", "@", "&", "|",
  "^", "~", "<", ">", "(", ")", "[", "]", "\x7b", "\x7d", ",", ":", ";", ".", "="]

/-- Whether a text starts with a point and a digit. -/
def startsFraction (s : List Char) : Bool :=
  s.head? = some '.' && (s.drop 1).head?.any Char.isDigit

/-- The item at the start of a text that starts with no blank, and the rest. -/
def item (s : List Char) : Item × List Char :=
  let word := s.takeWhile Text.continuesIdentifier
  let after := s.drop word.length
  if (Literal.style? word).isSome && after.head?.any fun c => c = '"' || c = '\'' then
    match Literal.read? word after with
    | some (l, rest) => (.literal l, rest)
    | none => (.bad, [])
  else if word.head?.any Char.isDigit || startsFraction s then
    match Numeral.read? s with
    | some (n, rest) => (.number n, rest)
    | none => (.bad, [])
  else if word.isEmpty then
    match signs.find? fun sign => sign.toList.isPrefixOf s with
    | some sign => (.sign sign, s.drop sign.length)
    | none => (.bad, [])
  else if Text.isIdentifier (String.ofList word) then (.name (String.ofList word), after)
  else (.bad, [])

/-- How many brackets can be open at once. -/
def maxBrackets : Nat := 200

/-- The brackets that are open after a sign, the last one first, none if the sign closes one that
is not open. -/
def bracketsAfter? (opened : List Char) (i : Item) : Option (List Char) :=
  match i with
  | .sign s =>
    match s.toList with
    | [c] =>
      if Field.opens c then
        if opened.length < maxBrackets then some (c :: opened) else none
      else if Field.closes c then
        match opened with
        | o :: others => if Field.brackets.contains (o, c) then some others else none
        | [] => none
      else some opened
    | _ => some opened
  | _ => some opened

/-- The items of a text inside of some open brackets. Lines with nothing but a comment do not count,
nor do lines count inside of brackets, and a backslash joins two lines. -/
def items (fuel : Nat) (opened : List Char) (s : List Char) : List Item :=
  match fuel, s with
  | _, [] => []
  | 0, _ => [.bad]
  | fuel + 1, '\\' :: '\n' :: rest => items fuel opened rest
  | fuel + 1, '#' :: rest => items fuel opened (rest.dropWhile (· ≠ '\n'))
  | fuel + 1, '\n' :: rest =>
    if !opened.isEmpty then items fuel opened rest
    else match Indent.read? rest with
      | none => [.bad]
      | some (indent, after) =>
        if after.head?.all fun c => c = '\n' || c = '#' then items fuel opened after
        else .line indent :: items fuel opened after
  | fuel + 1, c :: rest =>
    if isBlank c then items fuel opened rest
    else
      let (i, after) := item (c :: rest)
      match bracketsAfter? opened i with
      | some opened => i :: items fuel opened after
      | none => [.bad]

/-- A text with all its line ends spelled the same way. -/
def unifyLineEnds : List Char → List Char
  | '\r' :: '\n' :: rest => '\n' :: unifyLineEnds rest
  | '\r' :: rest => '\n' :: unifyLineEnds rest
  | c :: rest => c :: unifyLineEnds rest
  | [] => []

/-- The items of a script. -/
def itemsOf (s : String) : List Item := items (s.length + 1) [] (unifyLineEnds s.toList)

end Bindery.Script
