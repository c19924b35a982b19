import Bindery.Fault
import Bindery.Member
import Bindery.Text.CodePoint
import Bindery.Text.Numeral

/-!
# Templates

Texts with places in braces for an argument. `{}` stands for the next argument, `{0}` for the
argument of that number, and a doubled brace for a single one. A place can go on to a part of its
argument, convert it, and give it a layout, as in `{0[2]!r:>8}`.

* `Template.pieces`: the characters and places of a template.
* `Template.literal`: the text of a template without places.
* `Template.fault?`: why a template cannot be filled with a single text.
-/

namespace Bindery.Template

/-- A place of a template. -/
structure Place where
  name : List Char
  conversion : Option Char := none
  layout : List Char := []
deriving DecidableEq, Repr

/-- A part of a template. -/
inductive Piece where
  | char (c : Char)
  | place (p : Place)
  /-- Braces that do not match; nothing after them is read. -/
  | broken
deriving DecidableEq, Repr

/-! ## Reading -/

/-- Reads the name of a place up to the character that ends it. Between brackets every other
character is part of the name. -/
def readName (inBrackets : Bool) : List Char → Option (List Char × Char × List Char)
  | [] => none
  | c :: rest =>
    if !inBrackets && (c = '\x7d' || c = ':' || c = '!') then some ([], c, rest)
    else if !inBrackets && c = '\x7b' then none
    else
      (readName (if inBrackets then c ≠ ']' else c = '[') rest).map fun r => (c :: r.1, r.2)

/-- Reads a layout up to the brace that closes its place. -/
def readLayout (depth : Nat) : List Char → Option (List Char × List Char)
  | [] => none
  | c :: rest =>
    if c = '\x7d' && depth = 0 then some ([], rest)
    else
      let depth := if c = '\x7b' then depth + 1 else if c = '\x7d' then depth - 1 else depth
      (readLayout depth rest).map fun r => (c :: r.1, r.2)

/-- Reads a place after its opening brace. -/
def readPlace (cs : List Char) : Option (Place × List Char) := do
  let (name, stop, rest) ← readName false cs
  if stop = '\x7d' then return ({ name }, rest)
  if stop = ':' then
    let (layout, rest) ← readLayout 0 rest
    return ({ name, layout }, rest)
  match rest with
  | c :: '\x7d' :: rest => return ({ name, conversion := some c }, rest)
  | c :: ':' :: rest =>
    let (layout, rest) ← readLayout 0 rest
    return ({ name, conversion := some c, layout }, rest)
  | _ => none

/-- The pieces of a template, at most as many as `fuel`. -/
def readPieces (fuel : Nat) (cs : List Char) : List Piece :=
  match fuel, cs with
  | 0, _ | _, [] => []
  | fuel + 1, c :: rest =>
    if c ≠ '\x7b' && c ≠ '\x7d' then .char c :: readPieces fuel rest
    else if rest.head? = some c then .char c :: readPieces fuel rest.tail
    else if c = '\x7d' then [.broken]
    else
      match readPlace rest with
      | some (place, rest) => .place place :: readPieces fuel rest
      | none => [.broken]

/-- The pieces of a template. -/
def pieces (template : String) : List Piece := readPieces template.length template.toList

/-- The characters of a piece that is no place. -/
def Piece.char? : Piece → Option Char
  | .char c => some c
  | _ => none

/-- The text of a template, without its places. -/
def literal (template : String) : String := String.ofList ((pieces template).filterMap Piece.char?)

/-! ## Filling -/

/-- How the places before a point of a template choose their arguments: by their order or by
numbers. A template cannot mix the two. -/
inductive Numbering where
  | undecided
  | counted (next : Nat)
  | explicit
deriving DecidableEq, Repr

/-- The number that decimal digits spell, none if there are none or other characters. -/
def number? (cs : List Char) : Option Nat :=
  if cs.isEmpty then none
  else cs.foldl (fun n c => do return 10 * (← n) + (← Text.decimalValue? c)) (some 0)

/-- Numbers are below this bound. -/
def maxNumber : Nat := Nat.pow 2 63

/-- The number of the argument that a place names, and how the places after it may choose. -/
def argument (numbering : Numbering) (name : List Char) : Except Fault (Nat × Numbering) :=
  match number? name, numbering with
  | some n, .undecided | some n, .explicit =>
    if n < maxNumber then .ok (n, .explicit) else .error .malformed
  | some _, .counted _ => .error .malformed
  | none, .undecided =>
    if name.isEmpty then .ok (0, .counted 1) else .error .noSuchKey
  | none, .counted n => if name.isEmpty then .ok (n, .counted (n + 1)) else .error .noSuchKey
  | none, .explicit => .error (if name.isEmpty then .malformed else .noSuchKey)

/-- The members of a text besides the common ones. -/
def textMembers : List String := [
  "__add__", "__contains__", "__getitem__", "__getnewargs__", "__iter__", "__len__", "__mod__",
  "__mul__", "__rmod__", "__rmul__", "capitalize", "casefold", "center", "count", "encode",
  "endswith", "expandtabs", "find", "format", "format_map", "index", "isalnum", "isalpha",
  "isascii", "isdecimal", "isdigit", "isidentifier", "islower", "isnumeric", "isprintable",
  "isspace", "istitle", "isupper", "join", "ljust", "lower", "lstrip", "maketrans", "partition",
  "removeprefix", "removesuffix", "replace", "rfind", "rindex", "rjust", "rpartition", "rsplit",
  "rstrip", "split", "splitlines", "startswith", "strip", "swapcase", "title", "translate",
  "upper", "zfill"]

/-- The members of what is a member itself, besides the common ones. -/
def innerMembers : List String := ["__call__", "__name__", "__qualname__", "__text_signature__"]

/-- What a place has reached: a text of some length, or a member of something. -/
inductive Target where
  | text (length : Nat)
  | member
deriving DecidableEq, Repr

/-- The member of a target with a name. -/
def Target.select (target : Target) (name : List Char) : Except Fault Target :=
  let members := match target with
    | text _ => textMembers
    | member => innerMembers
  if name.isEmpty then .error .malformed
  else if (commonMembers ++ members).contains (String.ofList name) then .ok member
  else .error .noSuchMember

/-- The item of a target at a key. -/
def Target.item (target : Target) (key : List Char) : Except Fault Target :=
  match target, number? key with
  | _, some n =>
    if maxNumber ≤ n then .error .malformed
    else match target with
      | text length => if n < length then .ok (text 1) else .error .noSuchIndex
      | member => .error .wrongType
  | _, none => .error .wrongType

/-- Follows the parts of a target. -/
def follow (target : Target) (path : List Char) : Nat → Except Fault Target
  | 0 => .ok target
  | fuel + 1 =>
    match path with
    | [] => .ok target
    | '[' :: rest => do
      let key := rest.takeWhile (· ≠ ']')
      if key.isEmpty || key.length = rest.length then throw .malformed
      follow (← target.item key) (rest.drop (key.length + 1)) fuel
    | '.' :: rest => do
      let name := rest.takeWhile fun c => c ≠ '.' && c ≠ '['
      follow (← target.select name) (rest.drop name.length) fuel
    | _ => .error .malformed

/-- A number at the start of a layout, and the rest; none if it is too large. -/
def layoutNumber? (layout : List Char) : Option (List Char) :=
  let digits := layout.takeWhile Char.isDigit
  if (number? digits).getD 0 < maxNumber then some (layout.drop digits.length) else none

/-- Whether a text can have a layout: fill and alignment, width, precision and type. -/
def isTextLayout (layout : List Char) : Bool :=
  let points := CodePoint.read layout
  let aligns := fun p => [some '<', some '>', some '^'].contains (Option.bind p CodePoint.char?)
  let fill := if aligns points[1]? then 2 else if aligns points[0]? then 1 else 0
  let afterWidth := layoutNumber? ((points.drop fill).flatMap CodePoint.spelling)
  let afterPrecision := match afterWidth with
    | some ('.' :: d :: rest) => if d.isDigit then layoutNumber? (d :: rest) else none
    | rest => rest
  afterPrecision = some [] || afterPrecision = some ['s']

/-- Gives a layout to what a place has reached, as it is or converted to a text. -/
def Target.present (target : Target) (conversion : Option Char) (layout : List Char) :
    Except Fault Unit :=
  match target, conversion with
  | member, none => if layout.isEmpty then .ok () else .error .wrongType
  | _, _ => if isTextLayout layout then .ok () else .error .malformed

mutual

/-- Fills a place with the only argument, a text of the given length. The places in a layout are
filled first, and the argument itself makes no layout. -/
def fillPlace (length : Nat) (depth : Nat) (numbering : Numbering) (place : Place) :
    Except Fault Numbering := do
  let first := place.name.takeWhile fun c => c ≠ '.' && c ≠ '['
  let (n, numbering) ← argument numbering first
  if n ≠ 0 then throw .noSuchIndex
  let target ← follow (.text length) (place.name.drop first.length) place.name.length
  if !place.conversion.all ['r', 's', 'a'].contains then throw .malformed
  if !place.layout.contains '\x7b' then
    target.present place.conversion place.layout
    return numbering
  match depth with
  | 0 => throw .malformed
  | depth + 1 =>
    let layout := pieces (String.ofList place.layout)
    let numbering ← fill length depth numbering layout
    if !layout.all fun p => p.char?.isSome then throw .malformed
    target.present place.conversion (layout.filterMap Piece.char?)
    return numbering

/-- Fills the places of pieces. -/
def fill (length : Nat) (depth : Nat) (numbering : Numbering) :
    List Piece → Except Fault Numbering
  | [] => .ok numbering
  | .char _ :: rest => fill length depth numbering rest
  | .place p :: rest => do fill length depth (← fillPlace length depth numbering p) rest
  | .broken :: _ => .error .malformed

end

/-- Why a template cannot be filled with a text of the given length. -/
def fault? (template : String) (length : Nat) : Option Fault :=
  match fill length 1 .undecided (pieces template) with
  | .ok _ => none
  | .error f => some f

end Bindery.Template
