import Bindery.Document.Basic
import Bindery.Text.Numeral

/-!
# Conversions of documents

* `Document.toInt`, `Document.toDouble?`: the number that a value stands for.
* `Document.members?`: the members of a collection.
* `Document.spoken`: a value as plain text.
* `Document.depth`: how deep a value nests.
-/

namespace Bindery

namespace Document

/-- What can go wrong in a conversion. -/
inductive ConversionFault where
  | unsuitable
  | infinite

/-- The members of a list, the characters of a text or the keys of a table. -/
def members? : Document → Option (List Document)
  | list items => some items
  | text s => some ((Text.singles s).map text)
  | table entries => some (entries.map fun e => text e.1)
  | _ => none

/-- The integer that a number, a boolean or a numeral stands for; fractions are cut off. -/
def toInt : Document → Except ConversionFault Int
  | int n => .ok n
  | bool b => .ok (if b then 1 else 0)
  | float d =>
    if d.isNaN then .error .unsuitable
    else if d.isInfinite then .error .infinite
    else .ok d.truncate
  | text s => match Text.readInt? s with
    | some n => .ok n
    | none => .error .unsuitable
  | _ => .error .unsuitable

/-- The double that a number, a boolean or a decimal text stands for. -/
def toDouble? : Document → Option Number.Double
  | int n => some (.ofInt n)
  | bool b => some (.ofInt (if b then 1 else 0))
  | float d => some d
  | text s => Text.readDecimal? s
  | _ => none

/-- A text as it is, any other value by its display. -/
def spoken : Document → String
  | text s => s
  | d => d.display

end Document

mutual

/-- Nesting depth of a document. -/
def Document.depth : Document → Nat
  | .list items => Document.depthOfItems items + 1
  | .table entries => Document.depthOfEntries entries + 1
  | _ => 1

/-- The greatest depth of list items. -/
def Document.depthOfItems : List Document → Nat
  | [] => 0
  | d :: rest => max (Document.depth d) (Document.depthOfItems rest)

/-- The greatest depth of table entries. -/
def Document.depthOfEntries : List (String × Document) → Nat
  | [] => 0
  | e :: rest => max (Document.depth e.2) (Document.depthOfEntries rest)

end

end Bindery
