import Bindery.Document.Basic
import Bindery.Text.Hex
import Bindery.Value.Display
import Bindery.Value.Equality

/-!
# Values as documents

* `Value.toDocument`: a value that a data file could hold, as a document.
* `Value.ofDocument`: a document as a value.
* `Value.entry`: the entry of a table, `Value.item` the member of a collection at an index.
* `Value.hexBytes`: the bytes that the digits of a text denote.
-/

namespace Bindery.Value

mutual

/-- The document of a value. Values that a data file cannot hold are shown as texts, empty ones if
nothing shows them. -/
def toDocument : Value → Document
  | null => .null
  | bool b => .bool b
  | int n => .int n
  | float d => .float d
  | text s => .text s
  | list items => .list (toDocuments items)
  | table entries => .table (toEntries entries)
  | v => .text (v.display.toOption.getD "")

/-- The documents of list items. -/
def toDocuments : List Value → List Document
  | [] => []
  | v :: rest => toDocument v :: toDocuments rest

/-- The documents of table entries, under the texts of their keys. -/
def toEntries : List (Value × Value) → List (String × Document)
  | [] => []
  | (k, v) :: rest => (k.spoken.toOption.getD "", toDocument v) :: toEntries rest

end

mutual

/-- The value of a document, where a moment is a text. -/
def ofDocument : Document → Value
  | .null => null
  | .bool b => bool b
  | .int n => int n
  | .float d => float d
  | .text s | .moment s => text s
  | .list items => list (ofDocuments items)
  | .table entries => table (ofEntries entries)

/-- The values of list items. -/
def ofDocuments : List Document → List Value
  | [] => []
  | d :: rest => ofDocument d :: ofDocuments rest

/-- The values of table entries. -/
def ofEntries : List (String × Document) → List (Value × Value)
  | [] => []
  | (key, d) :: rest => (text key, ofDocument d) :: ofEntries rest

end

/-- The entry of a table at a text; other values have no entries. -/
def entry (v : Value) (key : String) : Except Fault (Option Value) :=
  match v with
  | table entries => .ok (Assoc.get? (text key) entries)
  | _ => .error .wrongType

/-- The member of a list, text or byte string at an index, or the entry of a table under it. -/
def item (v : Value) (index : Nat) : Except Fault Value :=
  match v with
  | table entries =>
    match Assoc.get? (int index) entries with
    | some found => .ok found
    | none => .error .noSuchKey
  | _ => do
    match (← v.items)[index]? with
    | some found => return found
    | none => throw .noSuchIndex

/-- The bytes that a text denotes by two digits for each. -/
def hexBytes (v : Value) : Except Fault Bytes :=
  match v with
  | text s =>
    match Bytes.ofHex? s with
    | some data => .ok data
    | none => .error .malformed
  | _ => .error .wrongType

end Bindery.Value
