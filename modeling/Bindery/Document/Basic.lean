import Bindery.Association
import Bindery.Number.Shortest
import Bindery.Text.Quoted

/-!
# Documents

The value of a data file: what the exporter and the author of a configuration can write down. Two
documents are equal if they are the same value, written the same way: numbers of different types and
tables with their entries in another order are different documents.

* `Document`: null, booleans, integers, doubles, texts, moments, lists and tables.
* `Document.get?`: the entry of a table.
* `Document.isEmpty`: the values that count as absent.
* `Document.display`: the text by which messages show a value.
* `ReadError`: why a text denotes no document.
* `Document.same`, `same_iff`: the test that decides equality, hence the `DecidableEq` instance.
-/

namespace Bindery

/-- The value of a data file. -/
inductive Document where
  | null
  | bool (b : Bool)
  | int (n : Int)
  | float (d : Number.Double)
  | text (s : String)
  /-- A date or a time; only its presence matters. -/
  | moment (s : String)
  | list (items : List Document)
  /-- Entries in the order of their first appearance, with distinct keys. -/
  | table (entries : List (String × Document))
deriving Inhabited

/-- Why a text denotes no document in a notation. -/
inductive ReadError where
  | malformed
  /-- An integer with more digits than are read. -/
  | overlong
  /-- Values nested too deeply. -/
  | tooDeep
deriving DecidableEq, Repr

/-- How deeply readers may nest. -/
def maxNesting : Nat := 985

/-- What a reader found; nothing found is malformed. -/
def ReadError.orMalformed {α : Type} : Option α → Except ReadError α
  | some a => .ok a
  | none => .error .malformed

namespace Document

/-- The entry of a table; other values have none. -/
def get? (d : Document) (key : String) : Option Document :=
  match d with
  | table entries => Assoc.get? key entries
  | _ => none

/-- The entry of a table, null when there is none. -/
def getD (d : Document) (key : String) : Document := (d.get? key).getD .null

/-- The values that count as absent: null, false, zero, and empty texts, lists and tables. -/
def isEmpty : Document → Bool
  | null => true
  | bool b => !b
  | int n => n == 0
  | float d => d.isZero
  | text s => s.isEmpty
  | moment _ => false
  | list items => items.isEmpty
  | table entries => entries.isEmpty

/-- The text of a document that is one. -/
def text? : Document → Option String
  | text s => some s
  | _ => none

mutual

/-- The text by which messages show a value. -/
def display : Document → String
  | null => "None"
  | bool b => if b then "True" else "False"
  | int n => toString n
  | float d => d.text
  | text s => Text.quote s
  | moment s => s
  | list items => "[" ++ ", ".intercalate (displayItems items) ++ "]"
  | table entries => "\x7b" ++ ", ".intercalate (displayEntries entries) ++ "\x7d"

/-- The texts of list items. -/
def displayItems : List Document → List String
  | [] => []
  | d :: rest => display d :: displayItems rest

/-- The texts of table entries. -/
def displayEntries : List (String × Document) → List String
  | [] => []
  | (key, d) :: rest => (Text.quote key ++ ": " ++ display d) :: displayEntries rest

end

end Document

/-! ## Equality -/

namespace Document

mutual

/-- Whether two documents are the same. -/
def same : Document → Document → Bool
  | null, null => true
  | bool a, bool b => a == b
  | int a, int b => a == b
  | float a, float b => a == b
  | text a, text b => a == b
  | moment a, moment b => a == b
  | list a, list b => sameItems a b
  | table a, table b => sameEntries a b
  | _, _ => false

/-- Whether two lists hold the same documents. -/
def sameItems : List Document → List Document → Bool
  | [], [] => true
  | a :: as, b :: bs => same a b && sameItems as bs
  | _, _ => false

/-- Whether two tables hold the same entries. -/
def sameEntries : List (String × Document) → List (String × Document) → Bool
  | [], [] => true
  | a :: as, b :: bs => a.1 == b.1 && same a.2 b.2 && sameEntries as bs
  | _, _ => false

end

mutual

theorem same_iff : ∀ a b : Document, same a b = true ↔ a = b
  | null, b => by cases b <;> simp [same]
  | bool a, b => by cases b <;> simp [same]
  | int a, b => by cases b <;> simp [same]
  | float a, b => by cases b <;> simp [same]
  | text a, b => by cases b <;> simp [same]
  | moment a, b => by cases b <;> simp [same]
  | list a, b => by
    cases b with
    | list b => simp [same, sameItems_iff a b]
    | _ => simp [same]
  | table a, b => by
    cases b with
    | table b => simp [same, sameEntries_iff a b]
    | _ => simp [same]

theorem sameItems_iff : ∀ a b : List Document, sameItems a b = true ↔ a = b
  | [], b => by cases b <;> simp [sameItems]
  | a :: as, [] => by simp [sameItems]
  | a :: as, b :: bs => by simp [sameItems, same_iff a b, sameItems_iff as bs]

theorem sameEntries_iff : ∀ a b : List (String × Document), sameEntries a b = true ↔ a = b
  | [], b => by cases b <;> simp [sameEntries]
  | a :: as, [] => by simp [sameEntries]
  | (k, a) :: as, (l, b) :: bs => by
    simp [sameEntries, same_iff a b, sameEntries_iff as bs, and_assoc]

end

instance : DecidableEq Document := fun a b => decidable_of_iff _ (same_iff a b)

end Document
end Bindery
