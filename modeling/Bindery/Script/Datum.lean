import Bindery.Member
import Bindery.Script.Term
import Bindery.Value.Equality

/-!
# Data of scripts

What the terms of a script stand for. Only what a script can do by literals and operators is
followed to its value; of all else there is known at most what kind of value it is.

* `Datum`: what a term stands for.
* `Datum.kindName`: the name of its kind.
* `Datum.same?`, `Datum.isTrue?`: equality and truth, as far as they are known.
* `Datum.length?`, `Datum.parts`: the items of a collection.
-/

namespace Bindery.Script

/-- What a term stands for. -/
inductive Datum where
  /-- Null, a truth value, a number, a text or a byte string. -/
  | plain (v : Value)
  /-- Some value of a kind. -/
  | ofKind (kind : String)
  | sequence (kind : SequenceKind) (items : List Datum)
  | table (entries : List (Datum × Datum))
  | kind (name : String)
  | function (name : String)
  /-- A function that belongs to a value of a kind. -/
  | method (kind name : String)
  /-- A function that a script defines. -/
  | lambda
  | module (name : String)
  | unknown
deriving Inhabited

namespace Datum

/-- Null. -/
def null : Datum := plain .null

/-- A truth value. -/
def bool (b : Bool) : Datum := plain (.bool b)

/-- An integer. -/
def int (n : Int) : Datum := plain (.int n)

/-- A text. -/
def text (s : String) : Datum := plain (.text s)

/-- The kind of a plain value. -/
def kindOfValue : Value → String
  | .null => "NoneType"
  | .bool _ => "bool"
  | .int _ => "int"
  | .float _ => "float"
  | .text _ => "str"
  | .bytes _ => "bytes"
  | _ => "object"

/-- The name of a collection's kind. -/
def nameOfSequence : SequenceKind → String
  | .tuple => "tuple"
  | .list => "list"
  | .set => "set"

/-- The name of a datum's kind. -/
def kindName : Datum → String
  | plain v => kindOfValue v
  | ofKind k => k
  | sequence k _ => nameOfSequence k
  | table _ => "dict"
  | kind _ => "type"
  | function _ | method _ _ => "builtin_function_or_method"
  | lambda => "function"
  | module _ => "module"
  | unknown => "object"

/-- Whether nothing is known of a datum. -/
def isUnknown : Datum → Bool
  | unknown => true
  | _ => false

/-- The kinds of numbers, where each one takes part in operations with those before it. -/
def numberKinds : List (List String) := [["bool", "int"], ["float"], ["complex"]]

/-- The place of a datum's kind among those of numbers. -/
def rank? (d : Datum) : Option Nat := numberKinds.findIdx? fun names => names.contains d.kindName

/-- Whether a datum is an integer or a truth value. -/
def isWhole (d : Datum) : Bool := d.rank? = some 0

/-- The integer that a datum is. -/
def int? : Datum → Option Int
  | plain v => v.index?
  | _ => none

/-- The text that a datum is. -/
def text? : Datum → Option String
  | plain (.text s) => some s
  | _ => none

/-- The kinds of values that may have items. -/
def collections : List String :=
  ["str", "bytes", "list", "tuple", "set", "dict", "range", "enumerate", "filter", "map",
    "reversed", "zip", "object"]

/-- The items of a collection, as far as they are known. Nothing else has items. -/
def parts : Datum → Except Fault (Option (List Datum))
  | plain v => do return some ((← v.items).map plain)
  | sequence _ items => .ok (some items)
  | table entries => .ok (some (entries.map (·.1)))
  | unknown => .ok none
  | ofKind k =>
    if collections.contains k then .ok none else .error .wrongType
  | _ => .error .wrongType

/-- The number of items of a datum that has some. -/
def length? : Datum → Option Nat
  | plain v => v.length?
  | sequence _ items => some items.length
  | table entries => some entries.length
  | _ => none

/-- The kinds of values of which some count as false. -/
def mayBeFalse : List String := [
  "bool", "str", "bytes", "int", "float", "complex", "list", "tuple", "set", "dict", "range",
  "object"]

/-- Whether a datum counts as true. -/
def isTrue? : Datum → Option Bool
  | plain v => some v.isTruthy
  | sequence _ items => some !items.isEmpty
  | table entries => some !entries.isEmpty
  | ofKind k =>
    if mayBeFalse.contains k then none else some true
  | unknown => none
  | _ => some true

/-- Whether all of some answers are yes; an answer that is not known only matters if none is no. -/
def allOf (answers : List (Option Bool)) : Option Bool :=
  if answers.contains (some false) then some false
  else if answers.contains none then none
  else some true

mutual

/-- Whether two data are equal. -/
def same? : Datum → Datum → Option Bool
  | unknown, _ | _, unknown => none
  | plain a, plain b => some (a.equal b)
  | ofKind j, ofKind k => if j = k || (ofKind j).rank?.isSome then none else some false
  | ofKind j, b => if j = b.kindName || (ofKind j).rank?.isSome then none else some false
  | a, ofKind k => if k = a.kindName || (ofKind k).rank?.isSome then none else some false
  | sequence .set as, sequence .set bs =>
    if as.length ≠ bs.length then some false else allHave as bs
  | sequence j as, sequence k bs => if j = k then allSame? as bs else some false
  | table as, table bs => if as.length ≠ bs.length then some false else none
  | kind a, kind b => some (a = b)
  | function a, function b => some (a = b)
  | module a, module b => some (a = b)
  | method _ _, method _ _ | lambda, lambda => none
  | _, _ => some false

/-- Whether two lists of data are equal item by item. -/
def allSame? : List Datum → List Datum → Option Bool
  | [], [] => some true
  | a :: as, b :: bs => allOf [same? a b, allSame? as bs]
  | _, _ => some false

/-- Whether each datum of a list is in another one. -/
def allHave : List Datum → List Datum → Option Bool
  | [], _ => some true
  | a :: as, bs => allOf [(allOf (bs.map fun b => (same? a b).map not)).map not, allHave as bs]

end

/-- Whether a datum is one of some others. -/
def isAmong? (d : Datum) (others : List Datum) : Option Bool :=
  (allOf (others.map fun other => (d.same? other).map not)).map not

mutual

/-- Whether a datum can be in a set or the key of a table. -/
def isHashable : Datum → Bool
  | sequence .tuple items => areHashable items
  | sequence _ _ | table _ => false
  | ofKind k => !(["list", "set", "dict", "slice"].contains k)
  | _ => true

/-- Whether all of some data can be in a set. -/
def areHashable : List Datum → Bool
  | [] => true
  | d :: rest => isHashable d && areHashable rest

end

/-- A datum that can be in a set or the key of a table. -/
def asKey (d : Datum) : Except Fault Datum := if d.isHashable then .ok d else .error .wrongType

/-- Whether a datum can be called. -/
def isCallable : Datum → Bool
  | kind _ | function _ | method _ _ | lambda | unknown => true
  | ofKind k => k = "object"
  | _ => false

end Datum
end Bindery.Script
