import Bindery.Association
import Bindery.Value.Basic

/-!
# Equality of values

Numbers compare across their types; all other values only within theirs, where an object of a
class binding is identified by its handle alone and the order of a table's entries is no part of
it. Objects of struct bindings differ from each other even if their bytes are the same. Equal
values have equal hashes, and mutable values have none.

* `Value.equal`: equality, which is `==` on values.
* `Value.compare`: equality of values and of their hashes.
* `Value.isHashable`, `Value.asKey`: whether a value can be the key of a table.
* `Value.keyNumber`: the integer that a value is equal to.
* `Value.hasZeroHash`: whether the hash of a value is zero.
* `Value.tabulate`: the table with given entries; of equal keys the first stays, with the last
  value.
-/

namespace Bindery.Value

open Number

/-- The number that a value is, as an integer or a double. -/
def number? (v : Value) : Option (Int ⊕ Double) :=
  match v with
  | float d => some (.inr d)
  | _ => v.index?.map .inl

/-- Equality of numbers. -/
def numbersEqual : Int ⊕ Double → Int ⊕ Double → Bool
  | .inl a, .inl b => a == b
  | .inr a, .inr b => a.numEq b
  | .inl n, .inr d | .inr d, .inl n => d.isInt n

mutual

/-- Equality of values. -/
def equal : Value → Value → Bool
  | null, null => true
  | text a, text b => a == b
  | list as, list bs => equalAll as bs
  | table as, table bs => as.length == bs.length && equalEntries as bs
  | ref a, ref b => equal a b
  | name a, name b => equal a b
  | weak a, weak b => equal a b
  | struct a, struct b => a == b
  | object _ a, object _ b => equal a b
  | cls a, cls b => a.lineage == b.lineage
  | a, b =>
    match a.number?, b.number? with
    | some m, some n => numbersEqual m n
    | none, none =>
      match a.byteString?, b.byteString? with
      | some x, some y => x == y
      | _, _ => false
    | _, _ => false

/-- Equality of lists of values, item by item. -/
def equalAll : List Value → List Value → Bool
  | [], [] => true
  | a :: as, b :: bs => equal a b && equalAll as bs
  | _, _ => false

/-- Whether every entry of a table is one of another table. -/
def equalEntries : List (Value × Value) → List (Value × Value) → Bool
  | [], _ => true
  | a :: as, bs => (bs.any fun b => equal a.1 b.1 && equal a.2 b.2) && equalEntries as bs

end

instance : BEq Value := ⟨equal⟩

/-- A text is equal to no other value. -/
theorem beq_text_iff {v : Value} {name : String} : (v == .text name) = true ↔ v = .text name := by
  show v.equal (.text name) = true ↔ _
  cases v <;> simp [equal, number?, index?, byteString?]

/-- Mutable values have no hash, nor have references to them. -/
def isHashable : Value → Bool
  | buffer _ | list _ | table _ | struct _ => false
  | ref h | name h | weak h | object _ h => isHashable h
  | _ => true

/-- A value as the key of a table. -/
def asKey (v : Value) : Except Fault Value := if v.isHashable then .ok v else .error .wrongType

/-- The number that a value stands for as the key of a table: none if it is equal to no integer. -/
def keyNumber (v : Value) : Except Fault (Option Int) :=
  match v with
  | float d => .ok d.int?
  | _ => if v.isHashable then .ok v.index? else .error .wrongType

/-- The modulus of the hashes of numbers. -/
def hashModulus : Int := Nat.pow 2 61 - 1

/-- Whether the hash of a value is zero. The hash of a number is its remainder, and references have
the hashes of their handles. -/
def hasZeroHash : Value → Bool
  | text s => s.isEmpty
  | bytes data => data.isEmpty
  | float d => d.isZero
  | ref h | weak h | object _ h => hasZeroHash h
  | v => v.index?.any fun n => n % hashModulus = 0

/-- Whether two values are equal and, if they are, whether their hashes are. -/
def compare (a b : Value) : Except Fault (Bool × Option Bool) :=
  if !a.equal b then .ok (false, none)
  else if a.isHashable && b.isHashable then .ok (true, some true)
  else .error .wrongType

/-- The entries of a table made from pairs in order. -/
def tabulate (pairs : List (Value × Value)) : Except Fault (List (Value × Value)) :=
  pairs.foldlM (fun entries p => do return Assoc.set (← p.1.asKey) p.2 entries) []

end Bindery.Value
