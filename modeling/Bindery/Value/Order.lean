import Bindery.Number.Binary
import Bindery.Value.Equality

/-!
# Order and sums of values

Numbers compare across their types, texts by code points, byte strings by their bytes, and lists by
the first items that differ. No other values have an order.

* `Value.less`: whether a value comes before another one.
* `Value.placeIn`: the place in a list of some length that a value names.
* `Value.position`: the same, where negative numbers count from the end.
* `Value.sort`: values in ascending order.
* `Value.plus`: the sum of numbers, and one collection after the other.
-/

namespace Bindery.Value

open Number

/-- What a number stands for. -/
def exactOf : Int ⊕ Double → Exact
  | .inl n => .ofInt n
  | .inr d => d.exact

mutual

/-- Whether a value comes before another one. -/
def less : Value → Value → Except Fault Bool
  | text a, text b => .ok (Text.lt a b)
  | list as, list bs => lessAll as bs
  | a, b =>
    match a.number?, b.number? with
    | some m, some n => .ok ((exactOf m).less (exactOf n))
    | _, _ =>
      match a.byteString?, b.byteString? with
      | some x, some y => .ok (x < y)
      | _, _ => .error .wrongType

/-- Whether a list comes before another one: the first items that differ decide, then the length. -/
def lessAll : List Value → List Value → Except Fault Bool
  | [], bs => .ok (!bs.isEmpty)
  | _ :: _, [] => .ok false
  | a :: as, b :: bs => if a == b then lessAll as bs else less a b

end

/-- Whether a number is negative. -/
def isNegative (v : Value) : Except Fault Bool := v.less (int 0)

/-- Whether a number is at least zero and below a size. -/
def isWithin (v : Value) (size : Nat) : Except Fault Bool := do
  if ← v.less (int size) then return !(← v.isNegative) else return false

/-- The place in a list of some length that a value names, none if that is outside of it. -/
def placeIn (v : Value) (size : Nat) : Except Fault (Option Nat) := do
  if ← v.isWithin size then return some (← v.index).toNat else return none

/-- The place in a list of some length that an index means, counted from the end if it is
negative. -/
def position (v : Value) (size : Nat) : Except Fault Nat := do
  let n ← v.index
  let i := if n < 0 then n + size else n
  if 0 ≤ i ∧ i < size then return i.toNat else throw .noSuchIndex

/-- A sorted list with one more value, behind those that do not come after it. -/
def insertSorted (v : Value) : List Value → Except Fault (List Value)
  | [] => .ok [v]
  | other :: rest => do
    if ← v.less other then return v :: other :: rest
    return other :: (← insertSorted v rest)

/-- Values in ascending order; equal ones keep theirs. -/
def sort (vs : List Value) : Except Fault (List Value) :=
  vs.foldlM (fun sorted v => insertSorted v sorted) []

/-- The sum of two numbers, a double if one of them is. -/
def addNumbers : Int ⊕ Double → Int ⊕ Double → Except Fault Value
  | .inl m, .inl n => .ok (int (m + n))
  | .inl m, .inr d => do return float ((← (int m).toDouble).add d)
  | .inr d, .inl n => do return float (d.add (← (int n).toDouble))
  | .inr a, .inr b => .ok (float (a.add b))

/-- The sum of two numbers, or two texts, lists or byte strings one after the other. -/
def plus (a b : Value) : Except Fault Value :=
  match a, b with
  | text a, text b => .ok (text (a ++ b))
  | list as, list bs => .ok (list (as ++ bs))
  | bytes a, bytes b | bytes a, buffer b => .ok (bytes (a ++ b))
  | buffer a, bytes b | buffer a, buffer b => .ok (buffer (a ++ b))
  | a, b =>
    match a.number?, b.number? with
    | some m, some n => addNumbers m n
    | _, _ => .error .wrongType

theorem less_int (m n : Int) : (int m).less (int n) = .ok (decide (m < n)) := by
  simp [less, number?, index?, exactOf, Exact.less_ofInt]

theorem placeIn_int (n : Int) (size : Nat) :
    (int n).placeIn size = .ok (if 0 ≤ n ∧ n < size then some n.toNat else none) := by
  by_cases hs : n < size <;> by_cases h0 : n < 0 <;>
    simp [placeIn, isWithin, isNegative, less_int, hs, h0, index, index?, bind, Except.bind, pure,
      Except.pure]

theorem plus_int (m n : Int) : (int m).plus (int n) = .ok (int (m + n)) := by
  simp [plus, number?, index?, addNumbers]

end Bindery.Value
