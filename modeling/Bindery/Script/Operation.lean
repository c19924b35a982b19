import Bindery.Script.Builtin
import Bindery.Script.Format
import Bindery.Value.Order

/-!
# Operators of scripts

What the operators make of data. Where too little is known of a datum, an operator is taken to
succeed.

* `Operation.unary`, `Operation.binary`: operators on one datum and on two.
* `Operation.compare`: comparisons.
* `Operation.itemAt`: the item of a collection.
-/

namespace Bindery.Script.Operation

open Number

/-- The fault of a division by zero. -/
def byZero : Fault := .raised "ZeroDivisionError"

/-- The largest numbers and texts that are followed. -/
def limit : Nat := 100000

/-! ## Numbers -/

/-- The names of the kinds of numbers by rank. -/
def nameOfRank (rank : Nat) : String := (["int", "float", "complex"]).getD rank "complex"

/-- The quotient that a finite number is. -/
def ratio? : Int ⊕ Double → Option (Int × Nat)
  | .inl n => some (n, 1)
  | .inr d =>
    match d.exact with
    | .ratio n k => some (n, Nat.pow 2 k)
    | _ => none

/-- The double nearest to a quotient. -/
def doubleOf (num : Int) (den : Nat) : Double := .ofRatio (num < 0) num.natAbs den

/-- The sum, difference, product or quotient of two finite numbers, of which one is a double. -/
def ofRatios (sign : String) (a b : Int × Nat) : Option Double :=
  match sign with
  | "+" => some (doubleOf (a.1 * b.2 + b.1 * a.2) (a.2 * b.2))
  | "-" => some (doubleOf (a.1 * b.2 - b.1 * a.2) (a.2 * b.2))
  | "*" => some (doubleOf (a.1 * b.1) (a.2 * b.2))
  | "/" => if b.1 = 0 then none else some (doubleOf (a.1 * b.1.sign * b.2) (a.2 * b.1.natAbs))
  | "//" => some (doubleOf ((a.1 * b.2).fdiv (b.1 * a.2)) 1)
  | "%" => some (doubleOf ((a.1 * b.2).fmod (b.1 * a.2)) (a.2 * b.2))
  | _ => none

/-- A power of integers. -/
def power (m n : Int) : Except Fault Datum :=
  if n < 0 then if m = 0 then .error byZero else .ok (.ofKind "float")
  else if m.natAbs.log2 * n.toNat < limit then .ok (.int (Int.pow m n.toNat))
  else .ok (.ofKind "int")

/-- What an operator makes of two integers. -/
def onIntegers (sign : String) (m n : Int) : Except Fault Datum :=
  match sign with
  | "+" => .ok (.int (m + n))
  | "-" => .ok (.int (m - n))
  | "*" => .ok (.int (m * n))
  | "/" => .ok (.plain (.float (doubleOf (m * n.sign) n.natAbs)))
  | "//" => .ok (.int (m.fdiv n))
  | "%" => .ok (.int (m.fmod n))
  | "**" => power m n
  | "<<" =>
    if n < 0 then .error .malformed
    else if n < limit then .ok (.int (m * Nat.pow 2 n.toNat))
    else .ok (.ofKind "int")
  | ">>" =>
    if n < 0 then .error .malformed
    else .ok (.int (if n < limit then m.fdiv (Nat.pow 2 n.toNat) else if m < 0 then -1 else 0))
  | _ => .ok (.ofKind "int")

/-- Operators that only integers have. -/
def bitSigns : List String := ["<<", ">>", "&", "|", "^"]

/-- Operators that divide. -/
def divisions : List String := ["/", "//", "%"]

/-- What an operator makes of two numbers with the given ranks. -/
def onNumbers (sign : String) (a b : Datum) (i j : Nat) : Except Fault Datum :=
  let rank := max i j
  if sign = "@" || (bitSigns.contains sign && 0 < rank) then .error .wrongType
  else if rank = 2 && (sign = "//" || sign = "%") then .error .wrongType
  else if divisions.contains sign && b.isTrue? = some false then .error byZero
  else
    match a.int?, b.int? with
    | some m, some n => onIntegers sign m n
    | _, _ =>
      if sign = "**" then
        match a.isTrue?, b with
        | some false, .plain v =>
          if (v.isNegative.toOption).getD false then .error byZero else .ok .unknown
        | _, _ => .ok .unknown
      else match a, b with
        | .plain v, .plain w =>
          match (do ofRatios sign (← ratio? (← v.number?)) (← ratio? (← w.number?))) with
          | some d => .ok (.plain (.float d))
          | none => .ok (.ofKind (nameOfRank rank))
        | _, _ => .ok (.ofKind (if rank = 0 && sign = "/" then "float" else nameOfRank rank))

/-! ## Collections -/

/-- The text so many times. -/
def repeatText (s : String) (n : Int) : Datum :=
  if s.length * n.toNat ≤ limit then .text ("".intercalate (List.replicate n.toNat s))
  else .ofKind "str"

/-- A collection so many times. -/
def repeated (d : Datum) (n : Option Int) : Datum :=
  match d, n with
  | .plain (.text s), some n => repeatText s n
  | .sequence kind items, some n =>
    if items.length * n.toNat ≤ limit then
      .sequence kind (List.flatten (List.replicate n.toNat items))
    else .ofKind d.kindName
  | d, _ => .ofKind d.kindName

/-! ## Operators -/

/-- The kinds of collections that can be added and repeated. -/
def lists : List String := ["str", "bytes", "list", "tuple"]

/-- Two collections of a kind one after the other. -/
def joined (a b : Datum) : Datum :=
  match a, b with
  | .plain (.text s), .plain (.text t) => .text (s ++ t)
  | .sequence kind as, .sequence _ bs => .sequence kind (as ++ bs)
  | a, _ => .ofKind a.kindName

/-- Whether a datum is a kind, or null, which can be a kind of nothing. -/
def isKindOrNull : Datum → Bool
  | .kind _ | .plain .null => true
  | _ => false

/-- Whether a datum is a kind. -/
def isKind : Datum → Bool
  | .kind _ => true
  | _ => false

/-- What an operator makes of two data that are not both numbers. -/
def onOthers (sign : String) (a b : Datum) : Except Fault Datum :=
  match sign with
  | "+" =>
    if a.kindName = b.kindName && lists.contains a.kindName then .ok (joined a b)
    else .error .wrongType
  | "*" =>
    if lists.contains a.kindName && b.isWhole then .ok (repeated a b.int?)
    else if a.isWhole && lists.contains b.kindName then .ok (repeated b a.int?)
    else .error .wrongType
  | "%" =>
    match a with
    | .plain (.text s) => do
      Format.checkText s b
      return .ofKind "str"
    | a =>
      if a.kindName = "bytes" || a.kindName = "str" then .ok (.ofKind a.kindName)
      else .error .wrongType
  | "-" | "&" | "^" =>
    if a.kindName = "set" && b.kindName = "set" then .ok (.ofKind "set") else .error .wrongType
  | "|" =>
    if a.kindName = b.kindName && ["set", "dict"].contains a.kindName then .ok (.ofKind a.kindName)
    else if isKindOrNull a && isKindOrNull b && (isKind a || isKind b) then .ok .unknown
    else .error .wrongType
  | _ => .error .wrongType

/-- Whether operators may do anything with a datum. -/
def isOpen (d : Datum) : Bool := d.isUnknown || d.kindName = "object"

/-- What an operator makes of two data. -/
def binary (sign : String) (a b : Datum) : Except Fault Datum :=
  if isOpen a || isOpen b then .ok .unknown
  else match a.rank?, b.rank? with
    | some i, some j => onNumbers sign a b i j
    | _, _ => onOthers sign a b

/-- What an operator makes of a datum. -/
def unary (sign : String) (d : Datum) : Except Fault Datum :=
  if sign = "not" then .ok ((d.isTrue?.map fun b => .bool !b).getD (.ofKind "bool"))
  else if isOpen d then .ok .unknown
  else match d.rank? with
    | none => .error .wrongType
    | some rank =>
      if sign = "~" then
        if rank = 0 then .ok ((d.int?.map fun n => .int (-n - 1)).getD (.ofKind "int"))
        else .error .wrongType
      else match d.int? with
        | some n => .ok (.int (if sign = "-" then -n else n))
        | none => .ok (.ofKind (nameOfRank rank))

/-! ## Comparisons -/

/-- A truth value that may not be known. -/
def truth (answer : Option Bool) : Datum := (answer.map .bool).getD (.ofKind "bool")

mutual

/-- Refuses two data that have no order. -/
def checkOrder (fuel : Nat) (a b : Datum) : Except Fault Unit :=
  match fuel with
  | 0 => .error .tooDeep
  | fuel + 1 =>
    if isOpen a || isOpen b then .ok ()
    else match a.rank?, b.rank? with
      | some i, some j => if max i j < 2 then .ok () else .error .wrongType
      | _, _ =>
        if a.kindName ≠ b.kindName then .error .wrongType
        else match a, b with
          | .sequence .set _, _ => .ok ()
          | .sequence _ as, .sequence _ bs => checkOrders fuel as bs
          | a, _ => if lists.contains a.kindName || a.kindName = "set" then .ok ()
            else .error .wrongType

/-- Refuses two lists of data of which the first items that differ have no order. -/
def checkOrders (fuel : Nat) (as bs : List Datum) : Except Fault Unit :=
  match fuel, as, bs with
  | 0, _, _ => .error .tooDeep
  | fuel + 1, a :: as, b :: bs =>
    match a.same? b with
    | some true => checkOrders fuel as bs
    | some false => checkOrder fuel a b
    | none => .ok ()
  | _, _, _ => .ok ()

end

/-- Whether a datum is in a collection. -/
def contains (d c : Datum) : Except Fault (Option Bool) :=
  if isOpen c then .ok none
  else match c.kindName with
    | "str" => if d.kindName = "str" || isOpen d then .ok none else .error .wrongType
    | "bytes" =>
      match d.int? with
      | some n => if 0 ≤ n && n < 256 then .ok none else .error .malformed
      | none =>
        if d.kindName = "bytes" || d.isWhole || isOpen d then .ok none else .error .wrongType
    | "set" | "dict" => do
      let key ← d.asKey
      match ← c.parts with
      | some items => return key.isAmong? items
      | none => return none
    | _ => do
      match ← c.parts with
      | some items => return d.isAmong? items
      | none => return none

/-- What a comparison makes of two data. -/
def compare (sign : String) (a b : Datum) : Except Fault Datum :=
  match sign with
  | "==" => .ok (truth (a.same? b))
  | "!=" => .ok (truth ((a.same? b).map not))
  | "is" | "is not" =>
    match a, b with
    | .plain .null, .plain .null => .ok (.bool (sign = "is"))
    | .plain (.bool x), .plain (.bool y) => .ok (.bool ((x = y) = (sign = "is")))
    | a, b =>
      if a.kindName ≠ b.kindName && !isOpen a && !isOpen b then .ok (.bool (sign ≠ "is"))
      else .ok (.ofKind "bool")
  | "in" => do return truth (← contains a b)
  | "not in" => do return truth ((← contains a b).map not)
  | sign => do
    checkOrder (limit + 1) a b
    match a, b with
    | .plain v, .plain w =>
      let less := if sign = "<" || sign = ">=" then v.less w else w.less v
      return .bool ((← less) = (sign = "<" || sign = ">"))
    | _, _ => return .ofKind "bool"

/-! ## Items -/

/-- The kinds that have kinds for items. -/
def openKinds : List String := [
  "list", "dict", "tuple", "set", "frozenset", "type", "enumerate", "filter", "map", "reversed",
  "zip", "property"]

/-- The item of a sequence with a known length at an index. -/
def placeOf (size : Nat) (index : Datum) : Except Fault (Option Nat) :=
  match index with
  | .plain v => do return some (← v.position size)
  | index => if index.isWhole || isOpen index then .ok none else .error .wrongType

/-- The item of a collection. -/
def itemAt (c index : Datum) : Except Fault Datum :=
  if isOpen c then .ok .unknown
  else match c with
    | .table entries => do
      let key ← index.asKey
      match key.isAmong? (entries.map (·.1)) with
      | some false => throw .noSuchKey
      | _ =>
        return ((entries.find? fun e => key.same? e.1 = some true).map (·.2)).getD .unknown
    | .kind k => if openKinds.contains k then .ok .unknown else .error .wrongType
    | .ofKind "_SpecialForm" => .ok .unknown
    | c =>
      if !lists.contains c.kindName then .error .wrongType
      else do
        let items := (← c.parts).getD []
        match c.length? with
        | none =>
          if index.isWhole || isOpen index then return .unknown else throw .wrongType
        | some size =>
          match ← placeOf size index with
          | some i => return items.getD i .unknown
          | none => return .unknown

/-- Refuses a range whose bounds are no integers or whose step is zero. -/
def checkBounds (bounds : List Datum) : Except Fault Unit := do
  if !bounds.all fun b => b.isWhole || isOpen b || isKindOrNull b && !isKind b then throw .wrongType
  if (bounds.getD 2 .null).int? = some 0 then throw .malformed

/-- The position that a bound of a range means in a list of some length. -/
def boundIn (size : Nat) (n : Int) : Nat := (min (if n < 0 then n + size else n) size).toNat

/-- The bound that a datum is, where null stands for another one. -/
def bound? (other : Int) : Datum → Option Int
  | .plain .null => some other
  | d => d.int?

/-- The part of a list in a range that has no step. -/
def cut? {α : Type} (items : List α) (bounds : List Datum) : Option (List α) := do
  if (← bound? 1 (bounds.getD 2 .null)) ≠ 1 then none
  let start := boundIn items.length (← bound? 0 (bounds.getD 0 .null))
  let stop := boundIn items.length (← bound? items.length (bounds.getD 1 .null))
  return (items.take stop).drop start

/-- The part of a collection in a range. -/
def itemsIn (c : Datum) (bounds : List Datum) : Except Fault Datum :=
  if isOpen c || c.kindName = "_SpecialForm" then .ok .unknown
  else match c with
    | .kind k => if openKinds.contains k then .ok .unknown else .error .wrongType
    | .table _ => .error .wrongType
    | c =>
      if !lists.contains c.kindName then .error .wrongType
      else do
        checkBounds bounds
        match c with
        | .plain (.text s) =>
          return ((cut? (Text.points s) bounds).map fun ps => .text (Text.ofPoints ps)).getD
            (.ofKind "str")
        | .plain (.bytes data) =>
          return ((cut? data bounds).map fun part => .plain (.bytes part)).getD (.ofKind "bytes")
        | .sequence kind items =>
          return ((cut? items bounds).map (.sequence kind)).getD (.ofKind c.kindName)
        | c => return .ofKind c.kindName

end Bindery.Script.Operation
