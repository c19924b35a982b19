import Bindery.Bytes
import Bindery.Effect
import Bindery.Enum.Layout
import Bindery.Text.Numeral

/-!
# Values

What scripts hand to the bindings and get back from them. Arguments are not typed, so every
operation says for itself which values it takes. Handles of host objects, indices and codes are
values too: a host may answer with anything, and the bindings pass it on.

* `Value`: the values.
* `Value.isTruthy`: whether a value counts as true.
* `Value.ofAddress`, `Value.refTo`: handles and references; the null object has none.
* `Value.toInt`: the conversion to an integer, `Value.index?` the integers proper.
* `Value.toDouble`: the conversion to a double.
* `Value.plainBytes`, `Value.toBytes`: the bytes that a value denotes.
* `Value.items`, `Value.length?`: the members of a collection, and their number.
* `Arguments`: the arguments of a call by position. A call takes so many of them, and each for what
  it needs.
* `Arguments.exactly`, `Arguments.between`: their number.
* `Arguments.value`, `int`, `data`, `items`: an argument by its position.
* `Arguments.apply`: calls something with the members of a collection as its arguments.
-/

namespace Bindery

/-- A class of bindings, for a class or a struct of the host. -/
structure BindingClass where
  /-- The class's own name. -/
  name : String
  /-- The name of the host's class or struct. -/
  hostName : String
  /-- The numbers of the class and of the classes that it derives from. -/
  lineage : List Nat
  isStruct : Bool := false
  /-- Whether the class can look up its own class or struct. The one that all struct bindings derive
  from cannot. -/
  located : Bool := true
deriving DecidableEq, Repr

/-- A value of a script. -/
inductive Value where
  | null
  | bool (b : Bool)
  | int (n : Int)
  | float (d : Number.Double)
  | text (s : String)
  /-- An immutable byte string. -/
  | bytes (data : Bytes)
  /-- A mutable byte string. -/
  | buffer (data : Bytes)
  | list (items : List Value)
  | table (entries : List (Value × Value))
  /-- A reference to the host object with a handle. -/
  | ref (h : Value)
  /-- An index into the host's table of names. -/
  | name (index : Value)
  /-- An index into the host's table of weak references. -/
  | weak (index : Value)
  /-- The bytes of a struct, copied out of the host. -/
  | struct (data : Bytes)
  /-- An object of a class binding. -/
  | object (cls : BindingClass) (h : Value)
  /-- An object of a struct binding. -/
  | record (cls : BindingClass) (data : Bytes)
  /-- A member of a generated enum. -/
  | member (v : Variant)
  /-- A binding class itself. -/
  | cls (c : BindingClass)
deriving Inhabited

namespace Value

open Number

/-- Zero, false, null and whatever is empty count as false, all else as true. -/
def isTruthy : Value → Bool
  | null => false
  | bool b => b
  | int n => n ≠ 0
  | float d => !d.isZero
  | text s => !s.isEmpty
  | bytes data | buffer data | struct data => !data.isEmpty
  | list items => !items.isEmpty
  | table entries => !entries.isEmpty
  | member v => v.value ≠ 0
  | ref _ | name _ | weak _ | object _ _ | record _ _ | cls _ => true

/-- What counts as false is null, all else itself. -/
def orNull (v : Value) : Value := if v.isTruthy then v else null

/-- The handle at an address; the address zero is null. -/
def ofAddress (address : Nat) : Value := if address = 0 then null else int address

/-- A reference. What counts as false stands for the null object. -/
def refTo (h : Value) : Value := ref h.orNull

/-- Whether a value is null. -/
def isNull : Value → Bool
  | null => true
  | _ => false

/-- The integer that a value is, for integers, booleans and members of enums. -/
def index? : Value → Option Int
  | bool b => some (if b then 1 else 0)
  | int n => some n
  | member v => some v.value
  | _ => none

/-- The integer that a value is. -/
def index (v : Value) : Except Fault Int :=
  match v.index? with
  | some n => .ok n
  | none => .error .wrongType

/-- The integer that a numeral in ASCII denotes. -/
def numeralOfBytes (data : Bytes) : Except Fault Int :=
  if data.all fun b => b < 128 then
    match Text.readInt? (String.ofList (data.map fun b => Char.ofNat b.toNat)) with
    | some n => .ok n
    | none => .error .malformed
  else .error .malformed

/-- The integer that a value converts to. Fractions are cut off and texts read as numerals. -/
def toInt : Value → Except Fault Int
  | bool b => .ok (if b then 1 else 0)
  | int n => .ok n
  | name index => index.index
  | member v => .ok v.value
  | float d =>
    if d.isNaN then .error .malformed
    else if d.isInfinite then .error .outOfRange
    else .ok d.truncate
  | text s =>
    match Text.readInt? s with
    | some n => .ok n
    | none => .error .malformed
  | bytes data | buffer data => numeralOfBytes data
  | _ => .error .wrongType

/-- The double nearest to a number; integers may be too large for one. Other values are refused. -/
def toDouble (v : Value) : Except Fault Double :=
  match v with
  | float d => .ok d
  | _ => do
    let d := Double.ofInt (← v.index)
    if d.isFinite then return d else throw .outOfRange

/-- The members of a collection in order: the items of a list, the characters of a text, the
bytes of a byte string, the keys of a table. -/
def items : Value → Except Fault (List Value)
  | list xs => .ok xs
  | text s => .ok ((Text.singles s).map text)
  | bytes data | buffer data => .ok (data.map fun b => int b.toNat)
  | table entries => .ok (entries.map (·.1))
  | _ => .error .wrongType

/-- The bytes of a byte string, mutable or not. -/
def byteString? : Value → Option Bytes
  | bytes data | buffer data => some data
  | _ => none

/-- Number of members of a value that has some. -/
def length? : Value → Option Nat
  | struct data | bytes data | buffer data => some data.length
  | text s => some (Text.size s)
  | list items => some items.length
  | table entries => some entries.length
  | _ => none

/-- The first members of a value that can be cut. -/
def cut (size : Nat) : Value → Except Fault Value
  | bytes data | buffer data => .ok (bytes (data.take size))
  | list items => .ok (list (items.take size))
  | text s => .ok (text (Text.take s size))
  | _ => .error .wrongType

/-- The byte that a number denotes. -/
def toByte (v : Value) : Except Fault UInt8 := do
  let n ← v.index
  if 0 ≤ n ∧ n < 256 then return UInt8.ofNat n.toNat else throw .malformed

/-- The greatest size that a byte string can have. -/
def maxSize : Nat := Nat.pow 2 63 - 34

/-- The greatest size for which there is memory. -/
def memoryLimit : Nat := Nat.pow 2 40

/-- A number of bytes for which there is memory. -/
def sizeOfInt (n : Int) : Except Fault Nat :=
  if n > maxSize || n < -Nat.pow 2 63 then .error .outOfRange
  else if n < 0 then .error .malformed
  else if n > memoryLimit then .error .tooLarge
  else .ok n.toNat

theorem sizeOfInt_of_le {n : Nat} (h : n ≤ memoryLimit) : sizeOfInt n = .ok n := by
  simp only [memoryLimit, Nat.pow_eq] at h
  simp only [sizeOfInt, maxSize, memoryLimit, Nat.pow_eq]
  grind

theorem le_of_sizeOfInt {n : Int} {size : Nat} (h : sizeOfInt n = .ok size) :
    size ≤ memoryLimit := by
  simp only [sizeOfInt] at h
  grind

/-- So many zero bytes. -/
def zeroBytes (n : Int) : Except Fault Bytes := (List.replicate · 0) <$> sizeOfInt n

/-- The bytes that a value denotes: those of a byte string, as many zeros as an integer says, or
one for each member of a collection of small integers. -/
def plainBytes (v : Value) : Except Fault Bytes :=
  match v with
  | bytes data | buffer data => .ok data
  | text _ => .error .wrongType
  | _ =>
    match v.index? with
    | some n => zeroBytes n
    | none => do (← v.items).mapM toByte

/-- The bytes that a value denotes, where those of a struct are its own. -/
def toBytes (v : Value) : Except Fault Bytes :=
  match v with
  | struct data | record _ data => .ok data
  | _ => v.plainBytes

end Value

/-! ## Arguments -/

/-- The arguments of a call. -/
structure Arguments where
  values : List Value

namespace Arguments

variable {σ : Type} (args : Arguments) (i : Nat)

/-- Takes so many arguments. -/
def between (least most : Nat) : Act σ Unit := do
  if args.values.length < least || most < args.values.length then throw .wrongType

/-- Takes exactly so many arguments. -/
def exactly (count : Nat) : Act σ Unit := args.between count count

/-- An argument of any type. -/
def value : Act σ Value :=
  match args.values[i]? with
  | some v => return v
  | none => throw .wrongType

/-- An integer. -/
def int : Act σ Int := do (← args.value i).index

/-- A byte string. -/
def data : Act σ Bytes := do
  match ← args.value i with
  | .bytes data | .buffer data => return data
  | _ => throw .wrongType

/-- The members of a collection. -/
def items : Act σ (List Value) := do (← args.value i).items

/-- Something that takes a number of arguments. -/
abbrev Callable (σ : Type) := Nat × (Arguments → Act σ Value)

/-- Calls something with the members of a collection as its arguments. -/
def apply (f : Callable σ) (given : Value) : Act σ Value := do
  let args : Arguments := ⟨← given.items⟩
  args.exactly f.1
  f.2 args

end Arguments
end Bindery
