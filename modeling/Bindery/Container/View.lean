import Bindery.Container.Codec
import Bindery.Host.Code
import Bindery.Value.Order

/-!
# Container views

Live views of arrays, sets and maps. A view addresses a container by its owner and a property, and
every operation goes to the host.

* `View`: owner and property, with the host in use.
* `View.array…`, `View.set…`, `View.map…`: the operations by shape.
* `View.toList`: all elements by one bulk copy; `View.iterate` reads them one by one.
-/

namespace Bindery

open Host

/-- What addresses a container. The host in use is asked for with every operation. -/
structure View (σ : Type) where
  dispatch : Act σ (Primitives σ)
  owner : Value
  prop : Value

namespace View

variable {σ α : Type} (view : View σ)

/-- An operation that answers a code, which has to be the one for success. -/
def perform (operation : Primitives σ → Act σ Value) : Act σ Unit := do
  Code.accept (← operation (← view.dispatch))

/-- An element that a reader answers with a code. -/
def decoded (codec : ElementCodec) (answer : Value × Value) : Act σ Value := do
  Code.accept answer.1
  codec.decodeValue answer.2

/-! ## All shapes -/

/-- A number of elements; a negative one means that the owner is gone. -/
def checkedLength (n : Value) : Act σ Value := do
  if ← n.isNegative then throw (.ofKind .objectDestroyed) else return n

/-- What the host answers for the number of elements. -/
def length (shape : Shape) : Act σ Value := do
  checkedLength (← (← view.dispatch).count shape view.owner view.prop)

/-- The largest number of elements. -/
def maxLength : Int := Nat.pow 2 63 - 1

/-- Number of elements. -/
def size (shape : Shape) : Act σ Nat := do
  let n ← (← view.length shape).index
  if n > maxLength then throw .outOfRange else return n.toNat

/-- Removes all elements. -/
def clear (shape : Shape) : Act σ Unit :=
  view.perform fun host => host.clear shape view.owner view.prop

/-- The frames of a bulk copy: the given number for each element. -/
def bulkFrames (shape : Shape) (each : Nat) : Act σ (List Bytes) := do
  let (code, data, count) ← (← view.dispatch).copyAll shape view.owner view.prop
  Code.accept code
  match Bytes.unframe (count.toNat * each) data with
  | some parts => return parts
  | none => throw .badSlot

/-- All elements of an array or a set by one bulk copy. -/
def toList (shape : Shape) (codec : ElementCodec) : Act σ (List Value) := do
  (← view.bulkFrames shape 1).mapM fun data => codec.decode data

/-- The values of an operation on as many indices from `start` on. -/
def readFrom (read : Int → Act σ α) (start : Nat) : Nat → Act σ (List α)
  | 0 => return []
  | count + 1 => do
    let a ← read start
    return a :: (← readFrom read (start + 1) count)

/-- The values of an operation on every index below the number of elements. -/
def iterate (shape : Shape) (read : Value → Act σ α) : Act σ (List α) := do
  readFrom (fun i => read (.int i)) 0 (← view.size shape)

/-! ## Arrays -/

/-- The element at an index that the host checks. -/
def arrayGet (codec : ElementCodec) (index : Value) : Act σ Value := do
  let host ← view.dispatch
  decoded codec (← host.arrayGet view.owner view.prop index (← codec.bufferSize))

/-- The element at an index; a negative index counts from the end. -/
def arrayItem (codec : ElementCodec) (index : Value) : Act σ Value := do
  if ← index.isNegative then
    let fromStart ← index.plus (.int (← view.size .array))
    if ← fromStart.isNegative then throw (.ofKind .indexOutOfRange)
    view.arrayGet codec fromStart
  else view.arrayGet codec index

/-- Replaces the element at an index. -/
def arraySet (codec : ElementCodec) (index v : Value) : Act σ Unit :=
  view.perform fun host => do host.arraySet view.owner view.prop index (← codec.encode v)

/-- Appends an element. -/
def push (codec : ElementCodec) (v : Value) : Act σ Unit :=
  view.perform fun host => do host.arrayAdd view.owner view.prop (← codec.encode v)

/-- Appends elements one by one. -/
def extendArray (codec : ElementCodec) (vs : List Value) : Act σ Unit := vs.forM (view.push codec)

/-- Removes the element at an index. -/
def arrayRemove (index : Value) : Act σ Unit :=
  view.perform fun host => host.arrayRemove view.owner view.prop index

/-- Replaces all elements at once; nothing changes if one of them cannot be encoded. -/
def setAll (codec : ElementCodec) (vs : List Value) : Act σ Unit := do
  let parts ← vs.mapM fun v => codec.encodeFrame v
  view.perform fun host => host.arraySetAll view.owner view.prop parts.flatten parts.length

/-- The elements of an array one by one. -/
def arrayList (codec : ElementCodec) : Act σ (List Value) :=
  view.iterate .array (view.arrayGet codec)

/-! ## Sets -/

/-- Whether an element is there. -/
def contains (codec : ElementCodec) (v : Value) : Act σ Value := do
  let host ← view.dispatch
  host.setContains view.owner view.prop (← codec.encode v)

/-- Adds an element. -/
def add (codec : ElementCodec) (v : Value) : Act σ Unit :=
  view.perform fun host => do host.setAdd view.owner view.prop (← codec.encode v)

/-- Adds elements one by one. -/
def extendSet (codec : ElementCodec) (vs : List Value) : Act σ Unit := vs.forM (view.add codec)

/-- Removes an element. -/
def setRemove (codec : ElementCodec) (v : Value) : Act σ Unit :=
  view.perform fun host => do host.setRemove view.owner view.prop (← codec.encode v)

/-- The element at an index. -/
def setGet (codec : ElementCodec) (index : Value) : Act σ Value := do
  let host ← view.dispatch
  decoded codec (← host.setGet view.owner view.prop index (← codec.bufferSize))

/-- The elements of a set one by one. -/
def setList (codec : ElementCodec) : Act σ (List Value) := view.iterate .set (view.setGet codec)

/-! ## Maps -/

/-- The value of a key, null if the host does not answer one. -/
def find (keys values : ElementCodec) (key : Value) : Act σ Value := do
  let host ← view.dispatch
  let key ← keys.encode key
  let (code, data) ← host.mapFind view.owner view.prop key (← values.bufferSize)
  if code == .int ErrorKind.objectDestroyed.code then throw (.ofKind .objectDestroyed)
  if Code.isOk code then values.decodeValue data else return .null

/-- Whether a key has a value other than null. -/
def hasKey (keys values : ElementCodec) (key : Value) : Act σ Bool := do
  return !(← view.find keys values key).isNull

/-- Gives a key a value. -/
def addPair (keys values : ElementCodec) (key value : Value) : Act σ Unit :=
  view.perform fun host => do
    host.mapAdd view.owner view.prop (← keys.encode key) (← values.encode value)

/-- Removes a key. -/
def mapRemove (keys : ElementCodec) (key : Value) : Act σ Unit :=
  view.perform fun host => do host.mapRemove view.owner view.prop (← keys.encode key)

/-- The key and the value at an index. -/
def pairAt (keys values : ElementCodec) (index : Value) : Act σ (Value × Value) := do
  let host ← view.dispatch
  let (code, key, value) ← host.mapPair view.owner view.prop index
    (← keys.bufferSize) (← values.bufferSize)
  Code.accept code
  return (← keys.decodeValue key, ← values.decodeValue value)

/-- The pairs one by one. -/
def pairList (keys values : ElementCodec) : Act σ (List (Value × Value)) :=
  view.iterate .map (view.pairAt keys values)

/-- The elements of a list two by two. -/
def twoByTwo : List α → List (α × α)
  | a :: b :: rest => (a, b) :: twoByTwo rest
  | _ => []

/-- All pairs by one bulk copy. -/
def toPairs (keys values : ElementCodec) : Act σ (List (Value × Value)) := do
  (twoByTwo (← view.bulkFrames .map 2)).mapM fun p => do
    return (← keys.decode p.1, ← values.decode p.2)

/-- The entries of a table with all pairs. -/
def toTable (keys values : ElementCodec) : Act σ (List (Value × Value)) := do
  Value.tabulate (← view.toPairs keys values)

/-- The two members of a pair. -/
def pairOf (v : Value) : Except Fault (Value × Value) := do
  match ← v.items with
  | [key, value] => return (key, value)
  | _ => throw .malformed

/-- Adds the entries of a table, or pairs one by one. -/
def addPairs (keys values : ElementCodec) (pairs : Value) : Act σ Unit := do
  match pairs with
  | .table entries => entries.forM fun e => view.addPair keys values e.1 e.2
  | _ =>
    (← pairs.items).forM fun v => do
      let (key, value) ← pairOf v
      view.addPair keys values key value

end View
end Bindery
