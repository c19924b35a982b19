import Bindery.Engine.Basic
import Bindery.Wire.Pack

/-!
# Properties and containers of the engine

* `Engine.getScalar` and the other accessors: properties, which only owners that are there have.
* `Engine.elementAt` and the others: containers, one list of elements for each owner and property.
* `Engine.bind` and the others: the callbacks bound to a delegate.

Codes: zero for success, 1 for an owner that is gone, 3 for something absent, 7 for an index outside
the container, 8 for a callback that is not bound. An owner or a property that cannot be the key of
a table has neither properties nor containers.
-/

namespace Bindery.Engine

open Host

/-- The code for success. -/
def ok : Value := .int 0

/-- The code of a kind of error. -/
def failing (kind : ErrorKind) : Value := .int kind.code

/-- A location, whose parts can be keys of a table. -/
def asKey (loc : Location) : Except Fault Location := do
  return (← loc.1.asKey, ← loc.2.asKey)

/-! ## Properties -/

/-- What a property holds, if its owner is there. -/
def property {α : Type} (loc : Location) (default : α) (stored : Engine → Option α) (e : Engine) :
    Except Fault (Value × α) := do
  if ← e.isGone loc.1 then return (failing .objectDestroyed, default)
  discard (asKey loc)
  return (ok, (stored e).getD default)

/-- A change of a property, if its owner is there. -/
def setProperty (loc : Location) (f : Engine → Engine) (e : Engine) :
    Except Fault (Value × Engine) := do
  if ← e.isGone loc.1 then return (failing .objectDestroyed, e)
  discard (asKey loc)
  return (ok, f e)

/-- A change of a property that also happens if its owner is gone. -/
def forceProperty (loc : Location) (f : Engine → Engine) (e : Engine) :
    Except Fault (Value × Engine) := do
  discard (asKey loc)
  return (if ← e.isGone loc.1 then failing .objectDestroyed else ok, f e)

/-- Reads a scalar. -/
def getScalar (kind : ScalarKind) (loc : Location) : Engine → Except Fault (Value × Scalar) :=
  property loc kind.default fun e => e.scalars.get? (kind, loc)

/-- Writes a scalar. -/
def setScalar (kind : ScalarKind) (loc : Location) (value : Scalar) :
    Engine → Except Fault (Value × Engine) :=
  setProperty loc fun e => { e with scalars := e.scalars.set (kind, loc) value }

/-- Reads a text. -/
def getText (loc : Location) (size : Nat) (e : Engine) : Except Fault (Value × Bytes) := do
  let (code, data) ← property loc [] (fun e => e.texts.get? loc) e
  return (code, data.take size)

/-- Writes a text. -/
def setText (loc : Location) (data : Bytes) : Engine → Except Fault (Value × Engine) :=
  setProperty loc fun e => { e with texts := e.texts.set loc data }

/-- Reads a struct, cut or padded to a size. -/
def getStruct (loc : Location) (size : Nat) (e : Engine) : Except Fault (Value × Bytes) := do
  let (code, data) ← property loc [] (fun e => e.structs.get? loc) e
  return (code, Bytes.fit size data)

/-- Writes a struct, also of an owner that is gone. -/
def setStruct (loc : Location) (data : Bytes) : Engine → Except Fault (Value × Engine) :=
  forceProperty loc fun e => { e with structs := e.structs.set loc data }

/-- Reads an element of a fixed-size array, cut or padded to a size. -/
def getElement (loc : Location) (index : Value) (size : Nat) (e : Engine) :
    Except Fault (Value × Bytes) := do
  let (code, data) ← property loc [] (fun e => e.elements.get? (loc, index)) e
  return (code, Bytes.fit size data)

/-- Writes an element of a fixed-size array, also of an owner that is gone. -/
def setElement (loc : Location) (index : Value) (data : Bytes) :
    Engine → Except Fault (Value × Engine) :=
  forceProperty loc fun e => { e with elements := e.elements.set (loc, index) data }

/-! ## Containers -/

/-- The elements of a container. -/
def items (e : Engine) (loc : Location) : List Value := (e.containers.get? loc).getD []

/-- The engine with other elements in a container. -/
def withItems (e : Engine) (loc : Location) (items : List Value) : Engine :=
  { e with containers := e.containers.set loc items }

/-- A change of a container whose owner is there: the code, and the elements if they change. -/
def alter (loc : Location) (f : List Value → Except Fault (Value × Option (List Value)))
    (e : Engine) : Except Fault (Value × Engine) := do
  if ← e.isGone loc.1 then return (failing .objectDestroyed, e)
  discard (asKey loc)
  match ← f (e.items loc) with
  | (code, some items) => return (code, e.withItems loc items)
  | (code, none) => return (code, e)

/-- A look into a container whose owner is there. -/
def look {α : Type} (loc : Location) (default : α)
    (f : List Value → Except Fault (Value × α)) (e : Engine) : Except Fault (Value × α) := do
  if ← e.isGone loc.1 then return (failing .objectDestroyed, default)
  discard (asKey loc)
  f (e.items loc)

/-- An operation at a location whose parts have to be keys even if its owner is gone: those on an
element that has to be there look for it first. -/
def atKey {α : Type} (loc : Location) (operation : Engine → Except Fault α) (e : Engine) :
    Except Fault α := do
  discard (asKey loc)
  operation e

/-- Number of elements, negative if the owner is gone. -/
def count (loc : Location) (e : Engine) : Except Fault Value := do
  if ← e.isGone loc.1 then return .int (-1)
  discard (asKey loc)
  return .int (e.items loc).length

/-- Removes all elements. -/
def clear (loc : Location) : Engine → Except Fault (Value × Engine) :=
  alter loc fun _ => return (ok, some [])

/-- The bytes of an element. -/
def elementBytes (element : Value) : Except Fault Bytes :=
  match element.byteString? with
  | some data => .ok data
  | none => .error .wrongType

/-- The key and the value of an element of a map. -/
def pairOf (element : Value) : Except Fault (Value × Value) := do
  match ← element.items with
  | [key, value] => return (key, value)
  | _ => throw .malformed

/-- The parts of an element that a bulk copy frames. In a map every key is followed by its value. -/
def framedParts (shape : Shape) (element : Value) : Except Fault (List Bytes) := do
  if shape = .map then
    let (key, value) ← pairOf element
    return [← elementBytes key, ← elementBytes value]
  else return [← elementBytes element]

/-- The elements as frames, and their number. -/
def copyAll (shape : Shape) (loc : Location) : Engine → Except Fault (Value × Bytes × Int) :=
  look loc ([], 0) fun items => do
    let parts ← items.mapM (framedParts shape)
    return (ok, (← parts.flatten.mapM Bytes.framed).flatten, items.length)

/-- The element at an index, cut to a size. -/
def elementAt (loc : Location) (index : Value) (size : Nat) :
    Engine → Except Fault (Value × Value) :=
  atKey loc <| look loc (.bytes []) fun items => do
    match ← index.placeIn items.length with
    | some i => return (ok, ← (items.getD i .null).cut size)
    | none => return (failing .indexOutOfRange, .bytes [])

/-- Replaces the element at an index. -/
def arraySet (loc : Location) (index : Value) (data : Bytes) :
    Engine → Except Fault (Value × Engine) :=
  atKey loc <| alter loc fun items => do
    match ← index.placeIn items.length with
    | some i => return (ok, some (items.set i (.bytes data)))
    | none => return (failing .indexOutOfRange, none)

/-- Appends an element. -/
def arrayAdd (loc : Location) (data : Bytes) : Engine → Except Fault (Value × Engine) :=
  alter loc fun items => return (ok, some (items ++ [.bytes data]))

/-- Removes the element at an index. -/
def arrayRemove (loc : Location) (index : Value) : Engine → Except Fault (Value × Engine) :=
  atKey loc <| alter loc fun items => do
    match ← index.placeIn items.length with
    | some i => return (ok, some (items.eraseIdx i))
    | none => return (failing .indexOutOfRange, none)

/-- Replaces all elements by those in frames. -/
def arraySetAll (loc : Location) (data : Bytes) (count : Int) :
    Engine → Except Fault (Value × Engine) :=
  alter loc fun _ =>
    match Bytes.unframe count.toNat data with
    | some parts => return (ok, some (parts.map .bytes))
    | none => throw .badSlot

/-- The elements of a map whose key is not the given one. -/
def withoutKey (key : Bytes) (items : List Value) : Except Fault (List Value) := do
  let pairs ← items.mapM pairOf
  return (pairs.filter fun p => p.1 != .bytes key).map fun p => .list [p.1, p.2]

/-- The value of the first element of a map with a key. Those behind it are not looked at. -/
def valueOf (key : Bytes) : List Value → Except Fault (Option Value)
  | [] => .ok none
  | element :: rest => do
    let (k, v) ← pairOf element
    if k == .bytes key then return some v
    valueOf key rest

/-- The value of a key, cut to a size. -/
def mapFind (loc : Location) (key : Bytes) (size : Nat) :
    Engine → Except Fault (Value × Value) :=
  look loc (.bytes []) fun items => do
    match ← valueOf key items with
    | some v => return (ok, ← v.cut size)
    | none => return (failing .propertyNotFound, .bytes [])

/-- Adds a key with a value at the end; the key's old entry goes. -/
def mapAdd (loc : Location) (key value : Bytes) : Engine → Except Fault (Value × Engine) :=
  alter loc fun items => do
    return (ok, some ((← withoutKey key items) ++ [.list [.bytes key, .bytes value]]))

/-- Removes a key. -/
def mapRemove (loc : Location) (key : Bytes) : Engine → Except Fault (Value × Engine) :=
  alter loc fun items => do
    let rest ← withoutKey key items
    if rest.length < items.length then return (ok, some rest)
    return (failing .propertyNotFound, none)

/-- The key and the value at an index, cut to sizes. -/
def mapPair (loc : Location) (index : Value) (keySize valueSize : Nat) :
    Engine → Except Fault (Value × Value × Value) :=
  atKey loc <| look loc (.bytes [], .bytes []) fun items => do
    match ← index.placeIn items.length with
    | some i =>
      let (key, value) ← pairOf (items.getD i .null)
      return (ok, ← key.cut keySize, ← value.cut valueSize)
    | none => return (failing .indexOutOfRange, .bytes [], .bytes [])

/-- Whether an element is there; this also works when the owner is gone. -/
def setContains (loc : Location) (data : Bytes) (e : Engine) : Except Fault Value := do
  discard (asKey loc)
  return .bool ((e.items loc).any fun element => element == .bytes data)

/-- Appends an element unless it is there. -/
def setAdd (loc : Location) (data : Bytes) : Engine → Except Fault (Value × Engine) :=
  alter loc fun items =>
    return (ok, if items.any fun element => element == .bytes data then none
      else some (items ++ [.bytes data]))

/-- Removes an element. -/
def setRemove (loc : Location) (data : Bytes) : Engine → Except Fault (Value × Engine) :=
  atKey loc <| alter loc fun items =>
    if items.any fun element => element == .bytes data then
      return (ok, some (items.eraseP fun element => element == .bytes data))
    else return (failing .propertyNotFound, none)

/-- A new temporary. -/
def allocTemp : Act Engine Value := do
  let base ← newHandle
  change fun e => { e with temporaries := base :: e.temporaries, allocated := e.allocated + 1 }
  return .int base

/-- Frees a temporary, and its container for a property. -/
def freeTemp (prop base : Value) : Act Engine Unit := do
  change fun e => { e with freed := e.freed + 1 }
  discard (Act.ofExcept base.asKey)
  change fun e => { e with temporaries := without base e.temporaries }
  discard (Act.ofExcept prop.asKey)
  change fun e => { e with containers := e.containers.erase (base, prop) }

/-! ## Delegates -/

/-- The callbacks bound to a delegate. -/
def bound (e : Engine) (loc : Location) : List Int := (e.bindings.get? loc).getD []

/-- A change of the callbacks bound to a delegate. -/
def bindTo (loc : Location) (f : List Int → List Int) (e : Engine) :
    Except Fault (Value × Engine) := do
  discard (asKey loc)
  return (ok, { e with bindings := e.bindings.set loc (f (e.bound loc)) })

/-- Binds a delegate to one callback. -/
def bind (loc : Location) (id : Int) : Engine → Except Fault (Value × Engine) :=
  bindTo loc fun _ => [id]

/-- Drops the bindings of a delegate. -/
def unbind (loc : Location) (e : Engine) : Except Fault (Value × Engine) := do
  discard (asKey loc)
  return (ok, { e with bindings := e.bindings.erase loc })

/-- Binds a delegate to one more callback. -/
def addMulticast (loc : Location) (id : Int) : Engine → Except Fault (Value × Engine) :=
  bindTo loc (· ++ [id])

/-- Drops the first binding of a delegate to a callback. -/
def removeMulticast (loc : Location) (id : Int) (e : Engine) :
    Except Fault (Value × Engine) := do
  discard (asKey loc)
  if (e.bound loc).contains id then bindTo loc (·.erase id) e
  else return (failing .invalidOperation, e)

end Bindery.Engine
