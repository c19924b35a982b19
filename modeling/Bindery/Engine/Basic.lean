import Bindery.Host.Primitives
import Bindery.Memory
import Bindery.Value.Document
import Bindery.Value.Order

/-!
# An engine in memory

A host without a game behind it: objects that can be spawned and destroyed, handles that are made
when they are first asked for, names, properties, containers and delegates. Any of its primitives
can be given a fault, which it then answers instead of doing its work.

The engine gives out integers for handles, but it is asked about any values. A value that cannot be
the key of a table cannot be asked about, and one that was not given out belongs to nothing.

* `Engine`: the state of an engine.
* `Engine.spawn`, `destroy`: the life of an object.
* `Engine.handleFor`: the handle of what is looked up.
* `Engine.faulty`: a primitive that may have a fault.
* `Engine.applyEffects`: what a function that was called does to its parameters.
-/

namespace Bindery

open Host

/-- The kinds of things that handles are made for. -/
inductive LookupKind where
  | cls
  | struct
  | property
  | function
  | parameter
deriving DecidableEq, Repr

/-- What a handle was made for: a class or struct by its name, or a member of something. -/
structure LookupKey where
  kind : LookupKind
  owner : Value := .null
  name : Value
deriving BEq

/-- A function of the engine: its effects in order, and the code it answers. -/
structure EngineFunction where
  effects : Value := .list []
  code : Value := .int 0

/-- A call of a function, with the block of parameters before its effects. -/
structure CallRecord where
  function : Value
  obj : Value
  params : Bytes

/-- The properties of the engine are addressed by an object and a property. -/
abbrev Location := Value × Value

/-- An engine in memory. -/
structure Engine where
  /-- The handle that was given out last. -/
  lastHandle : Int := 0x1000
  /-- The objects that have been spawned and not destroyed. -/
  live : List Int := []
  /-- The temporaries that have been allocated and not freed. -/
  temporaries : List Int := []
  handles : Assoc LookupKey Int := []
  /-- The names that look-ups do not find. -/
  missing : List Value := []
  /-- The offsets of parameters by their names. -/
  offsets : Assoc Value Value := []
  names : List Value := [.text "None"]
  /-- The objects behind weak references, the first one at index one. -/
  weak : List Value := []
  /-- What primitives answer instead of doing their work, by their names. -/
  faults : Assoc Value Value := []
  functions : Assoc Value EngineFunction := []
  scalars : Assoc (ScalarKind × Location) Scalar := []
  texts : Assoc Location Bytes := []
  structs : Assoc Location Bytes := []
  elements : Assoc (Location × Value) Bytes := []
  /-- The elements of containers; those of a map are pairs of a key and a value. -/
  containers : Assoc Location (List Value) := []
  bindings : Assoc Location (List Int) := []
  memory : Cells := .zero
  /-- The address of the next block of memory; memory is not used twice. -/
  nextAddress : Int := 0x10000000
  /-- The blocks of parameters that have been allocated and not freed. -/
  blocks : List Int := []
  allocated : Nat := 0
  freed : Nat := 0
  freedBlocks : Nat := 0

namespace Engine

/-- Number of bytes of a block of parameters. -/
def blockSize : Nat := 64

/-- A change of the engine. -/
def change (f : Engine → Engine) : Act Engine Unit := Act.update f

/-- A new handle. -/
def newHandle : Act Engine Int :=
  Act.lift fun e => (e.lastHandle + 16, { e with lastHandle := e.lastHandle + 16 })

/-- A new object. -/
def spawn : Act Engine Int := do
  let h ← newHandle
  change fun e => { e with live := h :: e.live }
  return h

/-- Whether a value is one of some integers. -/
def isAmong (v : Value) (integers : List Int) : Except Fault Bool := do
  let key ← v.asKey
  return integers.any fun n => key == .int n

/-- The integers that differ from a value. -/
def without (v : Value) (integers : List Int) : List Int := integers.filter fun n => v != .int n

/-- The end of an object; its handle stays known. -/
def destroy (obj : Value) (e : Engine) : Engine := { e with live := without obj e.live }

/-- Whether a handle belongs to a live object. -/
def isLive (e : Engine) (h : Value) : Except Fault Bool := isAmong h e.live

/-- Whether a handle belongs neither to a live object nor to a live temporary. -/
def isGone (e : Engine) (h : Value) : Except Fault Bool :=
  not <$> isAmong h (e.live ++ e.temporaries)

/-- Makes a name unknown to look-ups. -/
def forget (name : Value) (e : Engine) : Engine := { e with missing := name :: e.missing }

/-- The handle for a key, made on first use; a missing name has none. -/
def handleFor (key : LookupKey) : Act Engine Value := do
  discard (Act.ofExcept key.name.asKey)
  let e ← Part.whole.read
  if e.missing.any (· == key.name) then return .null
  discard (Act.ofExcept key.owner.asKey)
  match e.handles.get? key with
  | some h => return .int h
  | none =>
    let h ← newHandle
    change fun e => { e with handles := e.handles.set key h }
    return .int h

/-- The name of what a handle was made for, null for any other value. -/
def nameOf (e : Engine) (h : Value) : Except Fault Value := do
  let key ← h.asKey
  return ((e.handles.find? fun entry => key == .int entry.2).map (·.1.name)).getD .null

/-- The offset of a parameter, zero if none was given for its name. -/
def offsetOf (e : Engine) (h : Value) : Except Fault Value := do
  return (e.offsets.get? (← e.nameOf h)).getD (.int 0)

/-- A primitive that answers its fault if it has one, and otherwise does its work. -/
def faulty {α : Type} (primitive : String) (answer : Value → α) (work : Act Engine α) :
    Act Engine α := do
  match (← Part.whole.read).faults.get? (.text primitive) with
  | some value => return answer value
  | none => work

/-! ## Objects and names -/

/-- Hexadecimal digits of an address. -/
def hexText (n : Int) : String :=
  (if n < 0 then "-" else "") ++ String.ofList (Nat.toDigits 16 n.natAbs)

/-- The name of an object, by its address. -/
def objectName (h : Value) : Except Fault Value := do
  return .text ("Object_" ++ hexText (← h.index))

/-- The index of a name, added to the table when it is new. -/
def makeName (name : Value) : Act Engine Value :=
  Act.lift fun e =>
    let index := e.names.findIdx fun n => n == name
    (.int index, if index < e.names.length then e else { e with names := e.names ++ [name] })

/-- The name at an index, empty behind the last one. A negative index counts from the end. -/
def nameText (index : Value) (e : Engine) : Except Fault Value := do
  let size := e.names.length
  if ← index.less (.int size) then return e.names.getD (← index.position size) .null
  else return .text ""

/-- A new weak reference. -/
def makeWeak (h : Value) : Act Engine Value :=
  Act.lift fun e => (.int (e.weak.length + 1), { e with weak := e.weak ++ [h] })

/-- The object that a weak reference was made for, null if there is none. -/
def weakTarget (index : Value) (e : Engine) : Except Fault Value := do
  match (← index.keyNumber) with
  | some i => return if 1 ≤ i then e.weak.getD (i - 1).toNat .null else .null
  | none => return .null

/-- The object of a weak reference while it is live. -/
def resolveWeak (index : Value) (e : Engine) : Except Fault Value := do
  let h ← weakTarget index e
  return if ← e.isLive h then h else .null

/-! ## Memory and calls -/

/-- A new block of memory with the given bytes. -/
def place (data : Bytes) : Act Engine Int :=
  Act.lift fun e =>
    (e.nextAddress, { e with
      memory := e.memory.write e.nextAddress data
      nextAddress := e.nextAddress + max data.length blockSize })

/-- A new block of parameters, filled with zeros. -/
def allocParams : Act Engine Value := do
  let address ← place (List.replicate blockSize 0)
  change fun e => { e with blocks := address :: e.blocks }
  return .int address

/-- Frees a block of parameters, which has to be there. -/
def freeParams (params : Value) : Act Engine Unit := do
  change fun e => { e with freedBlocks := e.freedBlocks + 1 }
  let e ← Part.whole.read
  if !(← Act.ofExcept (isAmong params e.blocks)) then throw .noSuchKey
  change fun e => { e with blocks := without params e.blocks }

/-- An effect on the block at an address, with the operands that follow its name: a write has an
offset and the digits of its bytes, all else copies from one offset to another one a number of
bytes. -/
def applyEffect (base effect : Value) (cells : Cells) : Except Fault Cells := do
  if (← effect.item 0) == .text "write" then
    let target ← base.plus (← effect.item 1)
    let data ← (← effect.item 2).hexBytes
    return cells.write (← Word.number target) data
  else
    let target ← base.plus (← effect.item 2)
    let source ← base.plus (← effect.item 1)
    let size ← Word.number (← effect.item 3)
    return cells.write (← Word.number target) (cells.read (← Word.number source) size.toNat)

/-- The effects of a function on the block at an address, one by one. -/
def applyEffects (base : Value) : List Value → Act Engine Unit
  | [] => return ()
  | effect :: rest => do
    let cells ← Act.ofExcept (applyEffect base effect (← Part.whole.read).memory)
    change fun e => { e with memory := cells }
    applyEffects base rest

/-- A call of a function, recorded before its effects, and the function; one that was given no
effects succeeds. -/
def prepareCall (obj func params : Value) (e : Engine) :
    Except Fault (CallRecord × EngineFunction) := do
  let name ← e.nameOf func
  let block := e.memory.read (← Word.number params) blockSize
  return (⟨name, obj, block⟩, (e.functions.get? name).getD {})

end Engine
end Bindery
