import Bindery.Handle.Reference
import Bindery.Host.Code
import Bindery.Memory
import Bindery.Value.Order
import Bindery.Wire.Pack

/-!
# Calls by name

Calls of functions that the bindings do not cover. A call owns a block of memory for the function's
parameters, which are located by their names. Nothing relates the slot type of an access to the type
of the parameter.

* `DynamicCall`: a call, with its block until it is closed.
* `openCall`: a new call on an object.
* `setParam`, `getParam`: a parameter as the value of a slot.
* `perform`, `close`: calls the function, and frees the block once.
-/

namespace Bindery

open Host

/-- A call of a function on an object. -/
structure DynamicCall where
  obj : Value
  func : Value
  name : Value
  /-- The address of the block of parameters, null once the call is closed. -/
  params : Value
deriving Inhabited

namespace DynamicCall

variable {σ : Type} (dispatch : Act σ (Primitives σ)) (memory : Part σ Cells)

/-- A call of a function on whatever can stand for an object that is there. -/
def openCall (obj name : Value) : Act σ DynamicCall := do
  let raw := (← obj.rawHandle).orNull
  Reference.checked dispatch raw
  let host ← dispatch
  let func ← host.findIn .function raw name
  if !func.isTruthy then throw (.ofKind .functionNotFound (← name.spoken))
  let params ← host.allocParams func
  if !params.isTruthy then
    throw (.ofKind .internal ("alloc_params returned null for " ++ (← name.spoken)))
  return ⟨raw, func, name, params⟩

/-- The address of the block of a call, which must not be closed. -/
def block (c : DynamicCall) : Act σ Value := do
  if c.params.isTruthy then return c.params
  throw (.ofKind .invalidOperation ((← c.name.spoken) ++ " call already closed"))

/-- The address of a parameter. -/
def address (c : DynamicCall) (param : Value) : Act σ Value := do
  let base ← c.block
  let host ← dispatch
  let prop ← host.findIn .parameter c.func param
  if !prop.isTruthy then
    throw (.ofKind .propertyNotFound ((← c.name.spoken) ++ "." ++ (← param.spoken)))
  base.plus (← host.measure .propertyOffset prop)

/-- The bytes of an argument. Whatever can stand for an object or a name may be given as one. -/
def argument (tag v : Value) : Except Fault Bytes := do
  let reduced ←
    if tag == .text Wire.handle.tag then v.rawHandle
    else if tag == .text Wire.name.tag then v.nameIndex
    else pure v
  (← Wire.ofValue tag).pack reduced

/-- Writes a parameter. -/
def setParam (c : DynamicCall) (param v tag : Value) : Act σ Unit := do
  let data ← argument tag v
  let a ← Word.number (← c.address dispatch param)
  memory.modify fun cells => cells.write a data

/-- Reads a parameter. -/
def getParam (c : DynamicCall) (param tag : Value) : Act σ Value := do
  let a ← c.address dispatch param
  let w ← Wire.ofValue tag
  w.unpack ((← memory.read).read (← Word.number a) w.size)

/-- Calls the function; an error of a look-up carries its name. -/
def perform (c : DynamicCall) : Act σ Unit := do
  let base ← c.block
  Code.checkNamed (← (← dispatch).callFunction c.obj c.func base) c.name

/-- Closes a call and frees its block; a closed call stays closed. -/
def close (call : Part σ DynamicCall) : Act σ Unit := do
  let c ← call.read
  if c.params.isTruthy then
    call.modify fun c => { c with params := .null }
    (← dispatch).freeParams c.func c.params

end DynamicCall
end Bindery
