import Bindery.Container.Temporary
import Bindery.Session.Connection

/-!
# Delegates and calls of a session

* `Session.bind`, `Session.withBinding`: callbacks bound to delegates, known by numbers.
* `Session.invoke`, `Session.broadcast`: fire a callback, and all that are bound to a delegate.
* `Session.openCall`, `Session.withCall`: calls by name, known by numbers.
* `Session.withTemporaries`: a scope with temporary containers.
-/

namespace Bindery.Session

variable {α : Type}

/-- Binds a callback to a delegate: the number of the binding. -/
def bind (owner prop : Value) (multicast : Bool) (callback : Callback) : Act Session Nat := do
  let b ← bindDelegate dispatch registryPart owner prop multicast callback
  Act.update fun s => { s with bindings := s.bindings ++ [b] }
  return (← state).bindings.length - 1

/-- The binding with a number. -/
def binding (index : Value) : Act Session DelegateBinding := do
  (bindingPart (← index.position (← state).bindings.length)).read

/-- Runs a body and undoes a binding. -/
def withBinding (index : Value) (body : Act Session α) : Act Session α := do
  discard (binding index)
  Act.ensuring body (unbind index)

/-- The address of a block with the bytes of parameters, null if there are none. -/
def placeParams (params : Value) : Act Session Value :=
  match params with
  | .null => return .null
  | .bytes data => place data
  | _ => throw .wrongType

/-- Fires the callback at an id, with the bytes of its parameters if there are any. A host passes
ids as machine words and cannot take a failure. -/
def invoke (id params : Value) (byHost : Bool) : Act Session Unit := do
  let address ← placeParams params
  if byHost then
    let word := UInt64.ofInt (← Host.Word.number id)
    Callback.invokeFromHost surroundings address (.int word.toNat)
  else Callback.invoke surroundings address id

/-- Fires a delegate: the code. -/
def broadcast (owner prop params : Value) : Act Session Int := do
  (← (← dispatch).broadcast owner prop params).toInt

/-- Opens a call by name: its number. -/
def openCall (obj name : Value) : Act Session Nat := do
  let c ← DynamicCall.openCall dispatch obj name
  Act.update fun s => { s with calls := s.calls ++ [c] }
  return (← state).calls.length - 1

/-- The place of the call with a number. -/
def findCall (index : Value) : Act Session (Part Session DynamicCall) := do
  return callPart (← index.position (← state).calls.length)

/-- Writes parameters of a call one by one. -/
def setParams (index params : Value) : Act Session Unit := do
  let call ← findCall index
  (← params.items).forM fun param => do
    match ← param.items with
    | [name, v, tag] => (← call.read).setParam dispatch memoryPart name v tag
    | _ => throw .malformed

/-- The value of a parameter of a call. -/
def getParam (index name tag : Value) : Act Session Value := do
  (← (← findCall index).read).getParam dispatch memoryPart name tag

/-- Performs a call. -/
def performCall (index : Value) : Act Session Unit := do
  (← (← findCall index).read).perform dispatch

/-- Closes a call. -/
def closeCall (index : Value) : Act Session Unit := do
  DynamicCall.close dispatch (← findCall index)

/-- Runs a body and closes a call. -/
def withCall (index : Value) (body : Act Session α) : Act Session α := do
  discard (findCall index)
  Act.ensuring body (closeCall index)

/-- Runs a body in a scope with a temporary container for each property. -/
def withTemporaries (props : List Value) (body : List Value → Act Session α) : Act Session α :=
  Bindery.withTemporaries dispatch props fun bases => do
    Act.update fun s => { s with bases := bases :: s.bases }
    Act.ensuring (body bases) (Act.update fun s => { s with bases := s.bases.tail })

/-- A temporary of the innermost scope. -/
def temporary (index : Value) : Act Session Value := do
  match (← state).bases with
  | bases :: _ => return bases.getD (← index.position bases.length) .null
  | [] => throw .noSuchIndex

end Bindery.Session
