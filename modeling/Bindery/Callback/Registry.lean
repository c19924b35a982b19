import Bindery.Association
import Bindery.Effect
import Bindery.Host.Code
import Bindery.Host.Primitives

/-!
# Callback registry

Callbacks under the ids by which a host fires them. A callback is taken out while it runs, so it
does not start again under the same registration, and it is put back afterwards unless its
registration was removed or its id given to another one meanwhile.

* `Registry β`: the callbacks, of any type.
* `Registry.register`, `unregister`, `clear`: what can be done with registrations.
* `Registry.invoke`: runs a callback.
* `DelegateBinding`: a callback bound to a delegate of a host object, with one callback or many.
* `bindDelegate`: registers a callback and has the host bind it.
* `DelegateBinding.unbind`: removes the callback and has the host drop it.
-/

namespace Bindery

/-- Callbacks by their ids, and the next id. A callback that is running is absent from its place. -/
structure Registry (β : Type) where
  slots : Assoc Int (Option β) := []
  nextId : Int := 1

namespace Registry

variable {β : Type}

/-- Number of registrations, running ones included. -/
def size (r : Registry β) : Nat := r.slots.length

/-- The callback at an id that is not running. -/
def idle? (r : Registry β) (id : Int) : Option β := (r.slots.get? id).join

/-- Whether an id is registered and its callback absent. -/
def isVacant (r : Registry β) (id : Int) : Bool := (r.slots.get? id).any Option.isNone

/-- A new registration: its id. Ids count up. -/
def register (callback : β) : StateM (Registry β) Int :=
  modifyGet fun r => (r.nextId, ⟨r.slots.set r.nextId (some callback), r.nextId + 1⟩)

/-- The registry without an id. -/
def unregister (id : Int) (r : Registry β) : Registry β := { r with slots := r.slots.erase id }

/-- The empty registry; ids start again. -/
def clear : Registry β := {}

/-- The registry with the callback at an id taken out. -/
def takeOut (id : Int) (r : Registry β) : Registry β := { r with slots := r.slots.set id none }

/-- The registry with a callback put back, if its place is still kept for it. -/
def putBack (id : Int) (callback : β) (r : Registry β) : Registry β :=
  if r.isVacant id then { r with slots := r.slots.set id (some callback) } else r

/-- Runs the callback at an id. Nothing happens if there is none or if it is running. -/
def invoke {σ : Type} (registry : Part σ (Registry β)) (run : β → Act σ Unit) (id : Int) :
    Act σ Unit := do
  match (← registry.read).idle? id with
  | none => return ()
  | some callback =>
    registry.modify (takeOut id)
    Act.ensuring (run callback) (registry.modify (putBack id callback))

end Registry

/-! ## Bound callbacks -/

open Host

/-- A callback bound to a delegate. -/
structure DelegateBinding where
  id : Int
  owner : Value
  prop : Value
  multicast : Bool
  bound : Bool := true
deriving Inhabited

variable {σ β : Type} (dispatch : Act σ (Primitives σ)) (registry : Part σ (Registry β))

/-- Binds a callback to a delegate. If the host refuses, the registration is undone. -/
def bindDelegate (owner prop : Value) (multicast : Bool) (callback : β) :
    Act σ DelegateBinding := do
  let id ← registry.run (Registry.register callback)
  let host ← dispatch
  let code ← if multicast then host.addMulticast owner prop id else host.bind owner prop id
  if !Code.isOk code then
    registry.modify (Registry.unregister id)
    Code.accept code
  return { id, owner, prop, multicast }

/-- Undoes a binding, once. The callback is removed, and the host is told if there is one; what it
answers does not matter. -/
def DelegateBinding.unbind (initialized : Act σ Bool) (binding : Part σ DelegateBinding) :
    Act σ Unit := do
  let b ← binding.read
  if b.bound then
    binding.modify fun b => { b with bound := false }
    registry.modify (Registry.unregister b.id)
    if ← initialized then
      let host ← dispatch
      let _ ← if b.multicast then host.removeMulticast b.owner b.prop b.id
        else host.unbind b.owner b.prop

end Bindery
