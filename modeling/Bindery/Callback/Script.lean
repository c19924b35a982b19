import Bindery.Callback.Registry
import Bindery.Value.Equality

/-!
# Scripted callbacks

Callbacks given by a list of actions. An action may use the registry that the callback itself is
registered in, so callbacks can start each other, remove each other and register new ones.

An action is a list of its name and its operands. The actions of a callback are looked at one by one
when it runs, so an action that is no action of its name fails there, after those before it.

* `Callback`: the scripts.
* `Surroundings`: what the actions work on besides the registry.
* `Callback.invoke`: runs the callback at an id. Callbacks nest up to `nestingLimit`.
-/

namespace Bindery

/-- A scripted callback. -/
structure Callback where
  label : Value
  actions : Value := .list []

/-- What actions work on. A run of a callback is known by a number. -/
structure Surroundings (σ : Type) where
  registry : Part σ (Registry Callback)
  /-- A run of the callback with a label starts, with the address of its parameters: its number. -/
  started : Value → Value → Act σ Nat
  /-- The value of a slot in the block of parameters, given its offset and its tag. -/
  readParam : Value → Value → Value → Act σ Value
  /-- A run starts to read, or has read values. -/
  noteRead : Nat → List Value → Act σ Unit
  /-- A run has counted the registrations. -/
  noteCount : Nat → Nat → Act σ Unit
  /-- Undoes the binding with a number. -/
  unbind : Value → Act σ Unit

/-- How deeply callbacks may nest. -/
def nestingLimit : Nat := 1000

namespace Callback

variable {σ : Type} (env : Surroundings σ)

/-- Removes the callback at an id. No callback has an id that is no number. -/
def remove (registry : Part σ (Registry Callback)) (id : Value) : Act σ Unit := do
  if let some id ← Act.ofExcept id.keyNumber then
    registry.modify (Registry.unregister id)

/-- Registers a callback: its id. -/
def add (registry : Part σ (Registry Callback)) (label actions : Value) : Act σ Int :=
  registry.run (Registry.register { label, actions })

/-- An action of a run, given its name and its operands, where `start` starts another callback with
the same parameters. What is not the name of an action does nothing. -/
def perform (start : Value → Act σ Unit) (params : Value) (run : Nat) (name : String)
    (operands : List Value) : Act σ Unit :=
  match name, operands with
  | "read", _ => do
    env.noteRead run []
    match operands with
    | [offset, tag] => env.noteRead run [← env.readParam params offset tag]
    | _ => throw .wrongType
  | "raise", _ => throw .user
  | "register", [label] => discard (add env.registry label (.list []))
  | "register", [label, actions] => discard (add env.registry label actions)
  | "unregister", [id] => remove env.registry id
  | "register", _ | "unregister", _ => throw .wrongType
  | "invoke", id :: _ => start id
  | "unbind", binding :: _ => env.unbind binding
  | "invoke", [] | "unbind", [] => throw .noSuchIndex
  | "clear", _ => env.registry.modify fun _ => Registry.clear
  | "count", _ => do env.noteCount run (← env.registry.read).size
  | _, _ => return ()

/-- An action of a run. -/
def act (start : Value → Act σ Unit) (params : Value) (run : Nat) (action : Value) :
    Act σ Unit := do
  match ← Act.ofExcept action.items with
  | .text name :: operands => perform env start params run name operands
  | _ :: _ => return ()
  | [] => throw .malformed

/-- Runs the callback at an id, with callbacks nested up to a depth. -/
def invokeWithin : Nat → Value → Value → Act σ Unit
  | 0, _, _ => throw .tooDeep
  | depth + 1, params, id => do
    if let some id ← Act.ofExcept id.keyNumber then
      Registry.invoke env.registry (fun callback => do
        let run ← env.started callback.label params
        (← Act.ofExcept callback.actions.items).forM
          (act env (invokeWithin depth params) params run)) id

/-- Runs the callback at an id with the address of its parameters. -/
def invoke (params id : Value) : Act σ Unit := invokeWithin env nestingLimit params id

/-- Runs the callback at an id for a host, which cannot take a failure. -/
def invokeFromHost (params id : Value) : Act σ Unit :=
  tryCatch (invoke env params id) fun _ => return ()

end Callback
end Bindery
