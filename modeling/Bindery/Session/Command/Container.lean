import Bindery.Container.Method
import Bindery.Session.Command.Fields
import Bindery.Session.Delegate

/-!
# Commands on containers, callbacks and calls

* `Command.callbacks`: callbacks, and the delegates that they are bound to.
* `Command.calls`: calls by name.
* `Command.binding`, `Command.call`: scopes that end with a binding undone, or with a call closed.
* `Command.containers`: methods of containers, containers as a whole, and single elements.
* `Command.temporaries`: a scope with temporary containers.
-/

namespace Bindery.Command

/-! ## Callbacks and calls -/

/-- The scripted callback in the fields of a command. -/
def callback (fields : Fields) : Act Session Callback := do
  return ⟨← fields.value "label", fields.valueD "actions" (.list [])⟩

/-- Binds the callback in the fields to a delegate. -/
def bind (fields : Fields) : Act Session Value := do
  let index ← Session.bind (← fields.value "owner") (← fields.value "prop")
    (fields.flag "multicast") (← callback fields)
  let b ← Session.binding (.int index)
  return .table [(.text "binding", .int index), (.text "id", .int b.id),
    (.text "multicast", .bool b.multicast)]

/-- The commands on callbacks. -/
def callbacks : Commands
  | "register" => some ⟨["label"], ["actions"], fun fields => do
    return .int (← Session.registryPart.run (Registry.register (← callback fields)))⟩
  | "unregister" => some (taking ["id"] fun fields => do
    done (Callback.remove Session.registryPart (← fields.value "id")))
  | "clear_callbacks" => some (plain
    (done (Session.registryPart.modify fun _ => Registry.clear)))
  | "invoke" => some ⟨["id"], ["params", "via_host"], fun fields => do
    done (Session.invoke (← fields.value "id") (fields.valueD "params" .null)
      (fields.flag "via_host"))⟩
  | "bind" => some ⟨["owner", "prop", "label"], ["multicast", "actions"], bind⟩
  | "unbind" => some (taking ["binding"] fun fields => do
    done (Session.unbind (← fields.value "binding")))
  | "bound" => some (taking ["binding"] fun fields => do
    return .bool (← Session.binding (← fields.value "binding")).bound)
  | "broadcast" => some ⟨["owner", "prop"], ["params"], fun fields => do
    return .int (← Session.broadcast (← fields.value "owner") (← fields.value "prop")
      (fields.valueD "params" .null))⟩
  | _ => none

/-- The commands on calls by name. -/
def calls : Commands
  | "dyn" => some (taking ["obj", "func"] fun fields => do
    let obj ← fields.value "obj"
    return .int (← Session.openCall obj (← fields.value "func")))
  | "dyn_set" => some (taking ["call", "sets"] fun fields => do
    let call ← fields.value "call"
    Session.setParams call (← fields.value "sets")
    return .bool true)
  | "dyn_get" => some (taking ["call", "name", "wire"] fun fields => do
    let call ← fields.value "call"
    let param ← fields.value "name"
    Session.getParam call param (← fields.value "wire"))
  | "dyn_call" => some (taking ["call"] fun fields => do
    Session.performCall (← fields.value "call")
    return .bool true)
  | "dyn_close" => some (taking ["call"] fun fields => do
    done (Session.closeCall (← fields.value "call")))
  | _ => none

/-- A scope that gets what it was opened with. -/
def same : Fields := [("same", .bool true)]

/-- A scope that ends with a binding undone. -/
def binding : Scope where
  required := ["binding", "steps"]
  run fields inside := do Session.withBinding (← fields.value "binding") (inside same)

/-- A scope that ends with a call closed. -/
def call : Scope where
  required := ["call", "steps"]
  run fields inside := do Session.withCall (← fields.value "call") (inside same)

/-! ## Containers -/

open Host

/-- All codecs that are given. -/
def codecs (fields : Fields) : Act Session (List ElementCodec) := do
  (← (← fields.value "codecs").items).mapM fun v => ElementCodec.ofValue v

/-- The codecs of a container of a shape: an array and a set only look at the first one. -/
def codecsOf (shape : Shape) (fields : Fields) : Act Session (List ElementCodec) := do
  if shape = .map then codecs fields
  else return [← ElementCodec.ofValue (← (← fields.value "codecs").item 0)]

/-- The container of an owner. -/
def view (fields : Fields) (owner : String) : Act Session (View Session) := do
  return ⟨Session.dispatch, ← fields.value owner, ← fields.value "prop"⟩

/-- The shape with a name. -/
def shape? (name : String) : Option Shape := [Shape.array, .map, .set].find? fun s => s.tag = name

/-- The shape in a field. -/
def shape (fields : Fields) : Act Session Shape := do
  match ← fields.value "kind" with
  | .text name => match shape? name with
    | some shape => return shape
    | none => throw .noSuchMember
  | _ => throw .noSuchMember

/-- The size of an element of the first codec, with an element that is read or else written. -/
def element (fields : Fields) : Act Session Value := do
  let codec ← ElementCodec.ofValue (← (← fields.value "codecs").item 0)
  let size ← codec.bufferSize
  let result ←
    match fields.valueD "decode" .null with
    | .null => Value.bytes <$> codec.encode (fields.valueD "encode" .null)
    | data => codec.decodeValue data
  return .list [.int size, result]

/-- Calls a method of a container of a shape. -/
def callView (shape : Shape) (fields : Fields) : Act Session Value := do
  let codecs ← codecsOf shape fields
  let view ← view fields "owner"
  view.call shape codecs (← fields.text "m") fields.args

/-- The commands on containers. -/
def containers : Commands
  | "codec" => some ⟨["codecs"], ["encode", "decode"], element⟩
  | "write" => some (taking ["kind", "base", "prop", "codecs", "values"] fun fields => do
    let shape ← shape fields
    let view ← view fields "base"
    let codecs ← codecs fields
    done (view.populate shape codecs (← fields.value "values")))
  | "read" => some (taking ["kind", "base", "prop", "codecs"] fun fields => do
    let shape ← shape fields
    let view ← view fields "base"
    view.contents shape (← codecs fields))
  | name => (shape? name).map fun shape =>
    ⟨["owner", "prop", "codecs", "m"], ["args"], callView shape⟩

/-- A scope with a temporary container for each of some properties. -/
def temporaries : Scope where
  required := ["props", "steps"]
  run fields inside := do
    Session.withTemporaries (← (← fields.value "props").items) fun bases =>
      inside [("bases", .list bases)]

end Bindery.Command
