import Bindery.Handle.Member
import Bindery.Session.Cell
import Bindery.Session.Command.Container
import Bindery.Session.Command.Fields
import Bindery.Session.Command.Guest
import Bindery.Session.Connection
import Bindery.Session.State

/-!
# Commands of a session

What a session can be told to do.

* `Command.cells`: cells of cached values, and slots of generated functions.
* `Command.connection`: the connection to the engine.
* `Command.engine`: what the engine itself is told to do.
* `Command.values`: what references, names and structs can be asked for.
* `Command.classes`: definitions of classes, and look-ups.
* `Session.command?`: the command with a name.
* `Session.scope?`: the scope with a name.
* `Session.undecoded`: the fields that commands look into themselves.
-/

namespace Bindery.Command

/-! ## Cached values -/

/-- An empty cell of a kind: one for a single value, or else one with keys. -/
def emptyCell (kind : Value) : Cell := if kind == .text "once" then .once [] else .keyed []

/-- Asks a cell for its value. A missing key is null. -/
def initialise (fields : Fields) : Act Session Value := do
  let given := fun key => (fields.value? key).filter fun v => !v.isNull
  Session.initCell (← fields.value "id") (given "key")
    ⟨← fields.value "value", given "inner", fields.flag "fail"⟩

/-- The commands on cells. -/
def cells : Commands
  | "cell" => some ⟨["id"], ["kind"], fun fields => do
    done (Session.addCell (← fields.value "id")
      (emptyCell (fields.valueD "kind" (.text "once"))))⟩
  | "cell_init" => some ⟨["id", "value"], ["key", "inner", "fail"], initialise⟩
  | "cell_get" => some (taking ["id"] fun fields => do Session.getCell (← fields.value "id"))
  | "cell_len" => some (taking ["id"] fun fields => do
    return .int (← Session.cellSize (← fields.value "id")))
  | "cell_clear" => some (taking ["id"] fun fields => do
    done (Session.clearCell (← fields.value "id")))
  | "reset_all" => some (plain (done (Act.update Session.resetCaches)))
  | "slot" => some (taking ["id", "func_id"] fun fields => do
    done (Session.addCell (← fields.value "id") (.slot (← fields.value "func_id") [])))
  | "resolve" => some (taking ["id"] fun fields => do
    return .list [.text "resolved", ← Session.resolveSlot (← fields.value "id")])
  | _ => none

/-! ## The host -/

/-- The connection. -/
def connection : Commands
  | "init" => some ⟨[], ["mode", "version", "table"], fun fields => do
    let c ← Session.connect (fields.valueD "mode" .null == .text "native")
      (fields.valueD "version" (.int Session.interfaceVersion)) (fields.valueD "table" (.list []))
    return .table [(.text "version", c.version), (.text "func_table", .list c.functions)]⟩
  | "shutdown" => some (plain (done (Act.update Session.shutdown)))
  | "is_init" => some (plain (.bool <$> Session.isConnected))
  | "func_table" => some (plain do return .list (← Session.connected).functions)
  | _ => none

/-- A change of the engine. -/
def change (f : Engine → Engine) : Act Session Value := done (Session.enginePart.modify f)

/-- Changes of the engine. -/
def engineChanges : Commands
  | "destroy" => some (taking ["obj"] fun fields => do
    change (Engine.destroy (← fields.asKey "obj")))
  | "fault" => some (taking ["prim", "value"] fun fields => do
    let primitive ← fields.asKey "prim"
    let v ← fields.value "value"
    change fun e => { e with faults := e.faults.set primitive v })
  | "unfault" => some (taking ["prim"] fun fields => do
    let primitive ← fields.asKey "prim"
    change fun e => { e with faults := e.faults.erase primitive })
  | "missing" => some (taking ["name"] fun fields => do
    change (Engine.forget (← fields.asKey "name")))
  | "offset" => some (taking ["name", "offset"] fun fields => do
    let param ← fields.asKey "name"
    let offset ← fields.value "offset"
    change fun e => { e with offsets := e.offsets.set param offset })
  | "host_function" => some ⟨["name", "effects"], ["code"], fun fields => do
    let name ← fields.asKey "name"
    let f : EngineFunction := ⟨← fields.value "effects", fields.valueD "code" (.int 0)⟩
    change fun e => { e with functions := e.functions.set name f }⟩
  | _ => none

/-- Calls a primitive of the engine by its name, which only a native table offers by names. -/
def callPrimitive (fields : Fields) : Act Session Value := do
  if !(← Session.state).native then throw (.promise "prim steps need native mode")
  let host ← Session.dispatch
  host.call (← fields.text "name") (← fields.value "args")

/-- Questions to the engine, and its primitives by their names. -/
def engine : Commands
  | "spawn" => some (plain (.int <$> Session.enginePart.within Engine.spawn))
  | "items" => some (taking ["owner", "prop"] fun fields => do
    let loc ← Engine.asKey (← fields.value "owner", ← fields.value "prop")
    return .list ((← Session.enginePart.read).items loc))
  | "prim" => some (taking ["name", "args"] callPrimitive)
  | "stats" => some (plain do return (← (← Session.state).stats).toValue)
  | name => engineChanges name

/-! ## Values -/

/-- The conversions, each by the name of its command. -/
def conversions : List (String × String) :=
  ("unhashable", "hash") :: ["repr", "len", "int", "raw_handle", "name_value", "struct_bytes",
    "struct_ptr"].map fun c => (c, c)

/-- Whether two values are equal, and whether their hashes are. -/
def compare (fields : Fields) : Act Session Value := do
  let a ← fields.value "a"
  let (equal, hashes) ← a.compare (← fields.value "b")
  return .list [.bool equal, (hashes.map Value.bool).getD .null]

/-- The commands on values. -/
def values : Commands
  | "get" => some (taking ["value", "name"] fun fields => do
    let v ← fields.value "value"
    Reference.member Session.dispatch Session.staticsPart v (← fields.text "name"))
  | "method" => some ⟨["value", "name"], ["args"], fun fields => do
    let v ← fields.value "value"
    let method ← fields.text "name"
    Reference.callMethod Session.dispatch Session.staticsPart v method fields.args⟩
  | "eq" => some (taking ["a", "b"] compare)
  | "null_ref" => some (plain (return .ref .null))
  | "update_struct" => some (taking ["target", "data"] fun fields => do
    let target ← fields.value "target"
    target.updateStruct (← fields.value "data"))
  | name => (conversions.lookup name).map fun conversion =>
    taking ["value"] fun fields => do (← fields.value "value").convert conversion

/-- The commands on classes. -/
def classes : Commands
  | "define_class" => some ⟨["name"], ["parent"], fun fields => do
    let parent ← Session.classNamed (fields.valueD "parent" (.text BindingClass.object.name))
    done (Session.defineClass (← fields.value "name") parent)⟩
  | "define_struct" => some (taking ["name"] fun fields => do
    done (Session.defineStruct (← fields.value "name")))
  | "static" => some (taking ["cls"] fun fields => do
    Lookup.static Session.dispatch Session.staticsPart
      (← Lookup.classOf (← fields.value "cls")))
  | "checked" => some (taking ["cls", "ref"] fun fields => do
    let cls ← fields.value "cls"
    Reference.bindTo Session.dispatch cls (← fields.value "ref"))
  | "weak" => some (taking ["ref"] fun fields => do
    Reference.makeWeak Session.dispatch (← fields.value "ref"))
  | "name" => some (taking ["text"] fun fields => do
    let host ← Session.dispatch
    return .name (← host.makeName (← fields.value "text")))
  | "lookup" => some ⟨["fn", "binding", "name"], ["params"], fun fields => do
    let binding ← fields.value "binding"
    let member ← fields.value "name"
    Lookup.call Session.dispatch Session.staticsPart (← fields.text "fn") binding member
      ((fields.value? "params").filter fun v => !v.isNull)⟩
  | _ => none

end Bindery.Command

namespace Bindery.Session

/-! ## All commands -/

/-- The families of commands. -/
def commands : List Commands := [Command.connection, Command.engine, Command.values,
  Command.classes, Command.cells, Command.containers, Command.callbacks, Command.calls,
  Command.memory, Command.scratch, Command.guest]

/-- The command with a name. -/
def command? (name : String) : Option Command := commands.findSome? fun family => family name

/-- The scope with a name. -/
def scope? (name : String) : Option Scope :=
  match name with
  | "with_temps" => some Command.temporaries
  | "with_binding" => some Command.binding
  | "with_dyn" => some Command.call
  | "with_scratch" => some Command.staging
  | _ => none

/-- The fields whose values stand for themselves, as the commands look into them. -/
def undecoded : List String := ["steps", "codecs", "actions", "effects"]

end Bindery.Session
