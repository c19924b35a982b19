import Bindery.Session.Command.Fields
import Bindery.Session.Guest

/-!
# Commands on the guest

* `Command.memory`, `scratch`: the memory of a guest, used directly and for staging.
* `Command.guest`: linkers and the guest.
* `Command.staging`: a scope that takes back what is staged inside of it.
-/

namespace Bindery.Command

/-- Number of pages of a memory that is given none. -/
def defaultPages : Value := .int 4

/-- Where the staging region of a memory starts unless it is told where. -/
def defaultScratchBase : Value := .int 1024

/-- The commands on the memory of a guest. -/
def memory : Commands
  | "memory" => some ⟨[], ["pages", "scratch_base"], fun fields =>
    done (Session.addMemory (fields.valueD "pages" defaultPages)
      (fields.valueD "scratch_base" defaultScratchBase))⟩
  | "mem_alloc" => some ⟨["size"], ["align"], fun fields => do
    let memory ← Session.currentMemory
    let size ← fields.value "size"
    Scratch.update memory fun m =>
      m.alloc size (fields.valueD "align" LinearMemory.defaultAlignment)⟩
  | "mem_read" => some (taking ["ptr", "size"] fun fields => do
    let memory ← Session.currentMemory
    let ptr ← fields.value "ptr"
    return .bytes (← Scratch.read memory ptr (← fields.value "size")))
  | "mem_write" => some (taking ["ptr", "data"] fun fields => do
    let memory ← Session.currentMemory
    let ptr ← fields.value "ptr"
    done (Scratch.writeValue memory ptr (← fields.value "data")))
  | "mem_top" => some (plain do
    let m ← (← Session.currentMemory).read
    return .list [m.top, .int m.size])
  | "mem_release" => some (taking ["mark"] fun fields => do
    let memory ← Session.currentMemory
    let mark ← fields.value "mark"
    done (memory.modify fun m => m.release mark))
  | _ => none

/-- The commands on the staging region inside of a scope. -/
def scratch : Commands
  | "s_alloc" => some (taking ["size"] fun fields => do
    let memory ← Session.scratch
    Scratch.alloc memory (← fields.value "size"))
  | "s_put" => some (taking ["data"] fun fields => do
    let memory ← Session.scratch
    Scratch.putValue memory (← fields.value "data"))
  | "s_read" => some (taking ["ptr", "size"] fun fields => do
    let memory ← Session.scratch
    let ptr ← fields.value "ptr"
    return .bytes (← Scratch.read memory ptr (← fields.value "size")))
  | "s_value" => some (taking ["ptr", "wire"] fun fields => do
    let memory ← Session.scratch
    let ptr ← fields.value "ptr"
    Scratch.readValue memory ptr (← fields.value "wire"))
  | _ => none

/-- Defines the import in the fields: null, or the reason why the linker refuses it. -/
def define (fields : Fields) : Act Session Value := do
  let reason? ← Session.define (fields.valueD "module" (.text importModule))
    (← fields.value "name") (← fields.value "params")
    (fields.valueD "results" (.list [.text "i32"])) (fields.valueD "effects" (.list []))
    (fields.valueD "code" (.int 0))
  match reason? with
  | none => return .null
  | some reason => return .table [(.text "rejected", .text reason)]

/-- A defined import as a value. -/
def importValue (f : (Value × Value) × Import ImportScript) : Value :=
  .list [f.1.1, f.1.2, .list f.2.params, .list f.2.results]

/-- Calls an import of the guest, which has to be there. -/
def callImport (fields : Fields) : Act Session Value := do
  discard Session.installed
  let args ← fields.args.items
  Session.callImport (← fields.value "name") args

/-- The commands on the guest. -/
def guest : Commands
  | "linker" => some (plain (done Session.addLinker))
  | "linked" => some (plain do return .list ((← Session.linked).map importValue))
  | "define" =>
    some ⟨["name", "params"], ["results", "module", "effects", "code"], define⟩
  | "enter_guest" => some (plain (done Session.enterGuest))
  | "leave_guest" => some (plain (done Session.leaveGuest))
  | "is_guest" => some (plain do return .bool (← Session.state).guest.isSome)
  | "guest_call" => some ⟨["name"], ["args"], callImport⟩
  | _ => none

/-- A scope that takes back what is staged inside of it. -/
def staging : Scope where
  required := ["steps"]
  run _ inside := Session.withScratch (inside [])

end Bindery.Command
