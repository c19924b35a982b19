import Bindery.Session.Connection
import Bindery.Value.Document

/-!
# The guest of a session

Memories and linkers are known by numbers, since a guest keeps those that it was started with.

* `Session.addMemory`, `Session.addLinker`, `Session.define`: what a guest is made of.
* `Session.enterGuest`, `Session.callImport`: the guest and its calls of host functions.
* `Session.withScratch`: a scope that takes back what was staged in the guest's memory.
-/

namespace Bindery

namespace Session

/-- The number of the last item of a list, if it has any. -/
def lastNumber {β : Type} (items : List β) : Option Nat :=
  if items.isEmpty then none else some (items.length - 1)

/-- The number that has to be there. -/
def present : Option Nat → Act Session Nat
  | some n => return n
  | none => throw .noSuchMember

/-! ## Memory -/

/-- A new memory. -/
def addMemory (pages scratchBase : Value) : Act Session Unit := do
  let m ← LinearMemory.ofPages pages scratchBase
  Act.update fun s => { s with memories := s.memories ++ [m] }

/-- The memory in use. -/
def currentMemory : Act Session (Part Session LinearMemory) := do
  return linearPart (← present (lastNumber (← state).memories))

/-! ## Imports -/

/-- A new linker. -/
def addLinker : Act Session Unit := Act.update fun s => { s with linkers := s.linkers ++ [{}] }

/-- The linker in use: its number. -/
def currentLinker : Act Session Nat := do present (lastNumber (← state).linkers)

/-- The linker with a number. -/
def linker (index : Nat) : Act Session (Linker ImportScript) := do
  return (← state).linkers.getD index {}

/-- Defines an import: none, or the reason why the linker refuses it. -/
def define (module name params results effects code : Value) : Act Session (Option String) := do
  let i ← currentLinker
  let some count := params.length? | throw .wrongType
  match ← refusal? module name count with
  | some reason => return some reason
  | none =>
    let f := ⟨← params.items, ← results.items, { module, name, effects, code }⟩
    let l ← (← linker i).define module name f
    Act.update fun s => { s with linkers := s.linkers.set i l }
    return none

/-- The imports of the linker in use, in the order of their first definition. -/
def linked : Act Session (Assoc (Value × Value) (Import ImportScript)) := do
  return (← linker (← currentLinker)).functions

/-! ## The guest -/

/-- Starts a guest over the memory and the linker in use. -/
def enterGuest : Act Session Unit := do
  let i ← currentLinker
  Act.update fun s => { s with guest := some { memory := lastNumber s.memories, linker := i } }

/-- Ends the guest. -/
def leaveGuest : Act Session Unit := Act.update fun s => { s with guest := none }

/-- The guest, which has to be there. -/
def installed : Act Session Guest := do
  match (← state).guest with
  | some g => return g
  | none => throw (.ofKind .internal "no guest environment installed")

/-- The imports that the guest has used. -/
def importsPart : Part Session (Environment ImportScript) :=
  ⟨fun s => (s.guest.map Guest.imports).getD [],
    fun imports s => { s with guest := s.guest.map fun g => { g with imports := imports } }⟩

/-- The value of an operand, which may be a table that names an argument. -/
def operand (args : List Value) (v : Value) : Except Fault Value := do
  match v with
  | .table _ =>
    match ← v.entry "arg" with
    | some index => return args.getD (← index.position args.length) .null
    | none => throw .noSuchKey
  | v => return v

/-- Runs an effect of an import whose log entry has a number: a read of so many bytes at an offset,
or a write of digits at one. -/
def runEffect (memory : Option Nat) (args : List Value) (entry : Nat) (effect : Value) :
    Act Session Unit := do
  match ← effect.items with
  | [name, ptr, arg] =>
    if name == .text "read" then
      let ptr ← operand args ptr
      let size ← operand args arg
      let data ← Scratch.read (linearPart (← present memory)) ptr size
      amend entry (LogEntry.adding [.bytes data])
    else
      let ptr ← operand args ptr
      let data ← arg.hexBytes
      Scratch.write (linearPart (← present memory)) ptr data
  | _ => throw .malformed

variable {α : Type}

/-- Calls an import of the guest: what it answers. -/
def callImport (name : Value) (args : List Value) : Act Session Value := do
  let g ← installed
  let script ← Environment.resolve importsPart (linker g.linker) name
  let entry ← note (.imported (← importLabel script.module script.name) args [])
  (← script.effects.items).forM (runEffect g.memory args entry)
  return script.code

/-- Runs a body in a staging scope in the guest's memory. -/
def withScratch (body : Act Session α) : Act Session α := do
  let memory ← present (← installed).memory
  Scratch.withScratch (linearPart memory) do
    Act.update fun s => { s with scratches := memory :: s.scratches }
    Act.ensuring body (Act.update fun s => { s with scratches := s.scratches.tail })

/-- The memory of the innermost staging scope. -/
def scratch : Act Session (Part Session LinearMemory) := do
  match (← state).scratches with
  | memory :: _ => return linearPart memory
  | [] => throw .noSuchMember

end Session
end Bindery
