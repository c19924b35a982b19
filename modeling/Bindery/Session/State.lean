import Bindery.Cache
import Bindery.Callback.Registry
import Bindery.Callback.Script
import Bindery.DynamicCall
import Bindery.Engine.Basic
import Bindery.Guest.Linker
import Bindery.Guest.Memory
import Bindery.Handle.Lookup

/-!
# Sessions

The bindings at work over an engine in memory: what is kept between two operations.

* `Session`: the state.
* `LogEntry`: what an operation leaves in the log.
* `Session.recorded`: runs an operation with a log of its own.
* The parts of a session: `enginePart`, `registryPart` and the others.
* `Session.stats`: what a session holds on the side of the engine.
-/

namespace Bindery

/-- What happened during an operation. -/
inductive LogEntry where
  /-- A callback ran; what it read, if it started to, and counted. -/
  | callback (label : Value) (hasParams : Bool) (read : Option (List Value))
    (count : Option Nat)
  /-- The engine ran a function. -/
  | called (record : CallRecord)
  /-- The guest called an import; what that read. -/
  | imported (label : String) (args : List Value) (read : List Value)

/-- The entry of a run that has read more values. -/
def LogEntry.adding (vs : List Value) : LogEntry → LogEntry
  | callback label hasParams read count =>
    callback label hasParams (some (read.getD [] ++ vs)) count
  | imported label args read => imported label args (read ++ vs)
  | called record => called record

/-- The entry of a run that has counted the registrations. -/
def LogEntry.counting (n : Nat) : LogEntry → LogEntry
  | callback label hasParams read _ => callback label hasParams read (some n)
  | entry => entry

/-- A connection to the engine. -/
structure Connection where
  /-- Whether the engine is used through a native table. -/
  native : Bool
  version : Value
  /-- The addresses of the generated functions. -/
  functions : List Value

/-- A scripted import: the names that it was defined under, its effects in order, and the code it
answers. -/
structure ImportScript where
  module : Value
  name : Value
  effects : Value := .list []
  code : Value := .int 0

/-- A guest: the numbers of its memory, if it has one, and of its linker, and the imports that it
has used. -/
structure Guest where
  memory : Option Nat
  linker : Nat
  imports : Environment ImportScript := []

/-- The key of a cached value. A value that is equal to nothing is known by the use that it was
given for. -/
structure CellKey where
  value : Value
  use : Nat

/-- Keys are equal if they were given for the same use, or if their values are equal. -/
instance : BEq CellKey := ⟨fun a b => a.use == b.use || a.value == b.value⟩

/-- What is cached under a name. -/
inductive Cell where
  /-- One value. -/
  | once (value : Cache Unit Value)
  /-- Values at keys. -/
  | keyed (values : Cache CellKey Value)
  /-- The address of the generated function at a position. -/
  | slot (index : Value) (address : Cache Unit Value)
deriving Inhabited

namespace Cell

/-- The cell without what is cached in it. -/
def reset : Cell → Cell
  | once _ => once []
  | keyed _ => keyed []
  | slot index _ => slot index []

/-- The value of a cell for one. -/
def oncePart : Part Cell (Cache Unit Value) :=
  ⟨fun | once value => value | _ => [], fun value => fun | once _ => once value | cell => cell⟩

/-- The values of a cell with keys. -/
def keyedPart : Part Cell (Cache CellKey Value) :=
  ⟨fun | keyed values => values | _ => [],
    fun values => fun | keyed _ => keyed values | cell => cell⟩

/-- The address in a slot. -/
def addressPart : Part Cell (Cache Unit Value) :=
  ⟨fun | slot _ address => address | _ => [],
    fun address => fun | slot index _ => slot index address | cell => cell⟩

end Cell

/-- The class that all class bindings derive from. -/
def BindingClass.object : BindingClass :=
  { name := "UClassBinding", hostName := "Object", lineage := [0] }

/-- The class that all struct bindings derive from. -/
def BindingClass.struct : BindingClass :=
  { name := "UStructBinding", hostName := "", lineage := [1], isStruct := true, located := false }

/-- The state of a session. -/
structure Session where
  engine : Engine := {}
  connection : Option Connection := none
  /-- Whether the connection that was asked for last is one through a native table. -/
  native : Bool := false
  registry : Registry Callback := {}
  bindings : List DelegateBinding := []
  statics : Statics := {}
  cells : Assoc Value Cell := []
  calls : List DynamicCall := []
  classes : List BindingClass := [.object, .struct]
  /-- All memories so far; the last one is in use. -/
  memories : List LinearMemory := []
  /-- All linkers so far; the last one is in use. -/
  linkers : List (Linker ImportScript) := []
  guest : Option Guest := none
  /-- The temporaries of the open scopes, the innermost first. -/
  bases : List (List Value) := []
  /-- The memories of the open staging scopes, the innermost first. -/
  scratches : List Nat := []
  log : List LogEntry := []

namespace Session

/-! ## Parts -/

def enginePart : Part Session Engine := ⟨Session.engine, fun e s => { s with engine := e }⟩

/-- The engine's memory. -/
def memoryPart : Part Session Cells :=
  enginePart.comp ⟨Engine.memory, fun m e => { e with memory := m }⟩

def registryPart : Part Session (Registry Callback) :=
  ⟨Session.registry, fun r s => { s with registry := r }⟩

def bindingPart (index : Nat) : Part Session DelegateBinding :=
  Part.comp ⟨Session.bindings, fun bs s => { s with bindings := bs }⟩ (Part.item index)

def callPart (index : Nat) : Part Session DynamicCall :=
  Part.comp ⟨Session.calls, fun cs s => { s with calls := cs }⟩ (Part.item index)

def staticsPart : Part Session Statics := ⟨Session.statics, fun c s => { s with statics := c }⟩

def linearPart (index : Nat) : Part Session LinearMemory :=
  Part.comp ⟨Session.memories, fun ms s => { s with memories := ms }⟩ (Part.item index)

def logPart : Part Session (List LogEntry) := ⟨Session.log, fun l s => { s with log := l }⟩

/-- The value at a key of an association. -/
def entryPart {α : Type} [Inhabited α] (key : Value) : Part (Assoc Value α) α :=
  ⟨fun entries => (entries.get? key).getD default, fun a entries => entries.set key a⟩

def cellPart (name : Value) : Part Session Cell :=
  Part.comp ⟨Session.cells, fun cs s => { s with cells := cs }⟩ (entryPart name)

/-! ## Operations -/

/-- The state. -/
def state : Act Session Session := Part.whole.read

/-- Adds to the log: the number of the entry. -/
def note (entry : LogEntry) : Act Session Nat := do
  let number := (← logPart.read).length
  logPart.modify (· ++ [entry])
  return number

/-- Changes the log entry with a number. -/
def amend (number : Nat) (f : LogEntry → LogEntry) : Act Session Unit :=
  logPart.modify fun log => log.modify number f

/-- Runs an operation with a log of its own: its outcome and the log. -/
def recorded {α : Type} (operation : Act Session α) :
    Act Session (Except Fault α × List LogEntry) :=
  Act.lift fun s =>
    let (outcome, after) := operation.runOn { s with log := [] }
    ((outcome, after.log), { after with log := s.log })

/-! ## Classes -/

/-- The number of the next class. -/
def nextClass (s : Session) : Nat := s.classes.length

/-- The class with a name that was defined last. -/
def classNamed (name : Value) : Act Session BindingClass := do
  let key ← name.asKey
  match (← state).classes.reverse.find? fun c => key == .text c.name with
  | some c => return c
  | none => throw .noSuchKey

/-- The name of a class, which is a text of characters other than zero. -/
def className (name : Value) : Except Fault String :=
  match name with
  | .text s =>
    if !Text.isPlain s then .error .unencodable
    else if s.contains '\x00' then .error .malformed
    else .ok s
  | _ => .error .wrongType

/-- Adds a class. -/
def addClass (c : BindingClass) : Act Session Unit := Act.update fun s =>
  { s with classes := s.classes ++ [c] }

/-- Defines a class that derives from another one. A class binding is named after its class in the
host; what derives from a struct binding is one for the same struct. -/
def defineClass (name : Value) (parent : BindingClass) : Act Session Unit := do
  let name ← className name
  let lineage := nextClass (← state) :: parent.lineage
  let hostName := if parent.isStruct then parent.hostName else name
  addClass { parent with name, lineage, hostName }

/-- Defines a struct binding. -/
def defineStruct (name : Value) : Act Session Unit := do
  let name ← className name
  let lineage := nextClass (← state) :: BindingClass.struct.lineage
  addClass { name, hostName := name, lineage, isStruct := true }

end Session

/-! ## Statistics -/

/-- What a session holds on the side of the engine. -/
structure Stats where
  allocated : Nat
  freed : Nat
  freedBlocks : Nat
  /-- Number of live blocks of parameters. -/
  blocks : Nat
  /-- Number of registered callbacks. -/
  callbacks : Nat
  /-- The live temporaries in increasing order. -/
  temporaries : List Int
  /-- The owner, the property and the callbacks of each delegate, in increasing order. -/
  bindings : List Value

/-- The owner, the property and the callbacks of a delegate. -/
def bindingValue (b : Location × List Int) : Value :=
  .list [b.1.1, b.1.2, .list (b.2.map .int)]

/-- The statistics of a session. Delegates of owners that have no order cannot be told. -/
def Session.stats (s : Session) : Except Fault Stats := do
  return {
    allocated := s.engine.allocated
    freed := s.engine.freed
    freedBlocks := s.engine.freedBlocks
    blocks := s.engine.blocks.length
    callbacks := s.registry.size
    temporaries := s.engine.temporaries.mergeSort fun a b => a ≤ b
    bindings := ← Value.sort (s.engine.bindings.map bindingValue) }

/-- Statistics as a table. -/
def Stats.toValue (s : Stats) : Value := .table [
  (.text "alloc", .int s.allocated), (.text "free", .int s.freed),
  (.text "freed_params", .int s.freedBlocks),
  (.text "temps", .list (s.temporaries.map .int)), (.text "blocks", .int s.blocks),
  (.text "bindings", .list s.bindings), (.text "callbacks", .int s.callbacks)]

end Bindery
