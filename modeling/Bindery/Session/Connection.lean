import Bindery.Engine.Primitives
import Bindery.Host.Table
import Bindery.Session.State

/-!
# The connection of a session

The engine can be used directly or through a native table. Firing a delegate runs user code: used
directly, a failing callback fails the operation, and parameters always have an address; through the
table, failures do not pass, and missing parameters have no address.

* `Session.dispatch`: the primitives of the host in use.
* `Session.surroundings`: what scripted callbacks work on.
* `Session.connect`, `Session.shutdown`: the connection.
-/

namespace Bindery.Session

open Host

/-! ## The host -/

/-- The reply for the text of a name that the engine does not know. -/
def unknownName : Reply := ⟨UInt32.ofNat ErrorKind.propertyNotFound.code, [], 0⟩

/-- A native table around the engine. Only names that the engine knows are asked for their texts. -/
def table (direct : Primitives Session) : Table Session :=
  let forwarding := Table.forwarding direct
  { forwarding with
    nameText := fun index size => do
      if index.toNat < (← state).engine.names.length then forwarding.nameText index size
      else return unknownName }

/-- The primitives of the engine, used directly or through a native table. -/
def host (native : Bool) (fire : Location → Value → Act Session Value) : Primitives Session :=
  let direct := Engine.primitives enginePart (fun record => discard (note (.called record))) fire
  if native then .overTable (table direct) else direct

/-- Whether there is a connection. -/
def isConnected : Act Session Bool := do return (← state).connection.isSome

/-- The connection, which has to be there. -/
def connected : Act Session Connection := do
  match (← state).connection with
  | some c => return c
  | none => throw (.ofKind .internal "API not initialized")

/-- The primitives for callbacks, which do not fire delegates. -/
def quietDispatch : Act Session (Primitives Session) := do
  return host (← connected).native fun _ _ => return Engine.ok

/-- Undoes the binding with a number. -/
def unbind (index : Value) : Act Session Unit := do
  let i ← index.position (← state).bindings.length
  DelegateBinding.unbind quietDispatch registryPart isConnected (bindingPart i)

/-- The value of a slot in a block of parameters. -/
def readParam (params offset tag : Value) : Act Session Value := do
  let address ← params.plus offset
  let w ← Wire.ofValue tag
  w.unpack ((← memoryPart.read).read (← Word.number address) w.size)

/-- What scripted callbacks work on. A run is known by its log entry. -/
def surroundings : Surroundings Session where
  registry := registryPart
  started label params := note (.callback label (!params.isNull) none none)
  readParam := readParam
  noteRead run vs := amend run (LogEntry.adding vs)
  noteCount run n := amend run (LogEntry.counting n)
  unbind := unbind

/-- A new block of memory: its address. -/
def place (data : Bytes) : Act Session Value := .int <$> enginePart.within (Engine.place data)

/-- The fault of the primitive that fires delegates. -/
def broadcastFault (e : Engine) : Option Value := e.faults.get? (.text "broadcast_multicast")

/-- Fires a delegate of the engine that is used directly. The callbacks are those bound at the
start, and the first failure ends it. -/
def fireDirect (loc : Location) (params : Value) : Act Session Value := do
  let e := (← state).engine
  match broadcastFault e with
  | some answer => return answer
  | none =>
    let address ← place ((← paramBytes params).getD [0])
    let loc ← Engine.asKey loc
    (e.bound loc).forM fun id => Callback.invoke surroundings address (.int id)
    return Engine.ok

/-- Fires a delegate of the engine behind a native table; a fault only changes the code. -/
def fireNative (loc : Location) (params : Value) : Act Session Value := do
  let e := (← state).engine
  let address ← match ← paramBytes params with
    | some data => place data
    | none => pure .null
  (e.bound loc).forM fun id => Callback.invokeFromHost surroundings address (.int id)
  return (broadcastFault e).getD Engine.ok

/-- The primitives of the host in use; there has to be one. -/
def dispatch : Act Session (Primitives Session) := do
  let native := (← connected).native
  return host native (if native then fireNative else fireDirect)

/-! ## Connecting -/

/-- The version of the host's interface that the bindings are made for. -/
def interfaceVersion : Int := 1

/-- Puts a connection in the place of the one that is there, if its version is the right one. -/
def install (native : Bool) (version functions : Value) : Act Session Connection := do
  if version != .int interfaceVersion then
    throw (.ofKind .internal ("API version mismatch: host " ++ (← version.spoken) ++ ", runtime "
      ++ toString interfaceVersion))
  let c : Connection := ⟨native, version, ← functions.items⟩
  Act.update fun s => { s with connection := some c }
  return c

/-- An address in a native table. -/
def functionWord (v : Value) : Except Fault Value :=
  if v.isNull then .ok .null else (fun n => Word.handle (.ofInt n)) <$> v.index

/-- The addresses in a native table. -/
def functionWords (functions : Value) : Except Fault (List Value) := do
  (← functions.items).mapM functionWord

/-- Connects to the engine. Through a table, the version and the addresses are machine words. -/
def connect (native : Bool) (version functions : Value) : Act Session Connection := do
  Act.update fun s => { s with native }
  if native then
    install true (.int (UInt32.ofInt (← version.index)).toNat) (.list (← functionWords functions))
  else install false version functions

/-- Drops all cached values, those of classes and structs excepted. -/
def resetCaches (s : Session) : Session := { s with
  cells := s.cells.map fun e => (e.1, e.2.reset) }

/-- Ends the connection: callbacks and cached values go. -/
def shutdown (s : Session) : Session :=
  { s.resetCaches with registry := .clear, statics := {}, connection := none }

end Bindery.Session
