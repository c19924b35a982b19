import Bindery.Engine.Storage
import Bindery.Host.Call

/-!
# The primitives of the engine

`Engine.primitives` offers the work of an engine as host primitives. Faults are given by the names
of the primitives; readers answer them with nothing read, and look-ups answer what counts as false
as null. Two things are left to the surroundings: reporting the calls of functions, and firing
delegates, which runs user code.
-/

namespace Bindery.Engine

open Host

/-- The key of a look-up by name. -/
def globalKey (kind : Global) (name : Value) : LookupKey :=
  match kind with
  | .cls | .staticClass => { kind := .cls, name }
  | .struct => { kind := .struct, name }

/-- The key of a look-up within something. -/
def memberKey (kind : Member) (owner name : Value) : LookupKey :=
  match kind with
  | .property | .structProperty => { kind := .property, owner, name }
  | .function | .functionByClass => { kind := .function, owner, name }
  | .parameter => { kind := .parameter, owner, name }

/-- A number that the engine knows. -/
def measure (m : Measure) (h : Value) (e : Engine) : Except Fault Value :=
  match m with
  | .propertyOffset => e.offsetOf h
  | .propertySize => .ok (.int 24)
  | .elementSize => .ok (.int 4)
  | .structSize => .ok (.int 24)

variable {σ α : Type} (part : Part σ Engine)

/-- A primitive. -/
def work (primitive : String) (answer : Value → α) (f : Act Engine α) : Act σ α :=
  part.within (faulty primitive answer f)

/-- A primitive that only looks. -/
def ask (primitive : String) (answer : Value → α) (f : Engine → Except Fault α) : Act σ α :=
  work part primitive answer do Act.ofExcept (f (← Part.whole.read))

/-- A primitive that may change the engine; it changes nothing if it fails. -/
def tell (primitive : String) (f : Engine → Except Fault (Value × Engine)) : Act σ Value :=
  work part primitive id do
    let (code, e) ← Act.ofExcept (f (← Part.whole.read))
    change fun _ => e
    return code

/-- A reader at fault, which reads nothing. -/
def faultyBytes (value : Value) : Value × Bytes := (value, [])

/-- A reader of an element at fault, which reads nothing. -/
def faultyElement (value : Value) : Value × Value := (value, .bytes [])

/-- Objects and names of an engine. -/
def objects : ObjectPrimitives σ where
  isValid h := ask part "is_valid" id fun e => .bool <$> e.isLive h
  objectName h := ask part "get_name" id fun _ => objectName h
  makeName name := work part "make_fname" id (makeName name)
  nameText index := ask part "fname_to_string" id (nameText index)
  makeWeak h := work part "make_weak" id (makeWeak h)
  resolveWeak index := ask part "resolve_weak" Value.orNull (resolveWeak index)
  isWeakValid index := work part "is_weak_valid" id do
    let h ← ask Part.whole "resolve_weak" Value.orNull (resolveWeak index)
    return .bool !h.isNull

/-- A call of a function: it is reported before its effects, and answers its code. -/
def call (report : CallRecord → Act σ Unit) (obj func params : Value) : Act σ Value := do
  match (← part.read).faults.get? (.text "call_function") with
  | some value => return value
  | none =>
    let (record, f) ← Act.ofExcept (prepareCall obj func params (← part.read))
    report record
    part.within do applyEffects params (← Act.ofExcept f.effects.items)
    return f.code

/-- Look-ups and calls of an engine; `report` gets a record of every call. -/
def reflection (report : CallRecord → Act σ Unit) : ReflectionPrimitives σ where
  find kind name := work part kind.primitive Value.orNull (handleFor (globalKey kind name))
  findIn kind h name := work part kind.primitive Value.orNull (handleFor (memberKey kind h name))
  measure m h := ask part m.primitive id (measure m h)
  allocParams _ := work part "alloc_params" Value.orNull allocParams
  freeParams _ params := work part "free_params" (fun _ => ()) (freeParams params)
  callFunction := call part report

/-- Properties of an engine. -/
def properties : PropertyPrimitives σ where
  getScalar kind obj prop := ask part kind.getter (·, none) fun e => do
    let (code, value) ← e.getScalar kind (obj, prop)
    return (code, some value)
  setScalar kind obj prop value := tell part kind.setter (setScalar kind (obj, prop) value)
  getText obj prop size := ask part "get_string" faultyBytes (getText (obj, prop) size)
  setText obj prop data := tell part "set_string" (setText (obj, prop) data)
  getStruct obj prop size := ask part "get_struct" faultyBytes (getStruct (obj, prop) size)
  setStruct obj prop data := tell part "set_struct" (setStruct (obj, prop) data)
  getElement obj prop index size :=
    ask part "get_property_at" faultyBytes (getElement (obj, prop) index size)
  setElement obj prop index data :=
    tell part "set_property_at" (setElement (obj, prop) index data)

/-- Containers of an engine. The fault of `alloc_temp` is the property that there is no room for. -/
def containerPrimitives : ContainerPrimitives σ where
  count shape obj prop := ask part shape.counter id (count (obj, prop))
  clear shape obj prop := tell part shape.clearer (clear (obj, prop))
  copyAll shape obj prop := ask part shape.copier (·, [], 0) (copyAll shape (obj, prop))
  arrayGet obj prop index size :=
    ask part "array_get" faultyElement (elementAt (obj, prop) index size)
  arraySet obj prop index data := tell part "array_set" (arraySet (obj, prop) index data)
  arrayAdd obj prop data := tell part "array_add" (arrayAdd (obj, prop) data)
  arrayRemove obj prop index := tell part "array_remove" (arrayRemove (obj, prop) index)
  arraySetAll obj prop data count :=
    tell part "array_set_all" (arraySetAll (obj, prop) data count)
  mapFind obj prop key size := ask part "map_find" faultyElement (mapFind (obj, prop) key size)
  mapAdd obj prop key value := tell part "map_add" (mapAdd (obj, prop) key value)
  mapRemove obj prop key := tell part "map_remove" (mapRemove (obj, prop) key)
  mapPair obj prop index keySize valueSize :=
    ask part "map_get_pair" (·, .bytes [], .bytes []) (mapPair (obj, prop) index keySize valueSize)
  setContains obj prop data := ask part "set_contains" id (setContains (obj, prop) data)
  setAdd obj prop data := tell part "set_add" (setAdd (obj, prop) data)
  setRemove obj prop data := tell part "set_remove" (setRemove (obj, prop) data)
  setGet obj prop index size :=
    ask part "set_get_element" faultyElement (elementAt (obj, prop) index size)
  allocTemp prop := do
    match (← part.read).faults.get? (.text "alloc_temp") with
    | some full => if full == prop then return .null else part.within allocTemp
    | none => part.within allocTemp
  freeTemp prop base := work part "free_temp" (fun _ => ()) (freeTemp prop base)

/-- Delegates of an engine; `fire` runs the bound callbacks. -/
def delegates (fire : Location → Value → Act σ Value) : DelegatePrimitives σ where
  bind obj prop id := tell part "bind_delegate" (bind (obj, prop) id)
  unbind obj prop := tell part "unbind_delegate" (unbind (obj, prop))
  addMulticast obj prop id := tell part "add_multicast" (addMulticast (obj, prop) id)
  removeMulticast obj prop id := tell part "remove_multicast" (removeMulticast (obj, prop) id)
  broadcast obj prop params := fire (obj, prop) params

/-- The primitives of an engine. -/
def primitives (report : CallRecord → Act σ Unit) (fire : Location → Value → Act σ Value) :
    Primitives σ :=
  { objects part, reflection part report, properties part, containerPrimitives part,
    delegates part fire with }

end Bindery.Engine
