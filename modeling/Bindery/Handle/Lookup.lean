import Bindery.Cache
import Bindery.Handle.Reference
import Bindery.Value.Display

/-!
# Look-ups

Handles of classes, structs, properties and functions, as the bindings look them up. What the host
does not know is an error, except for a class, whose handle may be null.

* `Statics`: the handles of classes and structs that have been looked up.
* `staticClass`, `staticStruct`: the handle of a binding's class or struct.
* `classProperty`, `structProperty`, `function`: the handle of a member.
* `paramHandles`, `paramOffsets`: handles and offsets of a function's parameters.
* `Lookup.call`: a look-up by its name.
-/

namespace Bindery

open Host

/-- The handles of classes and structs by their names. -/
structure Statics where
  classes : Cache String Value := []
  structs : Cache String Value := []

namespace Statics

/-- The handles of classes. -/
def classPart : Part Statics (Cache String Value) :=
  ⟨Statics.classes, fun c s => { s with classes := c }⟩

/-- The handles of structs. -/
def structPart : Part Statics (Cache String Value) :=
  ⟨Statics.structs, fun c s => { s with structs := c }⟩

end Statics

namespace Lookup

variable {σ : Type} (dispatch : Act σ (Primitives σ)) (statics : Part σ Statics)

/-- The handle, or the error if it counts as false. -/
def found (h : Value) (kind : ErrorKind) (what : Except Fault String) : Act σ Value := do
  if h.isTruthy then return h else throw (.ofKind kind (← what))

/-- How messages call a member of something. -/
def memberText (owner : String) (member : Value) : Except Fault String :=
  (owner ++ "." ++ ·) <$> member.spoken

/-- The handle of a binding's class. -/
def staticClass (c : BindingClass) : Act σ Value := do
  if c.isStruct then throw .noSuchMember
  Cache.getOrInit (statics.comp Statics.classPart) c.hostName do
    (← dispatch).find .staticClass (.text c.hostName)

/-- The handle of the struct that a binding names. -/
def findStruct (c : BindingClass) : Act σ Value := do
  if !c.isStruct then throw .noSuchMember
  Cache.getOrInit (statics.comp Statics.structPart) c.hostName do
    found (← (← dispatch).find .struct (.text c.hostName)) .propertyNotFound
      (.ok ("struct " ++ c.hostName))

/-- The handle of a binding's struct. -/
def staticStruct (c : BindingClass) : Act σ Value := do
  if !c.located then throw .noSuchMember
  findStruct dispatch statics c

/-- The handle of a binding's class or struct. -/
def static (c : BindingClass) : Act σ Value :=
  if c.isStruct then staticStruct dispatch statics c else staticClass dispatch statics c

/-- The handle of a property of a binding's class. -/
def classProperty (c : BindingClass) (name : Value) : Act σ Value := do
  let host ← dispatch
  found (← host.findIn .property (← staticClass dispatch statics c) name) .propertyNotFound
    (memberText c.hostName name)

/-- The handle of a property of a binding's struct. -/
def structProperty (c : BindingClass) (name : Value) : Act σ Value := do
  let host ← dispatch
  found (← host.findIn .structProperty (← staticStruct dispatch statics c) name) .propertyNotFound
    (memberText c.hostName name)

/-- The handle of a function of a binding's class. -/
def function (c : BindingClass) (name : Value) : Act σ Value := do
  let host ← dispatch
  found (← host.findIn .functionByClass (← staticClass dispatch statics c) name) .functionNotFound
    (memberText c.hostName name)

/-- The handles of a function's parameters, looked up by their names in order. -/
def paramHandles (c : BindingClass) (name params : Value) : Act σ (List Value) := do
  let func ← function dispatch statics c name
  (← params.items).mapM fun param => do
    found (← (← dispatch).findIn .parameter func param) .propertyNotFound
      (do memberText (← name.spoken) param)

/-- The offsets of a function's parameters inside its block. -/
def paramOffsets (c : BindingClass) (name params : Value) : Act σ (List Value) := do
  let host ← dispatch
  (← paramHandles dispatch statics c name params).mapM (host.measure .propertyOffset)

/-- The class of a binding, which may be given by the class itself or by an object of it. -/
def classOf (binding : Value) : Act σ BindingClass :=
  match binding with
  | .cls c | .object c _ | .record c _ => return c
  | _ => throw .noSuchMember

/-- A look-up of a member by the name of the look-up. -/
def member? (lookup : String) : Option (BindingClass → Value → Act σ Value) :=
  match lookup with
  | "find_class_property" => some (classProperty dispatch statics)
  | "find_struct_property" => some (structProperty dispatch statics)
  | "find_function" => some (function dispatch statics)
  | _ => none

/-- A look-up of parameters by the name of the look-up. -/
def parameters? (lookup : String) : Option (BindingClass → Value → Value → Act σ (List Value)) :=
  match lookup with
  | "function_param_props" => some (paramHandles dispatch statics)
  | "function_param_offsets" => some (paramOffsets dispatch statics)
  | _ => none

/-- A look-up by its name, with the names of parameters exactly where they are asked for. -/
def call (lookup : String) (binding name : Value) (params : Option Value) : Act σ Value := do
  match member? dispatch statics lookup, parameters? dispatch statics lookup, params with
  | some find, _, none =>
    discard dispatch
    find (← classOf binding) name
  | none, some find, some params =>
    discard dispatch
    return .list (← find (← classOf binding) name params)
  | none, none, _ => throw .noSuchMember
  | _, _, _ => throw .wrongType

end Lookup
end Bindery
