import Bindery.Handle.Lookup
import Bindery.Value.Basic
import Bindery.Value.Display

/-!
# Members of references

What can be asked of a reference by name.

* `Value.attribute`: the attributes of references, names, structs and bindings.
* `Value.convert`: the texts, numbers, handles and bytes that values convert to.
* `Reference.callMethod`: methods of references and of binding classes.
-/

namespace Bindery

open Host

/-- The attributes of a binding class. -/
def BindingClass.attribute (c : BindingClass) (member : String) : Except Fault Value :=
  match member with
  | "CLASS_NAME" =>
    if c.isStruct then .error .noSuchMember else .ok (.text c.hostName)
  | "STRUCT_NAME" => if c.isStruct then .ok (.text c.hostName) else .error .noSuchMember
  | _ => .error .noSuchMember

/-- The attribute of a value with a name. -/
def Value.attribute (v : Value) (member : String) : Except Fault Value :=
  match v, member with
  | ref h, "raw" => .ok h
  | ref h, "is_null" => .ok (bool h.isNull)
  | weak index, "handle" => .ok index
  | name index, "value" => .ok index
  | name _, "NONE" => .ok (name (int 0))
  | struct data, "data" => .ok (bytes data)
  | struct _, "_view" => .ok null
  | struct _, "as_ptr" | record _ _, "as_ptr" => .error .wrongType
  | object _ h, "handle" => .ok h
  | record _ data, "value" => .ok (struct data)
  | cls c, "handle" => .error (if c.isStruct then .noSuchMember else .wrongType)
  | cls c, "value" | cls c, "as_ptr" => .error (if c.isStruct then .wrongType else .noSuchMember)
  | object c _, _ | record c _, _ | cls c, _ => c.attribute member
  | _, _ => .error .noSuchMember

/-- A conversion of a value by its name. -/
def Value.convert (v : Value) (conversion : String) : Except Fault Value :=
  match conversion with
  | "repr" => text <$> v.display
  | "len" => match v.length? with
    | some n => .ok (int n)
    | none => .error .wrongType
  | "int" => int <$> v.toInt
  | "hash" => do
    let key ← v.asKey
    return if key.hasZeroHash then int 0 else null
  | "raw_handle" => v.rawHandle
  | "name_value" => v.nameIndex
  | "struct_bytes" => bytes <$> v.toBytes
  | "struct_ptr" => match v with
    | struct data | record _ data => .ok (list [bool true, bytes data])
    | cls c => .error (if c.isStruct then .wrongType else .noSuchMember)
    | _ => .error .noSuchMember
  | _ => .error .noSuchMember

namespace Reference

variable {σ : Type} (dispatch : Act σ (Primitives σ)) (statics : Part σ Statics)

/-- A method: the number of its arguments, and what it does with them. -/
abbrev Method (σ : Type) := Arguments.Callable σ

/-- A method without arguments. -/
def answering (act : Act σ Value) : Method σ := (0, fun _ => act)

/-- A method with one argument. -/
def taking (act : Value → Act σ Value) : Method σ := (1, fun args => do act (← args.value 0))

/-- A reference to whatever stands for an object that is there, as an object of a binding. The
binding may be given by an object of its class; a plain reference has no binding to give. -/
def bindTo (binding : Value) (v : Value) : Act σ Value := do
  if let .ref _ := binding then throw .wrongType
  let c ← Lookup.classOf binding
  if c.isStruct then throw .noSuchMember
  bind dispatch c v

/-- An object as one of another class. What is no object of a class is of no other class either, and
objects of struct bindings have no handle to keep. -/
def castTo (v target : Value) : Act σ Value :=
  match target, v with
  | .cls target, .object c h => target.cast c h
  | .cls target, .record c _ =>
    throw (if c.derivesFrom target then .noSuchMember else .ofKind .invalidCast)
  | .cls _, _ => throw (.ofKind .invalidCast)
  | _, _ => throw .wrongType

/-- An object as a plain reference. -/
def plain (v : Value) : Act σ Value :=
  match v with
  | .object _ h | .weak h => return .refTo h
  | _ => throw .noSuchMember

/-- The methods of a class of bindings. -/
def classMethod? (c : BindingClass) (method : String) : Option (Method σ) :=
  match c.isStruct, method with
  | false, "static_class" => some (answering (Lookup.staticClass dispatch statics c))
  | false, "checked" => some (taking (bind dispatch c))
  | true, "static_struct" =>
    if c.located then some (answering (Lookup.staticStruct dispatch statics c)) else none
  | true, "_find_static_struct" => some (answering (Lookup.findStruct dispatch statics c))
  | _, _ => none

/-- The method of a value with a name. A class has the methods of its objects too, which take the
object first. -/
def method? (v : Value) (method : String) : Option (Method σ) :=
  match v, method with
  | .ref _, "null" => some (answering (return .ref .null))
  | .ref _, "from_raw" => some (taking fun raw => return .refTo raw)
  | .ref h, "is_valid" => some (answering (isValid dispatch h))
  | .ref h, "checked" => some (answering do
    checked dispatch h
    return .ref h)
  | .ref h, "bind" => some (taking fun binding => bindTo dispatch binding (.ref h))
  | .weak _, "from_ref" => some (taking (makeWeak dispatch))
  | .weak index, "get" => some (answering (resolveWeak dispatch index))
  | .weak index, "is_valid" => some (answering (isWeakValid dispatch index))
  | .name _, "from_str" => some (taking fun s => do return .name (← (← dispatch).makeName s))
  | .name index, "to_str" => some (answering do (← dispatch).nameText index)
  | .struct _, "from_bytes" => some (taking fun data => do return .struct (← data.plainBytes))
  | .struct data, "as_bytes" => some (answering (return .bytes data))
  | .object _ _, "as_ref" => some (answering (plain v))
  | .object _ _, "cast" => some (taking (castTo v))
  | .cls c, "as_ref" => if c.isStruct then none else some (taking plain)
  | .cls c, "cast" =>
    if c.isStruct then none
    else some (2, fun args => do castTo (← args.value 0) (← args.value 1))
  | .object c _, _ | .record c _, _ | .cls c, _ => classMethod? dispatch statics c method
  | _, _ => none

/-- Calls the method of a value with a name. Other members cannot be called. -/
def callMethod (v : Value) (method : String) (args : Value) : Act σ Value := do
  match method? dispatch statics v method with
  | some f => Arguments.apply f args
  | none =>
    discard (v.attribute method : Except Fault Value)
    throw .wrongType

/-- The member of a value with a name. A method is no value to answer with. -/
def member (v : Value) (name : String) : Act σ Value :=
  if (method? dispatch statics v name).isSome then throw .wrongType else v.attribute name

end Reference
end Bindery
