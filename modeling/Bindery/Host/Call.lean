import Bindery.Host.Primitives
import Bindery.Value.Basic

/-!
# Primitives by name

Every primitive has a name, by which it can be called with untyped arguments and given faults. The
sizes of buffers and what is passed in buffers come first, since they are made before the call.

* `Global.primitive` and the like: the names of families of primitives.
* `Primitives.call`: calls a primitive by its name. Several results are answered as a list.
-/

namespace Bindery.Host

variable {σ : Type}

/-! ## Names -/

/-- The name of a look-up. -/
def Global.primitive : Global → String
  | cls => "find_class"
  | staticClass => "get_static_class"
  | struct => "find_struct"

/-- The name of a look-up within something. -/
def Member.primitive : Member → String
  | property => "find_property"
  | structProperty => "find_struct_property"
  | function => "find_function"
  | functionByClass => "find_function_by_class"
  | parameter => "get_function_param"

/-- The name of the primitive for a number. -/
def Measure.primitive : Measure → String
  | propertyOffset => "get_property_offset"
  | propertySize => "get_property_size"
  | elementSize => "get_element_size"
  | structSize => "get_struct_size"

/-- How the names of primitives call a kind of property. -/
def ScalarKind.tag : ScalarKind → String
  | bool => "bool"
  | u8 => "u8"
  | i32 => "i32"
  | i64 => "i64"
  | f32 => "f32"
  | f64 => "f64"
  | name => "fname"
  | object => "object"
  | enum => "enum"

/-- The name of the reader of a kind of property. -/
def ScalarKind.getter (kind : ScalarKind) : String := "get_" ++ kind.tag

/-- The name of the writer of a kind of property. -/
def ScalarKind.setter (kind : ScalarKind) : String := "set_" ++ kind.tag

/-- How the names of primitives call a shape. -/
def Shape.tag : Shape → String
  | array => "array"
  | map => "map"
  | set => "set"

/-- The name of the primitive that counts. -/
def Shape.counter (shape : Shape) : String := shape.tag ++ "_len"

/-- The name of the primitive that removes all elements. -/
def Shape.clearer (shape : Shape) : String := shape.tag ++ "_clear"

/-- The name of the bulk reader. -/
def Shape.copier (shape : Shape) : String := shape.tag ++ "_copy_all"

/-! ## Arguments -/

/-- An argument that is a number. -/
def numberAt (args : Arguments) (i : Nat) : Act σ Int := do
  Act.ofExcept (Word.number (← args.value i))

/-- An argument that is passed as an address and a number of bytes. -/
def dataAt (args : Arguments) (i : Nat) : Act σ Bytes := do
  Act.ofExcept (Word.data (← args.value i))

/-- The size of a buffer, for which there has to be memory. The contents of a buffer are no size. -/
def sizeAt (args : Arguments) (i : Nat) : Act σ Nat := do
  match ← args.value i with
  | .bytes _ => throw .badArgument
  | v => Act.ofExcept (v.index >>= Value.sizeOfInt)

/-- The scalar that a value can be passed as. Any value counts as true or false. -/
def ScalarKind.ofValue (kind : ScalarKind) (v : Value) : Except Fault Scalar :=
  match kind with
  | bool => .ok (.bool v.isTruthy)
  | f32 | f64 => .float <$> v.toDouble
  | object => do return .handle (Word.handle (← Word.address v))
  | u8 | i32 | i64 | name | enum => .int <$> v.index

/-! ## Calls -/

namespace Primitives

variable (p : Primitives σ)

/-- The number of a primitive's arguments, and what it does with them. -/
abbrev Entry (σ : Type) := Arguments.Callable σ

/-- A primitive on an owner and a property. -/
def onSlot {α : Type} (args : Arguments) (f : Value → Value → Act σ α) : Act σ α := do
  f (← args.value 0) (← args.value 1)

/-- A primitive that answers nothing. -/
def silent (act : Act σ Unit) : Act σ Value := do
  act
  return .null

/-- An answer of a code and bytes. -/
def codeAndBytes (act : Act σ (Value × Bytes)) : Act σ Value := do
  let (code, data) ← act
  return .list [code, .bytes data]

/-- An answer of a code and an element. -/
def codeAndElement (act : Act σ (Value × Value)) : Act σ Value := do
  let (code, data) ← act
  return .list [code, data]

/-- Primitives on objects and names. -/
def callObjects (name : String) : Option (Entry σ) :=
  match name with
  | "is_valid" => some (1, fun args => do p.isValid (← args.value 0))
  | "get_name" => some (1, fun args => do p.objectName (← args.value 0))
  | "make_fname" => some (1, fun args => do p.makeName (← args.value 0))
  | "fname_to_string" => some (1, fun args => do p.nameText (← args.value 0))
  | "make_weak" => some (1, fun args => do p.makeWeak (← args.value 0))
  | "resolve_weak" => some (1, fun args => do p.resolveWeak (← args.value 0))
  | "is_weak_valid" => some (1, fun args => do p.isWeakValid (← args.value 0))
  | _ => none

/-- Look-ups, and primitives for calls by name. -/
def callReflection (name : String) : Option (Entry σ) :=
  if let some kind := [Global.cls, .staticClass, .struct].find? fun k => k.primitive = name then
    some (1, fun args => do p.find kind (← args.value 0))
  else if let some kind := [Member.property, .structProperty, .function, .functionByClass,
      .parameter].find? fun k => k.primitive = name then
    some (2, fun args => onSlot args (p.findIn kind))
  else if let some m := [Measure.propertyOffset, .propertySize, .elementSize,
      .structSize].find? fun m => m.primitive = name then
    some (1, fun args => do p.measure m (← args.value 0))
  else match name with
    | "alloc_params" => some (1, fun args => do p.allocParams (← args.value 0))
    | "free_params" => some (2, fun args => silent (onSlot args p.freeParams))
    | "call_function" => some (3, fun args => onSlot args fun obj func => do
      p.callFunction obj func (← args.value 2))
    | _ => none

/-- Primitives on properties. -/
def callProperties (name : String) : Option (Entry σ) :=
  if let some kind := ScalarKind.all.find? fun k => k.getter = name then
    some (2, fun args => do
      let (code, v) ← onSlot args (p.getScalar kind)
      return .list [code, (v.getD kind.default).value])
  else if let some kind := ScalarKind.all.find? fun k => k.setter = name then
    some (3, fun args => onSlot args fun obj prop => do
      match kind.ofValue (← args.value 2) with
      | .ok v => p.setScalar kind obj prop v
      | .error _ => throw .badArgument)
  else match name with
    | "get_string" => some (3, fun args => codeAndBytes do
      let size ← sizeAt args 2
      onSlot args fun obj prop => p.getText obj prop size)
    | "set_string" =>
      some (3, fun args => onSlot args fun obj prop => do p.setText obj prop (← dataAt args 2))
    | "get_struct" => some (3, fun args => codeAndBytes do
      let size ← sizeAt args 2
      onSlot args fun obj prop => p.getStruct obj prop size)
    | "set_struct" =>
      some (3, fun args => onSlot args fun obj prop => do p.setStruct obj prop (← dataAt args 2))
    | "get_property_at" => some (4, fun args => codeAndBytes do
      let size ← sizeAt args 3
      onSlot args fun obj prop => do p.getElement obj prop (← args.value 2) size)
    | "set_property_at" => some (4, fun args => onSlot args fun obj prop => do
      p.setElement obj prop (← args.value 2) (← dataAt args 3))
    | _ => none

/-- Primitives that every shape of container has. -/
def callShapes (name : String) : Option (Entry σ) :=
  let shapes := [Shape.array, .map, .set]
  if let some shape := shapes.find? fun s => s.counter = name then
    some (2, fun args => onSlot args (p.count shape))
  else if let some shape := shapes.find? fun s => s.clearer = name then
    some (2, fun args => onSlot args (p.clear shape))
  else if let some shape := shapes.find? fun s => s.copier = name then
    some (2, fun args => do
      let (code, data, count) ← onSlot args (p.copyAll shape)
      return .list [code, .bytes data, .int count])
  else none

/-- Primitives on one shape of container. -/
def callContainers (name : String) : Option (Entry σ) :=
  match name with
  | "array_get" => some (4, fun args => codeAndElement do
    let size ← sizeAt args 3
    onSlot args fun obj prop => do p.arrayGet obj prop (← args.value 2) size)
  | "array_set" => some (4, fun args => onSlot args fun obj prop => do
    p.arraySet obj prop (← args.value 2) (← dataAt args 3))
  | "array_add" =>
    some (3, fun args => onSlot args fun obj prop => do p.arrayAdd obj prop (← dataAt args 2))
  | "array_remove" =>
    some (3, fun args => onSlot args fun obj prop => do p.arrayRemove obj prop (← args.value 2))
  | "array_set_all" => some (4, fun args => onSlot args fun obj prop => do
    p.arraySetAll obj prop (← dataAt args 2) (← numberAt args 3))
  | "map_find" => some (4, fun args => codeAndElement do
    let size ← sizeAt args 3
    onSlot args fun obj prop => do p.mapFind obj prop (← dataAt args 2) size)
  | "map_add" => some (4, fun args => onSlot args fun obj prop => do
    p.mapAdd obj prop (← dataAt args 2) (← dataAt args 3))
  | "map_remove" =>
    some (3, fun args => onSlot args fun obj prop => do p.mapRemove obj prop (← dataAt args 2))
  | "map_get_pair" => some (5, fun args => do
    let keySize ← sizeAt args 3
    let valueSize ← sizeAt args 4
    let (code, key, value) ← onSlot args fun obj prop => do
      p.mapPair obj prop (← args.value 2) keySize valueSize
    return .list [code, key, value])
  | "set_contains" =>
    some (3, fun args => onSlot args fun obj prop => do p.setContains obj prop (← dataAt args 2))
  | "set_add" =>
    some (3, fun args => onSlot args fun obj prop => do p.setAdd obj prop (← dataAt args 2))
  | "set_remove" =>
    some (3, fun args => onSlot args fun obj prop => do p.setRemove obj prop (← dataAt args 2))
  | "set_get_element" => some (4, fun args => codeAndElement do
    let size ← sizeAt args 3
    onSlot args fun obj prop => do p.setGet obj prop (← args.value 2) size)
  | "alloc_temp" => some (1, fun args => do p.allocTemp (← args.value 0))
  | "free_temp" => some (2, fun args => silent (onSlot args p.freeTemp))
  | _ => none

/-- Primitives on delegates. -/
def callDelegates (name : String) : Option (Entry σ) :=
  match name with
  | "bind_delegate" =>
    some (3, fun args => onSlot args fun obj prop => do p.bind obj prop (← numberAt args 2))
  | "unbind_delegate" => some (2, fun args => onSlot args p.unbind)
  | "add_multicast" =>
    some (3, fun args => onSlot args fun obj prop => do p.addMulticast obj prop (← numberAt args 2))
  | "remove_multicast" => some (3, fun args => onSlot args fun obj prop => do
    p.removeMulticast obj prop (← numberAt args 2))
  | "broadcast_multicast" =>
    some (3, fun args => onSlot args fun obj prop => do p.broadcast obj prop (← args.value 2))
  | _ => none

/-- What the primitives of a native host hold besides them, which cannot be called. -/
def parts : List String :=
  ["table", "core", "prop", "refl", "cont", "dlg", "COPY_ALL_INITIAL", "_get", "_read_string",
    "_read_indexed", "_copy_all"]

/-- Calls the primitive with a name. -/
def call (name : String) (args : Value) : Act σ Value := do
  let families := [callObjects p, callReflection p, callProperties p, callShapes p,
    callContainers p, callDelegates p]
  match families.findSome? fun family => family name with
  | some f => Arguments.apply f args
  | none => throw (if parts.contains name then .wrongType else .noSuchMember)

end Primitives
end Bindery.Host
