import Bindery.Host.Word

/-!
# Host primitives

What a host offers to the bindings, as a record of computations. Bindings are written against
this record, so they work over every host.

* `Primitives σ`: the primitives, with effects on a state `σ`.
* `ScalarKind`, `Scalar`: the properties that are read and written as one value, and their values.
* `Shape`: the shapes of containers.

Handles, names and indices are values, and so is what a host answers: hosts differ in what they take
for one, and a host at fault may answer with anything. Most primitives answer a code, zero for
success. Texts, structs and elements of containers cross as bytes. A container is addressed by its
owner, an object or a temporary, and a property.
-/

namespace Bindery.Host

/-- What can be looked up by its name alone. -/
inductive Global where
  | cls
  | staticClass
  | struct
deriving DecidableEq, Repr

/-- What can be looked up by its name within something else. -/
inductive Member where
  | property
  | structProperty
  | function
  | functionByClass
  | parameter
deriving DecidableEq, Repr

/-- Numbers that a host knows about properties and structs. -/
inductive Measure where
  | propertyOffset
  | propertySize
  | elementSize
  | structSize
deriving DecidableEq, Repr

/-- The kinds of property that are read and written as one value. -/
inductive ScalarKind where
  | bool | u8 | i32 | i64 | f32 | f64 | name | object | enum
deriving DecidableEq, Repr

/-- The value of such a property. -/
inductive Scalar where
  | bool (b : Bool)
  | int (n : Int)
  | float (d : Number.Double)
  | handle (h : Value)
deriving Inhabited

/-- The value of a property that has not been written. -/
def ScalarKind.default : ScalarKind → Scalar
  | bool => .bool false
  | f32 | f64 => .float (.ofParts false 0)
  | object => .handle .null
  | u8 | i32 | i64 | name | enum => .int 0

/-- A scalar as a value. -/
def Scalar.value : Scalar → Value
  | bool b => .bool b
  | int n => .int n
  | float d => .float d
  | handle h => h

/-- All kinds. -/
def ScalarKind.all : List ScalarKind := [bool, u8, i32, i64, f32, f64, name, object, enum]

/-- The shapes of containers. -/
inductive Shape where
  | array | map | set
deriving DecidableEq, Repr

/-- Objects and names. -/
structure ObjectPrimitives (σ : Type) where
  isValid : Value → Act σ Value
  objectName : Value → Act σ Value
  /-- The index of a name in the host's table of names. -/
  makeName : Value → Act σ Value
  nameText : Value → Act σ Value
  /-- The index of an object in the host's table of weak references. -/
  makeWeak : Value → Act σ Value
  resolveWeak : Value → Act σ Value
  isWeakValid : Value → Act σ Value

/-- Look-ups and calls by name. -/
structure ReflectionPrimitives (σ : Type) where
  find : Global → Value → Act σ Value
  findIn : Member → Value → Value → Act σ Value
  measure : Measure → Value → Act σ Value
  /-- A block of memory for the parameters of a function. -/
  allocParams : Value → Act σ Value
  freeParams : Value → Value → Act σ Unit
  /-- Calls a function on an object, with a block of parameters. -/
  callFunction : Value → Value → Value → Act σ Value

/-- Access to properties. Readers take the number of bytes wanted. -/
structure PropertyPrimitives (σ : Type) where
  /-- Reads a scalar; a host at fault may answer a code only. -/
  getScalar : ScalarKind → Value → Value → Act σ (Value × Option Scalar)
  setScalar : ScalarKind → Value → Value → Scalar → Act σ Value
  getText : Value → Value → Nat → Act σ (Value × Bytes)
  setText : Value → Value → Bytes → Act σ Value
  getStruct : Value → Value → Nat → Act σ (Value × Bytes)
  setStruct : Value → Value → Bytes → Act σ Value
  /-- Reads an element of a fixed-size array. -/
  getElement : Value → Value → Value → Nat → Act σ (Value × Bytes)
  setElement : Value → Value → Value → Bytes → Act σ Value

/-- Containers. Readers take the most bytes wanted; the bulk readers answer all elements as frames,
with their number. -/
structure ContainerPrimitives (σ : Type) where
  count : Shape → Value → Value → Act σ Value
  clear : Shape → Value → Value → Act σ Value
  copyAll : Shape → Value → Value → Act σ (Value × Bytes × Int)
  arrayGet : Value → Value → Value → Nat → Act σ (Value × Value)
  arraySet : Value → Value → Value → Bytes → Act σ Value
  arrayAdd : Value → Value → Bytes → Act σ Value
  arrayRemove : Value → Value → Value → Act σ Value
  arraySetAll : Value → Value → Bytes → Int → Act σ Value
  mapFind : Value → Value → Bytes → Nat → Act σ (Value × Value)
  mapAdd : Value → Value → Bytes → Bytes → Act σ Value
  mapRemove : Value → Value → Bytes → Act σ Value
  mapPair : Value → Value → Value → Nat → Nat → Act σ (Value × Value × Value)
  setContains : Value → Value → Bytes → Act σ Value
  setAdd : Value → Value → Bytes → Act σ Value
  setRemove : Value → Value → Bytes → Act σ Value
  setGet : Value → Value → Value → Nat → Act σ (Value × Value)
  /-- A temporary container for a property, null if there is no room. -/
  allocTemp : Value → Act σ Value
  /-- Frees the temporary of a property. -/
  freeTemp : Value → Value → Act σ Unit

/-- Delegates, bound to callbacks by their ids. -/
structure DelegatePrimitives (σ : Type) where
  bind : Value → Value → Int → Act σ Value
  unbind : Value → Value → Act σ Value
  addMulticast : Value → Value → Int → Act σ Value
  removeMulticast : Value → Value → Int → Act σ Value
  /-- Fires a delegate with the bytes of its parameters; what counts as false is none. -/
  broadcast : Value → Value → Value → Act σ Value

/-- The primitives of a host. -/
structure Primitives (σ : Type) extends ObjectPrimitives σ, ReflectionPrimitives σ,
  PropertyPrimitives σ, ContainerPrimitives σ, DelegatePrimitives σ

end Bindery.Host
