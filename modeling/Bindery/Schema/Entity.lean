import Bindery.Schema.Label
import Bindery.Schema.Record

/-!
# Schema entities

The schema as the generator uses it. What a property is made of is one level deep, since neither
elements of containers nor parameters of delegates nest any further.

* `PropertyKind`: the closed list of property types that a schema can mention, and constructors for
  what else can stand in their place. `PropertyKind.ofLabel`: the kind that a tag denotes.
* `Datum`: a named value of a reflected type with the names that the type refers to.
* `Property`, `Function`, `ClassInfo`, `StructInfo`, `EnumInfo`, `Schema`.
* `Datum.direction`: how a parameter travels, read off its flags.
* `Schema.ofRecord`: the entities of records. A null entry of a list becomes a property of the
  kind `absent`.
-/

namespace Bindery

/-! ## Kinds of properties -/

/-- The reflected type of a property, parameter or container element. -/
inductive PropertyKind where
  | bool | int8 | byte | int16 | uint16 | int32 | uint32 | int64 | uint64 | float | double
  | string | text | name | enum | object | classRef | softObject | weakObject | interface
  | struct | array | map | set
  | delegate | multicast | multicastInline | multicastSparse
  /-- A tag outside the list. -/
  | other (tag : String)
  /-- A value in place of a tag by which nothing can be found. -/
  | unusable
  /-- The kind of a null entry, which has no tag to ask for. -/
  | absent
deriving DecidableEq, Repr

namespace PropertyKind

/-- The kinds with a tag of their own. -/
def tagged : List (String × PropertyKind) := [
  ("BoolProperty", bool), ("Int8Property", int8), ("ByteProperty", byte),
  ("Int16Property", int16), ("UInt16Property", uint16), ("IntProperty", int32),
  ("UInt32Property", uint32), ("Int64Property", int64), ("UInt64Property", uint64),
  ("FloatProperty", float), ("DoubleProperty", double), ("StrProperty", string),
  ("TextProperty", text), ("NameProperty", name), ("EnumProperty", enum),
  ("ObjectProperty", object), ("ClassProperty", classRef), ("SoftObjectProperty", softObject),
  ("WeakObjectProperty", weakObject), ("InterfaceProperty", interface),
  ("StructProperty", struct), ("ArrayProperty", array), ("MapProperty", map),
  ("SetProperty", set), ("DelegateProperty", delegate),
  ("MulticastDelegateProperty", multicast),
  ("MulticastInlineDelegateProperty", multicastInline),
  ("MulticastSparseDelegateProperty", multicastSparse)]

/-- The kind that a tag denotes. -/
def ofTag (tag : String) : PropertyKind :=
  ((tagged.find? fun e => e.1 = tag).map (·.2)).getD (other tag)

/-- The kind that a tag denotes, whatever its type. -/
def ofLabel : Label → PropertyKind
  | .text tag => ofTag tag
  | tag => if tag.isKey then other tag.spoken else unusable

/-- The tag of a kind. -/
def tag : PropertyKind → String
  | bool => "BoolProperty"
  | int8 => "Int8Property"
  | byte => "ByteProperty"
  | int16 => "Int16Property"
  | uint16 => "UInt16Property"
  | int32 => "IntProperty"
  | uint32 => "UInt32Property"
  | int64 => "Int64Property"
  | uint64 => "UInt64Property"
  | float => "FloatProperty"
  | double => "DoubleProperty"
  | string => "StrProperty"
  | text => "TextProperty"
  | name => "NameProperty"
  | enum => "EnumProperty"
  | object => "ObjectProperty"
  | classRef => "ClassProperty"
  | softObject => "SoftObjectProperty"
  | weakObject => "WeakObjectProperty"
  | interface => "InterfaceProperty"
  | struct => "StructProperty"
  | array => "ArrayProperty"
  | map => "MapProperty"
  | set => "SetProperty"
  | delegate => "DelegateProperty"
  | multicast => "MulticastDelegateProperty"
  | multicastInline => "MulticastInlineDelegateProperty"
  | multicastSparse => "MulticastSparseDelegateProperty"
  | other t => t
  | unusable | absent => ""

/-- Arrays, maps and sets. -/
def isContainer : PropertyKind → Bool
  | array | map | set => true
  | _ => false

/-- Callbacks that the host fires. -/
def isDelegate : PropertyKind → Bool
  | delegate | multicast | multicastInline | multicastSparse => true
  | _ => false

/-- The kinds that bindings can be made for. -/
def isSupported : PropertyKind → Bool
  | multicast | other _ | unusable | absent => false
  | _ => true

end PropertyKind

/-! ## Entities -/

/-- Whether bit `i` of a flag word is set; negative words count as extended by their sign. -/
def hasFlag (flags : Int) (i : Nat) : Bool := flags / Nat.pow 2 i % 2 = 1

/-- How a parameter travels. -/
inductive Direction where
  | input | output | inOut | result
deriving DecidableEq, Repr

/-- The word for a direction. -/
def Direction.name : Direction → String
  | input => "in"
  | output => "out"
  | inOut => "in_out"
  | result => "return"

/-- A named value of a reflected type: a property, a parameter or a container element. What it does
not refer to is null. -/
structure Datum where
  name : Label
  kind : PropertyKind
  flags : Int := 0
  enumName : Label := .null
  enumUnderlying : Label := .null
  className : Label := .null
  metaClassName : Label := .null
  structName : Label := .null
  interfaceName : Label := .null
deriving DecidableEq

namespace Datum

/-- A constant parameter. -/
def isConst (d : Datum) : Bool := hasFlag d.flags 1

/-- A parameter that the callee writes. -/
def isOut (d : Datum) : Bool := hasFlag d.flags 8

/-- The return value. -/
def isReturn (d : Datum) : Bool := hasFlag d.flags 10

/-- A parameter passed by reference. -/
def isReference (d : Datum) : Bool := hasFlag d.flags 27

/-- A property that only its class may access. -/
def isPrivate (d : Datum) : Bool := hasFlag d.flags 54

/-- A property that only its class and subclasses may access. -/
def isProtected (d : Datum) : Bool := hasFlag d.flags 53

/-- How the parameter travels. An output that is constant is an input passed by reference. -/
def direction (d : Datum) : Direction :=
  if d.isReturn then .result
  else if d.isOut && d.isConst then .input
  else if d.isOut && d.isReference then .inOut
  else if d.isOut then .output
  else .input

/-- What stands for a null entry of a list. -/
def absent : Datum := { name := .null, kind := .absent }

end Datum

/-- The signature of a delegate. -/
structure Signature where
  name : Label
  params : List Datum
deriving DecidableEq

/-- A property of a class or struct, or a function parameter. -/
structure Property extends Datum where
  arrayDim : Int := 1
  inner : Option Datum := none
  key : Option Datum := none
  value : Option Datum := none
  element : Option Datum := none
  signature : Option Signature := none
  /-- Whether the property names a getter or a setter of its own. -/
  hasAccessor : Bool := false
  /-- The default of a parameter, null if there is none. -/
  default : Document := .null
deriving DecidableEq

/-- The declared elements of a container: one for arrays and sets, key and value for maps. -/
def Property.elements (p : Property) : List (Option Datum) :=
  match p.kind with
  | .array => [p.inner]
  | .set => [p.element]
  | .map => [p.key, p.value]
  | _ => []

/-- A reflected function. `declaredName` is its name in the schema once it may have been renamed;
it is empty before that. -/
structure Function where
  name : Label
  flags : Int := 0
  isStatic : Bool := false
  params : List Property := []
  declaredName : Label := .text ""
deriving DecidableEq

namespace Function

/-- A function with a native body. -/
def isNative (f : Function) : Bool := hasFlag f.flags 10

/-- A function that is called without an object. -/
def staticCall (f : Function) : Bool := f.isStatic || hasFlag f.flags 13

/-- The name by which the host finds the function. -/
def lookupName (f : Function) : Label := if f.declaredName.isEmpty then f.name else f.declaredName

end Function

/-- A reflected class. -/
structure ClassInfo where
  name : Label
  cppName : Label
  package : Label
  header : Label := .text ""
  super : Label := .null
  props : List Property := []
  funcs : List Function := []
deriving DecidableEq

/-- A reflected struct. Only a struct with a static descriptor can be looked up by name. -/
structure StructInfo where
  name : Label
  cppName : Label
  package : Label
  hasStaticStruct : Bool := false
  props : List Property := []
deriving DecidableEq

/-- A reflected enum with its declared variants. -/
structure EnumInfo where
  name : Label
  cppName : Label
  package : Label
  underlying : Label := .text "uint8"
  pairs : List (String × Int) := []
deriving DecidableEq

/-- A reflection schema. -/
structure Schema where
  classes : List ClassInfo := []
  structs : List StructInfo := []
  enums : List EnumInfo := []
deriving DecidableEq

namespace PropertyRecord

/-- The record's own name, type and references. -/
def toDatum (r : PropertyRecord) : Datum :=
  { name := r.name, kind := .ofLabel r.type, flags := r.flags
    enumName := r.enumName, enumUnderlying := r.enumUnderlying
    className := r.className, metaClassName := r.metaClassName
    structName := r.structName, interfaceName := r.interfaceName }

/-- The property of a record. -/
def toProperty (r : PropertyRecord) : Property :=
  { r.toDatum with
    arrayDim := r.arrayDim
    inner := r.inner.map toDatum, key := r.key.map toDatum
    value := r.value.map toDatum, element := r.element.map toDatum
    signature := r.signature.map fun s =>
      ⟨s.name, (s.params.getD []).map fun p => (p.map toDatum).getD Datum.absent⟩
    hasAccessor := !r.getter.isEmpty || !r.setter.isEmpty
    default := r.default }

end PropertyRecord

/-- The properties of a list of records. -/
def propertiesOf (rs : List (Option PropertyRecord)) : List Property :=
  rs.map fun r => (r.map PropertyRecord.toProperty).getD { Datum.absent with }

/-- The function of a record. -/
def FunctionRecord.toFunction (r : FunctionRecord) : Function :=
  { name := r.name, flags := r.flags, isStatic := r.isStatic, params := propertiesOf r.params }

/-- The class of a record. -/
def ClassRecord.toClass (r : ClassRecord) : ClassInfo :=
  { name := r.name, cppName := r.cppName, package := r.package, header := r.header
    super := r.super, props := propertiesOf r.props
    funcs := r.funcs.map FunctionRecord.toFunction }

/-- The struct of a record. -/
def StructRecord.toStruct (r : StructRecord) : StructInfo :=
  { name := r.name, cppName := r.cppName, package := r.package
    hasStaticStruct := r.hasStaticStruct, props := propertiesOf r.props }

/-- The enum of a record. -/
def EnumRecord.toEnum (r : EnumRecord) : EnumInfo :=
  { name := r.name, cppName := r.cppName, package := r.package, underlying := r.underlying
    pairs := r.pairs }

/-- The entities of the records of a schema. -/
def Schema.ofRecord (r : SchemaRecord) : Schema :=
  { classes := r.classes.map ClassRecord.toClass
    structs := r.structs.map StructRecord.toStruct
    enums := r.enums.map EnumRecord.toEnum }

end Bindery
