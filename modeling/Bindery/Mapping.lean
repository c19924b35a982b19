import Bindery.Enum.Layout

/-!
# Type mappings

How a reflected type is represented: in the bindings, in the slots between them and the host, and
in the C++ wrappers.

* `Conversion`: how a value crosses the boundary.
* `Mapping`: the representation of one type; `Datum.mapping` computes it.
-/

namespace Bindery

/-- How one value crosses the boundary to the host. -/
inductive Conversion where
  | identity | intCast | objectRef | text | enumCast | structBytes | name
  | array | map | set | delegate | multicast
deriving DecidableEq, Repr

namespace Conversion

/-- The tag of a conversion. -/
def tag : Conversion → String
  | identity => "identity"
  | intCast => "int_cast"
  | objectRef => "object_ref"
  | text => "string_utf8"
  | enumCast => "enum_cast"
  | structBytes => "struct_opaque"
  | name => "fname"
  | array => "container_array"
  | map => "container_map"
  | set => "container_set"
  | delegate => "delegate"
  | multicast => "multicast_delegate"

/-- Arrays, maps and sets. -/
def isContainer : Conversion → Bool
  | array | map | set => true
  | _ => false

end Conversion

/-- What carries a value: a fixed-size slot, UTF-8 bytes, the bytes of a struct, or nothing of its
own. -/
inductive Carrier where
  | none
  | slot (w : Wire)
  | text
  | bytes
deriving DecidableEq, Repr

namespace Carrier

/-- The tag of a carrier. -/
def tag : Carrier → String
  | none => ""
  | slot w => w.tag
  | text => "utf8"
  | bytes => "struct"

/-- The slot type of a carrier that is a slot. -/
def slot? : Carrier → Option Wire
  | slot w => some w
  | _ => Option.none

end Carrier

/-- The representation of a reflected type. -/
structure Mapping where
  /-- The type in signatures of the bindings. -/
  display : Label
  carrier : Carrier
  cppType : Label := .text ""
  /-- The host's property accessor, such as `i32` for `get_i32` and `set_i32`. -/
  accessor : Option String := none
  conversion : Conversion := .identity
  /-- Why there is no representation. -/
  unsupported : Option String := none
  /-- The declared integer type; the slot may be wider. -/
  declared : Option IntType := none
deriving DecidableEq

namespace Mapping

/-- Whether there is a representation. -/
def supported (m : Mapping) : Bool := m.unsupported.isNone

/-- The name of the host's getter. -/
def getter (m : Mapping) : String := (m.accessor.map ("get_" ++ ·)).getD ""

/-- The name of the host's setter. -/
def setter (m : Mapping) : String := (m.accessor.map ("set_" ++ ·)).getD ""

/-- The tag of the declared integer type, that of the carrier for other types. -/
def declaredTag (m : Mapping) : String := (m.declared.map (·.tag)).getD m.carrier.tag

/-- Whether the value travels in the slot of a handle. -/
def isHandle (m : Mapping) : Bool := m.carrier = .slot .handle

end Mapping

/-- A row of the integer types: the declared type, the type of the slot, and the C++ type. The
host's property accessors only exist for some widths, so slots can be wider. -/
structure IntRow where
  declared : IntType
  slot : IntType
  accessor : IntType
  cppType : String

/-- The row of an integer kind. -/
def PropertyKind.intRow? : PropertyKind → Option IntRow
  | int8 => some ⟨.i8, .u8, .u8, "int8"⟩
  | int16 => some ⟨.i16, .i32, .i32, "int16"⟩
  | uint16 => some ⟨.u16, .i32, .i32, "uint16"⟩
  | int32 => some ⟨.i32, .i32, .i32, "int32"⟩
  | uint32 => some ⟨.u32, .i32, .i32, "uint32"⟩
  | int64 => some ⟨.i64, .i64, .i64, "int64"⟩
  | uint64 => some ⟨.u64, .i64, .i64, "uint64"⟩
  | _ => none

namespace Mapping

/-- The mapping of an integer type. -/
def ofInt (row : IntRow) : Mapping :=
  { display := .text "int", carrier := .slot (.int row.slot), cppType := .text row.cppType
    accessor := some row.accessor.tag
    conversion := if row.declared = row.slot then .identity else .intCast
    declared := some row.declared }

/-- The type that a property says its enum is declared with; an absent one is `uint8`. -/
def declaredEnumType (underlying : Label) : IntType :=
  enumType ((Label.given? underlying).getD (.text "uint8"))

/-- The mapping of an enum, stored in the type it is declared with. -/
def ofEnum (enum underlying : Label) : Mapping :=
  { display := enum, carrier := .slot (.int (declaredEnumType underlying)), cppType := enum
    accessor := some "enum", conversion := .enumCast }

/-- The mapping of an object reference; without a class it is a bare handle. -/
def ofObject (target : Option Label) : Mapping :=
  match target with
  | some c =>
    { display := .text ("UObjectRef[" ++ c.spoken ++ "]"), carrier := .slot .handle
      cppType := .text (c.spoken ++ "*"), accessor := some "object", conversion := .objectRef }
  | none =>
    { display := .text "UObjectHandle", carrier := .slot .handle, cppType := .text "UObject*"
      accessor := some "object" }

/-- The mapping of a type that no slot carries. -/
def ofView (display : String) (conversion : Conversion) : Mapping :=
  { display := .text display, carrier := .none, conversion }

/-- The absent mapping of an unsupported type. -/
def ofUnsupported (reason : String) : Mapping :=
  { display := .text "object", carrier := .none, unsupported := some ("unsupported: " ++ reason) }

end Mapping

namespace Datum

/-- The enum that the type refers to. -/
def enum? (d : Datum) : Option Label := d.enumName.given?

/-- The class that a reference refers to. A class reference is described by its meta class. -/
def target? (d : Datum) : Option Label :=
  match d.kind with
  | .object | .softObject | .weakObject => d.className.given?
  | .classRef => d.metaClassName.given?.or d.className.given?
  | .interface => d.interfaceName.given?
  | _ => none

/-- The representation of a datum's type. -/
def mapping (d : Datum) : Mapping :=
  match d.kind with
  | .bool =>
    { display := .text "bool", carrier := .slot .bool, cppType := .text "bool"
      accessor := some "bool" }
  | .byte =>
    match d.enum? with
    | some enum => .ofEnum enum d.enumUnderlying
    | none => .ofInt ⟨.u8, .u8, .u8, "uint8"⟩
  | .float =>
    { display := .text "float", carrier := .slot .f32, cppType := .text "float"
      accessor := some "f32" }
  | .double =>
    { display := .text "float", carrier := .slot .f64, cppType := .text "double"
      accessor := some "f64" }
  | .string =>
    { display := .text "str", carrier := .text, cppType := .text "FString"
      accessor := some "string", conversion := .text }
  | .text =>
    { display := .text "str", carrier := .text, cppType := .text "FText"
      accessor := some "string", conversion := .text }
  | .name =>
    { display := .text "FNameHandle", carrier := .slot .name, cppType := .text "FName"
      accessor := some "fname", conversion := .name }
  | .enum =>
    match d.enum? with
    | some enum => .ofEnum enum d.enumUnderlying
    | none => .ofUnsupported "EnumProperty without enum_name"
  | .object | .softObject | .weakObject | .classRef => .ofObject d.target?
  | .interface =>
    match d.target? with
    | some target => .ofObject (some target)
    | none => .ofUnsupported "InterfaceProperty without interface_name"
  | .struct =>
    match d.structName.given? with
    | some struct =>
      { display := .text "bytes", carrier := .bytes, cppType := .text ("F" ++ struct.spoken)
        accessor := some "struct", conversion := .structBytes }
    | none => .ofUnsupported "StructProperty without struct_name"
  | .array => .ofView "UeArray" .array
  | .map => .ofView "UeMap" .map
  | .set => .ofView "UeSet" .set
  | .delegate => .ofView "Delegate" .delegate
  | .multicastInline | .multicastSparse => .ofView "MulticastDelegate" .multicast
  | kind =>
    match kind.intRow? with
    | some row => .ofInt row
    | none => .ofUnsupported kind.tag

end Datum
end Bindery
