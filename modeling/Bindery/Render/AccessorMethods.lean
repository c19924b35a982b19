import Bindery.Accessor
import Bindery.Script.Expr

/-!
# Accessor methods

The methods of property accessors in the body of a class or struct. Scalars go through the host's
typed accessors, fixed arrays through the bytes of one element, and containers through views.
-/

namespace Bindery.Render

open Script

/-- The entity whose accessors are spelled out. -/
structure Owner where
  context : Context
  /-- The name by which the file refers to the entity. -/
  binding : String
  inClass : Bool

namespace Owner

/-- The address of the value that holds the properties. -/
def address (o : Owner) : String := if o.inClass then "self.handle" else "self.as_ptr()"

/-- Looks up a property once. -/
def lookup (o : Owner) (p : Property) : String :=
  let finder := if o.inClass then "find_class_property" else "find_struct_property"
  let name := p.name.display
  "_PROPS.get_or_init(" ++ name ++ ", lambda: " ++ finder ++ "(" ++ o.binding ++ ", " ++ name
    ++ "))"

end Owner

/-- The struct that wraps the bytes of a property's value. -/
def structWrapper? (ctx : Context) (a : Accessor) : Option StructInfo :=
  (ctx.struct? a.prop.structName).filter (·.hasStaticStruct)

/-- The type of an accessor's value. -/
def valueHint (ctx : Context) (a : Accessor) : String :=
  if a.isView then
    a.prop.viewName ++ "[" ++ ", ".intercalate ((a.parts.getD []).map (·.display.spoken)) ++ "]"
  else if a.mapping.conversion = .structBytes then
    match structWrapper? ctx a with
    | some s => "OwnedStruct[" ++ s.cppName.spoken ++ "]"
    | none => "bytes"
  else a.mapping.display.spoken

/-- A value from the host as a value of the bindings. -/
def fromHost (ctx : Context) (a : Accessor) (raw : Expr) : Expr :=
  match a.mapping.conversion with
  | .intCast => .apply "wrap_int" [raw, .str a.mapping.declaredTag]
  | .enumCast => (Expr.name a.mapping.display.spoken).method "from_value" [raw]
  | .name => .apply "FNameHandle" [raw]
  | .objectRef => .apply "UObjectRef" [raw]
  | .text => raw.method "decode" [.str "utf-8", .keyword "errors" (.str "replace")]
  | .structBytes =>
    if (structWrapper? ctx a).isSome then (Expr.name "OwnedStruct").method "from_bytes" [raw]
    else raw
  | _ => raw

/-- The argument `value` as a value for the host. -/
def toHost (a : Accessor) : Expr :=
  let value := Expr.name "value"
  match a.mapping.conversion with
  | .intCast => .apply "wrap_int" [.apply "int" [value], .str a.mapping.carrier.tag]
  | .enumCast => .apply "int" [value]
  | .name => .apply "name_value" [value]
  | .text => value.method "encode" [.str "utf-8"]
  | .structBytes => .apply "struct_bytes" [value]
  | _ => if a.mapping.isHandle then .apply "raw_handle" [value] else value

/-- The check of a host call on a property. -/
def checkLine (o : Owner) (p : Property) : String :=
  "        ffi_infallible_ctx(_code, \"" ++ o.binding ++ "." ++ p.name.spoken ++ "\")"

/-- The line that looks a property up. -/
def lookupLine (o : Owner) (p : Property) : String := "        _prop = " ++ o.lookup p

/-- The methods of a scalar property. -/
def scalarMethods (o : Owner) (a : Accessor) : List String :=
  let hint := valueHint o.context a
  let read := match a.mapping.conversion with
    | .text => "dispatch().get_string(" ++ o.address ++ ", _prop, 512)"
    | .structBytes =>
      "dispatch().get_struct(" ++ o.address ++ ", _prop, dispatch().get_property_size(_prop))"
    | _ => "dispatch()." ++ a.mapping.getter ++ "(" ++ o.address ++ ", _prop)"
  ["    def " ++ a.getter ++ "(self) -> " ++ hint ++ ":",
    lookupLine o a.prop,
    "        _code, _value = " ++ read,
    checkLine o a.prop,
    "        return " ++ (fromHost o.context a (.name "_value")).text,
    ""]
  ++ match a.setter with
    | none => []
    | some setter => [
      "    def " ++ setter ++ "(self, value: " ++ hint ++ "):",
      lookupLine o a.prop,
      "        _code = dispatch()." ++ a.mapping.setter ++ "(" ++ o.address ++ ", _prop, "
        ++ (toHost a).text ++ ")",
      checkLine o a.prop,
      ""]

/-- The slot of one element of a fixed array; structs have none. Enums count with the type the
host stores them in, integers with their declared type. -/
def elementWire? (ctx : Context) (a : Accessor) : Option String :=
  match a.mapping.conversion with
  | .structBytes => none
  | .enumCast =>
    some (((ctx.enumRepr? a.prop.enumName).map (·.tag)).getD a.mapping.carrier.tag)
  | .intCast => some a.mapping.declaredTag
  | _ => some a.mapping.carrier.tag

/-- The methods of a fixed array. -/
def arrayMethods (o : Owner) (a : Accessor) : List String :=
  let hint := valueHint o.context a
  let data := Expr.name "_data"
  let (value, bytes) : Expr × Expr := match elementWire? o.context a with
    | none => (fromHost o.context a data, Expr.apply "struct_bytes" [.name "value"])
    | some wire =>
      let raw := Expr.apply "unpack" [.str wire, data]
      if a.mapping.conversion = .intCast then
        (raw, Expr.apply "pack" [.str wire, .name "value"])
      else (fromHost o.context a raw, Expr.apply "pack" [.str wire, toHost a])
  let check := [
    "        if not 0 <= index < " ++ toString a.prop.arrayDim ++ ":",
    "            raise IndexOutOfRangeError()"]
  ["    def " ++ a.getter ++ "(self, index: int) -> " ++ hint ++ ":"]
  ++ check
  ++ [lookupLine o a.prop,
    "        _code, _data = dispatch().get_property_at(" ++ o.address ++ ", _prop, index, "
      ++ "dispatch().get_element_size(_prop))",
    checkLine o a.prop,
    "        return " ++ value.text,
    ""]
  ++ match a.setter with
    | none => []
    | some setter =>
      ["    def " ++ setter ++ "(self, index: int, value: " ++ hint ++ "):"]
      ++ check
      ++ [lookupLine o a.prop,
        "        _code = dispatch().set_property_at(" ++ o.address ++ ", _prop, index, "
          ++ bytes.text ++ ")",
        checkLine o a.prop,
        ""]

/-- The method of a container. -/
def viewMethod (o : Owner) (a : Accessor) : List String := [
  "    def " ++ a.getter ++ "(self) -> " ++ valueHint o.context a ++ ":",
  lookupLine o a.prop,
  "        return " ++ a.prop.viewName ++ "(" ++ o.address ++ ", _prop, "
    ++ ", ".intercalate ((a.parts.getD []).map (·.codec.expr)) ++ ")",
  ""]

/-- The methods of an accessor. -/
def accessorMethods (o : Owner) (a : Accessor) : List String :=
  if a.isView then viewMethod o a
  else if 1 < a.prop.arrayDim then arrayMethods o a
  else scalarMethods o a

end Bindery.Render
