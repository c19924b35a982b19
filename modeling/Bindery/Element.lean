import Bindery.Context
import Bindery.Mapping

/-!
# Container elements

What a container can hold: the codec that turns an element into bytes and back, and the entities
its type refers to.

* `Codec`: the element codecs of the runtime, with the expression that denotes each.
* `Datum.element?`: the element of a type, if it can be stored; containers do not nest.
* `Property.parts?`: the elements of a container property.
-/

namespace Bindery

/-- A codec for container elements. -/
inductive Codec where
  | bool
  | int (t : IntType)
  | f32
  | f64
  | text
  | name
  | handle
  | object
  | struct
  | enum (enum : Label) (repr : IntType)
deriving DecidableEq

/-- The expression for a codec in generated code. -/
def Codec.expr : Codec → String
  | bool => "elements.BOOL"
  | int t => "elements." ++ t.tag.toUpper
  | f32 => "elements.F32"
  | f64 => "elements.F64"
  | text => "elements.STRING"
  | name => "elements.NAME"
  | handle => "elements.HANDLE"
  | object => "elements.OBJECT"
  | struct => "elements.STRUCT"
  | enum e repr => "elements.enum_of(" ++ e.spoken ++ ", \"" ++ repr.tag ++ "\")"

/-- A storable element: its type in signatures, its codec, and the class or struct that its type
mentions. -/
structure Element where
  display : Label
  codec : Codec
  classRef : Option Label := none
  structRef : Option Label := none
deriving DecidableEq

/-- The enum that a codec decodes to. -/
def Element.enumRef (e : Element) : Option Label :=
  match e.codec with
  | .enum name _ => some name
  | _ => none

/-- The integer kinds other than bytes, with their types. -/
def PropertyKind.intType? (k : PropertyKind) : Option IntType := k.intRow?.map (·.declared)

namespace Element

/-- The element of an enum type; within a context the enum has to be available, and its stored
type counts. -/
def ofEnum (ctx : Option Context) (enum underlying : Label) : Option Element :=
  match ctx with
  | none => some { display := enum, codec := .enum enum (Mapping.declaredEnumType underlying) }
  | some ctx => (ctx.enumRepr? enum).map fun repr => { display := enum, codec := .enum enum repr }

/-- The element of a reference to an object of a class. -/
def ofObject (ctx : Option Context) (target : Option Label) : Option Element :=
  match target with
  | none => some { display := .text "UObjectHandle", codec := .handle }
  | some c =>
    if ctx.all fun ctx => (ctx.class? c).isSome then
      some {
        display := .text ("UObjectRef[" ++ c.spoken ++ "]"), codec := .object
        classRef := some c }
    else none

/-- The element of a struct type; within a context it needs a static descriptor. -/
def ofStruct (ctx : Option Context) (struct : Label) : Option Element :=
  match ctx with
  | none => some { display := .text ("OwnedStruct[F" ++ struct.spoken ++ "]"), codec := .struct }
  | some ctx =>
    (ctx.struct? struct).bind fun s =>
      if s.hasStaticStruct then
        some {
          display := .text ("OwnedStruct[" ++ s.cppName.spoken ++ "]"), codec := .struct
          structRef := some struct }
      else none

end Element

/-- The element of a datum's type, none if containers cannot hold it. Without a context every
name counts as available. -/
def Datum.element? (d : Datum) (ctx : Option Context) : Option Element :=
  match d.kind with
  | .bool => some { display := .text "bool", codec := .bool }
  | .byte =>
    match d.enum? with
    | some enum => Element.ofEnum ctx enum d.enumUnderlying
    | none => some { display := .text "int", codec := .int .u8 }
  | .enum =>
    match d.enum? with
    | some enum => Element.ofEnum ctx enum d.enumUnderlying
    | none => none
  | .float => some { display := .text "float", codec := .f32 }
  | .double => some { display := .text "float", codec := .f64 }
  | .string | .text => some { display := .text "str", codec := .text }
  | .name => some { display := .text "FNameHandle", codec := .name }
  | .object | .softObject | .weakObject | .classRef => Element.ofObject ctx d.target?
  | .interface => d.target?.bind fun target => Element.ofObject ctx (some target)
  | .struct => d.structName.given?.bind (Element.ofStruct ctx)
  | kind => kind.intType?.map fun t => { display := .text "int", codec := .int t }

namespace Property

/-- The elements of a container: one for arrays and sets, two for maps. None if the property is
no container or one of them cannot be stored. -/
def parts? (p : Property) (ctx : Option Context) : Option (List Element) :=
  if p.kind.isContainer then p.elements.mapM fun e => e.bind fun d => d.element? ctx else none

/-- The name of the view on a container. -/
def viewName (p : Property) : String :=
  match p.kind with
  | .array => "UeArray"
  | .set => "UeSet"
  | _ => "UeMap"

/-- The type of a view on a container. -/
def viewDisplay? (p : Property) (ctx : Option Context) : Option String :=
  (p.parts? ctx).map fun parts =>
    p.viewName ++ "[" ++ ", ".intercalate (parts.map (·.display.spoken)) ++ "]"

/-- The type of a container's content passed by value. -/
def valueDisplay? (p : Property) (ctx : Option Context) : Option String :=
  (p.parts? ctx).map fun parts =>
    let types := ", ".intercalate (parts.map (·.display.spoken))
    match p.kind with
    | .map => "list[tuple[" ++ types ++ "]]"
    | _ => "list[" ++ types ++ "]"

end Property
end Bindery
