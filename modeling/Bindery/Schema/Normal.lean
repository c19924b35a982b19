import Bindery.Schema.Record

/-!
# Normal form of schemas

Schema records as documents in which every field is present, with counts and flags converted.

* `SchemaRecord.toDocument`: a schema; the other `toDocument`s are its parts.
-/

namespace Bindery

open Document (text int bool list table)

mutual

/-- A property as a document. -/
def PropertyRecord.toDocument : PropertyRecord → Document
  | ⟨name, type, flags, arrayDim, enumName, enumCppName, enumCppForm, enumUnderlying, className,
      metaClassName, structName, interfaceName, signature, inner, key, value, element, getter,
      setter, default⟩ =>
    table [("name", name), ("prop_type", type), ("prop_flags", int flags),
      ("array_dim", int arrayDim), ("enum_name", enumName), ("enum_cpp_name", enumCppName),
      ("enum_cpp_form", enumCppForm), ("enum_underlying_type", enumUnderlying),
      ("class_name", className), ("meta_class_name", metaClassName), ("struct_name", structName),
      ("interface_name", interfaceName), ("func_info", SignatureRecord.toDocument? signature),
      ("inner_prop", PropertyRecord.toDocument? inner),
      ("key_prop", PropertyRecord.toDocument? key),
      ("value_prop", PropertyRecord.toDocument? value),
      ("element_prop", PropertyRecord.toDocument? element), ("getter", getter),
      ("setter", setter), ("default", default)]

/-- The signature of a delegate as a document. -/
def SignatureRecord.toDocument : SignatureRecord → Document
  | ⟨name, params⟩ =>
    table [("name", name), ("params", PropertyRecord.listToDocument? params)]

/-- A property that may be absent. -/
def PropertyRecord.toDocument? : Option PropertyRecord → Document
  | none => .null
  | some p => p.toDocument

/-- A signature that may be absent. -/
def SignatureRecord.toDocument? : Option SignatureRecord → Document
  | none => .null
  | some s => s.toDocument

/-- Properties as documents. -/
def PropertyRecord.toDocuments : List (Option PropertyRecord) → List Document
  | [] => []
  | p :: rest => PropertyRecord.toDocument? p :: PropertyRecord.toDocuments rest

/-- A list of properties that may be absent. -/
def PropertyRecord.listToDocument? : Option (List (Option PropertyRecord)) → Document
  | none => .null
  | some ps => list (PropertyRecord.toDocuments ps)

end

/-- A list of properties as a document. -/
def PropertyRecord.listToDocument (ps : List (Option PropertyRecord)) : Document :=
  list (toDocuments ps)

/-- A function as a document. The name in the schema is only set apart once functions are
renamed. -/
def FunctionRecord.toDocument (f : FunctionRecord) : Document :=
  table [("name", f.name), ("func_flags", int f.flags), ("is_static", bool f.isStatic),
    ("params", PropertyRecord.listToDocument f.params), ("ue_name", text "")]

/-- A class as a document. -/
def ClassRecord.toDocument (c : ClassRecord) : Document :=
  table [("name", c.name), ("cpp_name", c.cppName), ("package", c.package), ("header", c.header),
    ("class_flags", int c.flags), ("super_class", c.super), ("interfaces", list c.interfaces),
    ("props", PropertyRecord.listToDocument c.props),
    ("funcs", list (c.funcs.map (·.toDocument)))]

/-- A struct as a document. -/
def StructRecord.toDocument (s : StructRecord) : Document :=
  table [("name", s.name), ("cpp_name", s.cppName), ("package", s.package), ("header", s.header),
    ("struct_flags", int s.flags), ("super_struct", s.super),
    ("has_static_struct", bool s.hasStaticStruct),
    ("props", PropertyRecord.listToDocument s.props)]

/-- An enum as a document. -/
def EnumRecord.toDocument (e : EnumRecord) : Document :=
  table [("name", e.name), ("cpp_name", e.cppName), ("package", e.package),
    ("underlying_type", e.underlying), ("cpp_form", int e.cppForm),
    ("pairs", list (e.pairs.map fun p => list [text p.1, int p.2]))]

/-- A schema as a document. -/
def SchemaRecord.toDocument (s : SchemaRecord) : Document :=
  table [("classes", list (s.classes.map (·.toDocument))),
    ("structs", list (s.structs.map (·.toDocument))),
    ("enums", list (s.enums.map (·.toDocument)))]

end Bindery
