import Bindery.Document.Convert
import Bindery.Fault
import Bindery.Wire.Basic

/-!
# Schema records

What the exporter writes about classes, structs and enums, read from three documents. Counts,
flags and pairs are converted; every other value is kept as found, whatever its type.

* `SchemaRecord.read`: the records of the three documents.
* `SchemaError`: what can be wrong with a document, with `SchemaError.message`.

The first fault in reading order decides, and a fault inside an entry is reported for the
innermost entry around it.
-/

namespace Bindery

/-- The kinds of schema entries that messages name. -/
inductive EntryKind where
  | «class» | struct | enum | function | property
deriving DecidableEq, Repr

/-- The name of an entry kind in messages. -/
def EntryKind.name : EntryKind → String
  | «class» => "Class"
  | struct => "Struct"
  | enum => "Enum"
  | function => "Function"
  | property => "Property"

/-- A schema that cannot be read. -/
inductive SchemaError where
  | missingSection (key : String)
  | missingField (kind : EntryKind) (entry : Document) (field : String)
  | malformed (kind : EntryKind) (entry : Document)
  | unreadable (path : String)
  | unparsable (path : String)
  /-- A value that no entry is reported for: an infinite number in place of an integer, a section
  that is no collection, or an integer of too many digits. -/
  | fault (f : Fault)

/-- The text by which messages refer to an entry: its name if it is a table, else all of it. -/
def Document.entryName (d : Document) : String :=
  match d with
  | .table _ => ((d.get? "name").getD (.text "?")).display
  | _ => d.display

/-- The wording of a schema error. -/
def SchemaError.message : SchemaError → String
  | missingSection key => "Schema document is missing the '" ++ key ++ "' list"
  | missingField kind entry field =>
    kind.name ++ " entry " ++ entry.entryName ++ " is missing field " ++ Text.quote field
  | malformed kind entry => kind.name ++ " entry " ++ entry.entryName ++ " has a malformed value"
  | unreadable path => "Failed to read " ++ path
  | unparsable path => "Failed to parse " ++ path
  | fault _ => "the schema holds a value that cannot be used"

mutual

/-- A property, parameter or element as written. -/
structure PropertyRecord where
  name : Document
  type : Document
  flags : Int
  arrayDim : Int
  enumName : Document
  enumCppName : Document
  enumCppForm : Document
  enumUnderlying : Document
  className : Document
  metaClassName : Document
  structName : Document
  interfaceName : Document
  signature : Option SignatureRecord
  inner : Option PropertyRecord
  key : Option PropertyRecord
  value : Option PropertyRecord
  element : Option PropertyRecord
  getter : Document
  setter : Document
  default : Document

/-- The signature of a delegate as written. List members may be null. -/
structure SignatureRecord where
  name : Document
  params : Option (List (Option PropertyRecord))

end

/-- A function as written. -/
structure FunctionRecord where
  name : Document
  flags : Int
  isStatic : Bool
  params : List (Option PropertyRecord)

/-- A class as written. -/
structure ClassRecord where
  name : Document
  cppName : Document
  package : Document
  header : Document
  flags : Int
  super : Document
  interfaces : List Document
  props : List (Option PropertyRecord)
  funcs : List FunctionRecord

/-- A struct as written. -/
structure StructRecord where
  name : Document
  cppName : Document
  package : Document
  header : Document
  flags : Int
  super : Document
  hasStaticStruct : Bool
  props : List (Option PropertyRecord)

/-- An enum as written. -/
structure EnumRecord where
  name : Document
  cppName : Document
  package : Document
  underlying : Document
  cppForm : Int
  pairs : List (String × Int)

/-- The three sections of a schema as written. -/
structure SchemaRecord where
  classes : List ClassRecord
  structs : List StructRecord
  enums : List EnumRecord

namespace SchemaRecord

open Document (ConversionFault)

/-- A conversion inside an entry, its faults reported for the entry. -/
def within {α : Type} (kind : EntryKind) (entry : Document) :
    Except ConversionFault α → Except SchemaError α
  | .ok a => .ok a
  | .error .unsuitable => .error (.malformed kind entry)
  | .error .infinite => .error (.fault .outOfRange)

/-- A field that an entry needs. -/
def field (kind : EntryKind) (entry : Document) (key : String) : Except SchemaError Document :=
  match entry with
  | .table entries =>
    match Assoc.get? key entries with
    | some d => .ok d
    | none => .error (.missingField kind entry key)
  | _ => .error (.malformed kind entry)

/-- The members of a value that an entry needs to be a collection. -/
def membersOf (kind : EntryKind) (entry d : Document) : Except SchemaError (List Document) :=
  match d.members? with
  | some items => .ok items
  | none => .error (.malformed kind entry)

/-- The members at a key; an absent or empty value has none. -/
def membersAt (kind : EntryKind) (entry : Document) (key : String) :
    Except SchemaError (List Document) :=
  if (entry.getD key).isEmpty then .ok [] else membersOf kind entry (entry.getD key)

/-- An integer at a key, with the value of an absent one. -/
def intAt (kind : EntryKind) (entry : Document) (key : String) (absent : Int) :
    Except SchemaError Int :=
  within kind entry ((entry.get? key).getD (.int absent)).toInt

/-- A 32-bit flag word. The exporter may extend its sign; an absent or empty value is zero. -/
def flagsAt (kind : EntryKind) (entry : Document) (key : String) : Except SchemaError Int :=
  if (entry.getD key).isEmpty then .ok 0
  else do return IntType.u32.wrap (← within kind entry (entry.getD key).toInt)

mutual

/-- A property; null stands for an absent one. `depth` bounds the nesting. -/
def readProperty (depth : Nat) (d : Document) : Except SchemaError (Option PropertyRecord) :=
  match depth with
  | 0 => .ok none
  | depth + 1 =>
    match d with
    | .null => .ok none
    | _ => do
      let name ← field .property d "name"
      let type ← field .property d "type"
      let flags ← intAt .property d "prop_flags" 0
      let arrayDim ← intAt .property d "array_dim" 1
      let signature ← readSignature depth d (d.getD "func_info")
      let inner ← readProperty depth (d.getD "inner_prop")
      let key ← readProperty depth (d.getD "key_prop")
      let value ← readProperty depth (d.getD "value_prop")
      let element ← readProperty depth (d.getD "element_prop")
      return some {
        name, type, flags, arrayDim, signature, inner, key, value, element
        enumName := d.getD "enum_name", enumCppName := d.getD "enum_cpp_name"
        enumCppForm := d.getD "enum_cpp_form", enumUnderlying := d.getD "enum_underlying_type"
        className := d.getD "class_name", metaClassName := d.getD "meta_class_name"
        structName := d.getD "struct_name", interfaceName := d.getD "interface_name"
        getter := d.getD "getter", setter := d.getD "setter", default := d.getD "default" }

/-- The signature of the delegate property `owner`; only a table is one. -/
def readSignature (depth : Nat) (owner d : Document) :
    Except SchemaError (Option SignatureRecord) :=
  match depth with
  | 0 => .ok none
  | depth + 1 =>
    match d with
    | .table _ => do
      let name := (d.get? "name").getD (.text "")
      match d.getD "params" with
      | .null => return some ⟨name, none⟩
      | params =>
        let items ← membersOf .property owner params
        return some ⟨name, some (← readProperties depth items)⟩
    | _ => .ok none

/-- The properties of a list. -/
def readProperties (depth : Nat) (items : List Document) :
    Except SchemaError (List (Option PropertyRecord)) :=
  match items with
  | [] => .ok []
  | d :: rest => do
    let p ← readProperty depth d
    return p :: (← readProperties depth rest)

end

/-- The properties at a key of an entry. -/
def propertiesAt (kind : EntryKind) (entry : Document) (key : String) :
    Except SchemaError (List (Option PropertyRecord)) := do
  let items ← membersAt kind entry key
  readProperties entry.depth items

/-- A function. -/
def readFunction (d : Document) : Except SchemaError FunctionRecord := do
  let name ← field .function d "name"
  let flags ← flagsAt .function d "func_flags"
  let params ← propertiesAt .function d "params"
  return { name, flags, params, isStatic := !(d.getD "is_static").isEmpty }

/-- A class. -/
def readClass (d : Document) : Except SchemaError ClassRecord := do
  let name ← field .class d "name"
  let cppName ← field .class d "cpp_name"
  let package ← field .class d "package"
  let flags ← flagsAt .class d "class_flags"
  let interfaces ← membersAt .class d "interfaces"
  let props ← propertiesAt .class d "props"
  let funcs ← (← membersAt .class d "funcs").mapM readFunction
  return { name, cppName, package, flags, interfaces, props, funcs
           header := (d.get? "header").getD (.text ""), super := d.getD "super" }

/-- A struct. -/
def readStruct (d : Document) : Except SchemaError StructRecord := do
  let name ← field .struct d "name"
  let cppName ← field .struct d "cpp_name"
  let package ← field .struct d "package"
  let flags ← flagsAt .struct d "struct_flags"
  let props ← propertiesAt .struct d "props"
  return { name, cppName, package, flags, props
           header := (d.get? "header").getD (.text ""), super := d.getD "super"
           hasStaticStruct := !(d.getD "has_static_struct").isEmpty }

/-- A variant and its value. -/
def readPair (enum d : Document) : Except SchemaError (String × Int) :=
  match d.members? with
  | some [name, value] => do return (name.spoken, ← within .enum enum value.toInt)
  | _ => .error (.malformed .enum enum)

/-- An enum. -/
def readEnum (d : Document) : Except SchemaError EnumRecord := do
  let name ← field .enum d "name"
  let cppName ← field .enum d "cpp_name"
  let package ← field .enum d "package"
  let cppForm ← intAt .enum d "cpp_form" 0
  let pairs ← (← membersAt .enum d "pairs").mapM (readPair d)
  return { name, cppName, package, cppForm, pairs
           underlying := (d.get? "underlying_type").getD (.text "uint8") }

/-- The entries of a section. -/
def section? (doc : Document) (key : String) : Except SchemaError (List Document) :=
  match doc with
  | .table entries =>
    match Assoc.get? key entries with
    | some d => match d.members? with
      | some members => .ok members
      | none => .error (.fault .wrongType)
    | none => .error (.missingSection key)
  | _ => .error (.missingSection key)

/-- The schema in three documents. -/
def read (classes structs enums : Document) : Except SchemaError SchemaRecord := do
  let classes ← (← section? classes "classes").mapM readClass
  let structs ← (← section? structs "structs").mapM readStruct
  let enums ← (← section? enums "enums").mapM readEnum
  return { classes, structs, enums }

end SchemaRecord
end Bindery
