import Bindery.Context
import Bindery.Mapping
import Bindery.Number.Shortest

/-!
# Default literals

The default of a parameter, normally written in the schema as text, as an expression of the
bindings.

* `Property.defaultLiteral?`: the expression, none if the default cannot be expressed.
* `EnumInfo.defaultValue?`: the value of the enum member that a default names.
-/

namespace Bindery

/-- The literal of a boolean. -/
def boolLiteral? (d : Document) : Option String :=
  if d = .text "true" || d = .text "True" then some "True"
  else if d = .text "false" || d = .text "False" then some "False"
  else none

/-- The literal of a finite number. -/
def floatLiteral? (d : Document) : Option String :=
  (d.toDouble?.filter (·.isFinite)).map (·.text)

/-- The literal of an integer, which only texts denote. -/
def intLiteral? (d : Document) : Option String := (d.text?.bind Text.readInt?).map toString

/-- Whether a default names the variant, with or without its scope. -/
def namesVariant (d : Document) (variant : String) : Bool :=
  d = .text variant || ("::" ++ d.spoken).toList.isSuffixOf variant.toList

/-- The value that a default denotes: that of the first variant it names, reduced to the stored
type, provided a member has it. -/
def EnumInfo.defaultValue? (e : EnumInfo) (d : Document) : Option Int :=
  match e.pairs.find? fun pair => namesVariant d pair.1 with
  | none => none
  | some pair =>
    let value := e.layout.repr.wrap pair.2
    if e.layout.variants.any fun v => v.value = value then some value else none

/-- The literal of an enum member. -/
def enumLiteral? (ctx : Context) (enum : Label) (d : Document) : Option String := do
  let info ← ctx.enum? enum
  let value ← info.defaultValue? d
  return enum.spoken ++ ".from_value(" ++ toString value ++ ")"

/-- The parameter's default as an expression of the bindings. -/
def Property.defaultLiteral? (ctx : Context) (p : Property) : Option String :=
  let d := p.default
  if d = .null then none else
  match p.kind with
  | .bool => boolLiteral? d
  | .float | .double => floatLiteral? d
  | .int8 | .int16 | .int32 | .int64 | .uint16 | .uint32 | .uint64 => intLiteral? d
  | .byte => if p.enum?.isSome then enumLiteral? ctx p.enumName d else intLiteral? d
  | .enum => enumLiteral? ctx p.enumName d
  | .object | .classRef | .softObject | .weakObject | .interface =>
    if d = .text "None" then some "None" else none
  | .string | .text => some d.display
  | .name => if d = .text "" || d = .text "None" then some "FNameHandle.NONE" else none
  | _ => none

end Bindery
