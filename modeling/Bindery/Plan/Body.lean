import Bindery.Plan.Basic
import Bindery.Script.Expr

/-!
# Pieces of call bodies

Expressions that the native and the guest body of a bound method share: conversions between
values of the bindings and values on the wire, and the staging of containers.
-/

namespace Bindery

open Script

/-- Size of the buffers that receive structs. -/
def structBuffer : Int := 256

/-- Size of the buffers that receive text. -/
def textBuffer : Int := 512

/-- The codecs of elements as arguments. -/
def codecArgs (parts : List Element) : List Expr := parts.map fun e => .literal e.codec.expr

namespace ParamPlan

/-- A local variable that belongs to the parameter. -/
def var (p : ParamPlan) (suffix : String) : String := p.name ++ "_" ++ suffix

/-- A local variable as an expression. -/
def ref (p : ParamPlan) (suffix : String) : Expr := .name (p.var suffix)

/-- A value on the wire as a result. -/
def convertOut (p : ParamPlan) (raw : Expr) : Expr :=
  match p.mapping.conversion with
  | .objectRef => .apply "UObjectRef" [raw]
  | .enumCast => (Expr.name p.mapping.display.spoken).method "from_value" [raw]
  | .name => .apply "FNameHandle" [raw]
  | .intCast => .apply "wrap_int" [raw, .str p.mapping.declaredTag]
  | _ => raw

/-- Bytes received from the host as a result. -/
def convertBytes (p : ParamPlan) (data : Expr) : Expr :=
  if p.passing = .text then
    data.method "decode" [.str "utf-8", .keyword "errors" (.str "replace")]
  else if p.ownedStruct then (Expr.name "OwnedStruct").method "from_bytes" [data]
  else data

/-- An argument as a value of the slot's width. -/
def scalarIn (p : ParamPlan) : Expr :=
  if p.mapping.isHandle then .apply "raw_handle" [.name p.name]
  else
    match p.mapping.conversion with
    | .name => .apply "name_value" [.name p.name]
    | .enumCast | .intCast => .apply "wrap_int" [.apply "int" [.name p.name], .str p.wire.tag]
    | _ => .name p.name

/-- The UTF-8 bytes of a text argument. -/
def encoded (p : ParamPlan) : Expr := (Expr.name p.name).method "encode" [.str "utf-8"]

/-- The word for the container's kind in the names of the staging functions. -/
def viewWord (p : ParamPlan) : String :=
  match p.param.kind with
  | .array => "array"
  | .set => "set"
  | _ => "map"

/-- The temporary container that holds the parameter's content, and its property. -/
def staged (p : ParamPlan) : List Expr :=
  [.item (.name "_bases") (.int p.containerIndex), .item (.name "_props") (.int p.containerIndex)]

/-- Reads a container's content back. -/
def containerRead (p : ParamPlan) : Expr :=
  .apply ("read_" ++ p.viewWord) (p.staged ++ codecArgs (p.parts.getD []))

/-- Writes an argument into its temporary container. -/
def containerWrite (p : ParamPlan) : Expr :=
  .apply ("write_" ++ p.viewWord) (p.staged ++ codecArgs (p.parts.getD []) ++ [.name p.name])

end ParamPlan

namespace CallPlan

/-- Replaces missing arguments by their defaults. -/
def defaultFills (plan : CallPlan) : List Statement :=
  plan.inputs.filterMap fun p =>
    (p.default.filter (· ≠ "None")).map fun literal => .fill p.name (.literal literal)

/-- Looks up the properties of the container parameters once per function. -/
def containerLookup (plan : CallPlan) (binding cell : String) : String :=
  "_props = " ++ cell ++ ".get_or_init(lambda: function_param_props(" ++ binding ++ ", "
    ++ plan.entry.func.lookupName.display ++ ", ("
    ++ ", ".intercalate (plan.containers.map fun p => p.param.name.display) ++ ",)))"

/-- Fills the temporary containers of the arguments. -/
def containerPopulate (plan : CallPlan) : List Statement :=
  (plan.containers.filter (·.isInput)).map fun p => .run p.containerWrite

end CallPlan

/-- The statement that returns results. -/
def returnLines (results : List String) : List String :=
  match results with
  | [] => []
  | [value] => ["return " ++ value]
  | values => ["return (" ++ ", ".intercalate values ++ ")"]

end Bindery
