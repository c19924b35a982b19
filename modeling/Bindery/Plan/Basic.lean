import Bindery.Default
import Bindery.FuncTable

/-!
# Call plans

One function's parameters laid out for every side of a call. The bindings, the guest, the host and
the C++ wrappers are all written from the same plan, so they agree on the order of arguments,
buffer sizes and the limit on sandbox parameters.

* `Passing`: the four ways in which values are passed.
* `ParamPlan`: a parameter with its direction, mapping, element codecs and default.
* `CallPlan.of`: the plan of a table entry.
* `CallPlan.inputs`, `outputs`, `signature`, `returnHint`: the function as its callers see it.
-/

namespace Bindery

/-- How a value is passed. -/
inductive Passing where
  | container
  | text
  | struct
  | scalar
deriving DecidableEq, Repr

/-- How the values of a conversion are passed. -/
def Conversion.passing (c : Conversion) : Passing :=
  match c with
  | .array | .map | .set => .container
  | .text => .text
  | .structBytes => .struct
  | _ => .scalar

/-- Names that generated bodies use for themselves. -/
def bodyNames : List String := [
  "obj", "caller", "func_ids", "dispatch", "elements", "pack", "unpack", "to_wasm", "from_wasm",
  "wrap_int", "byref", "raw_handle", "name_value", "struct_bytes", "update_struct", "guest_env",
  "is_guest", "read_array", "read_set", "read_map", "write_array", "write_set", "write_map",
  "temp_containers", "function_param_props", "create_string_buffer"]

/-- A parameter within a call plan. -/
structure ParamPlan where
  param : Property
  name : String
  direction : Direction
  mapping : Mapping
  /-- The elements of a container. -/
  parts : Option (List Element) := none
  /-- The expression that replaces a missing argument. -/
  default : Option String := none
  /-- The C++ name of a struct. -/
  structCpp : Label := .text ""
  /-- Whether the bindings wrap the bytes of the struct. -/
  ownedStruct : Bool := false
  /-- The position among the containers of the call. -/
  containerIndex : Int := -1

namespace ParamPlan

/-- How the parameter is passed. -/
def passing (p : ParamPlan) : Passing := p.mapping.conversion.passing

/-- The slot type of a scalar. -/
def wire? (p : ParamPlan) : Option Wire := p.mapping.carrier.slot?

/-- The slot type of a scalar; the other passings have none and do not ask for it. -/
def wire (p : ParamPlan) : Wire := p.wire?.getD .bool

def isContainer (p : ParamPlan) : Bool := p.passing = .container

def isInput (p : ParamPlan) : Bool := p.direction = .input || p.direction = .inOut

def isOutput (p : ParamPlan) : Bool := p.direction = .output || p.direction = .result

/-- Whether the parameter is part of the result; in-out structs are written back in place. -/
def returned (p : ParamPlan) : Bool :=
  if p.direction = .inOut then p.passing != .struct else p.isOutput

/-- The codecs of a container's elements, as arguments. -/
def codecs (p : ParamPlan) : List String := (p.parts.getD []).map (·.codec.expr)

/-- Whether the parameter may be optional: a pure input with a usable default. -/
def defaultable? (ctx : Context) (p : ParamPlan) : Option String :=
  if p.direction = .input && !p.isContainer then p.param.defaultLiteral? ctx else none

/-- The plan of a parameter, apart from its default and its place among the containers. -/
def of (ctx : Context) (param : Property) : ParamPlan :=
  let name := param.name.identifier
  let mapping := param.mapping
  let info := ctx.struct? param.structName
  let passing := mapping.conversion.passing
  { param, mapping
    name := if bodyNames.contains name then name ++ "_" else name
    direction := param.direction
    parts := if passing = .container then param.parts? (some ctx) else none
    structCpp := if passing = .struct then
        (info.map (·.cppName)).getD (.text ("F" ++ param.structName.spoken))
      else .text ""
    ownedStruct := passing = .struct && info.any (·.hasStaticStruct) }

/-- The type of an argument. -/
def inputHint (ctx : Context) (p : ParamPlan) : String :=
  match p.passing with
  | .container => (p.param.valueDisplay? (some ctx)).getD "None"
  | .struct =>
    if p.ownedStruct then "OwnedStruct[" ++ p.structCpp.spoken ++ "]"
    else if p.direction = .inOut then "bytearray" else "bytes"
  | _ => p.mapping.display.spoken

/-- The type of a result. -/
def outputHint (ctx : Context) (p : ParamPlan) : Label :=
  match p.passing with
  | .container => .text ((p.param.valueDisplay? (some ctx)).getD "None")
  | .struct =>
    .text (if p.ownedStruct then "OwnedStruct[" ++ p.structCpp.spoken ++ "]" else "bytes")
  | _ => p.mapping.display

end ParamPlan

/-- The parameters of one function, laid out. -/
structure CallPlan where
  entry : Entry
  context : Context
  params : List ParamPlan

/-- Parameters with the positions of the containers among them, counted from `n`. -/
def numberContainers (n : Nat) : List ParamPlan → List ParamPlan
  | [] => []
  | p :: rest =>
    if p.isContainer then { p with containerIndex := n } :: numberContainers (n + 1) rest
    else p :: numberContainers n rest

/-- Gives defaults to the trailing run of inputs that can be optional. Works from the last
parameter; the flag tells whether the run still goes on. -/
def assignDefaults (ctx : Context) : List ParamPlan → List ParamPlan × Bool
  | [] => ([], true)
  | p :: rest =>
    let (rest, goesOn) := assignDefaults ctx rest
    if !p.isInput then (p :: rest, goesOn)
    else
      match goesOn, p.defaultable? ctx with
      | true, some literal => ({ p with default := some literal } :: rest, true)
      | _, _ => (p :: rest, false)

namespace CallPlan

/-- The plan of a table entry. -/
def of (ctx : Context) (entry : Entry) : CallPlan :=
  { entry, context := ctx
    params := (assignDefaults ctx
      (numberContainers 0 (entry.func.params.map (ParamPlan.of ctx)))).1 }

/-- Whether the function is called without an object. -/
def isStatic (plan : CallPlan) : Bool := plan.entry.func.staticCall

/-- The class and function of the plan. -/
def label (plan : CallPlan) : String := plan.entry.label

/-- The parameters that callers pass. -/
def inputs (plan : CallPlan) : List ParamPlan := plan.params.filter (·.isInput)

/-- The results: the return value, then the others in order of declaration. -/
def outputs (plan : CallPlan) : List ParamPlan :=
  plan.params.filter (·.direction = .result) ++
    plan.params.filter fun p => p.returned && p.direction != .result

/-- The parameters that are containers. -/
def containers (plan : CallPlan) : List ParamPlan := plan.params.filter (·.isContainer)

/-- Whether every parameter can be passed. -/
def supported (plan : CallPlan) : Bool :=
  plan.params.all fun p => p.mapping.supported && (!p.isContainer || p.parts.any (!·.isEmpty))

/-- One parameter of the signature. -/
def inputText (plan : CallPlan) (p : ParamPlan) : String :=
  p.name ++ ": " ++ p.inputHint plan.context ++ if p.default.isSome then " | None = None" else ""

/-- The signature of the bound method, without parentheses. -/
def signature (plan : CallPlan) : String :=
  ", ".intercalate ((if plan.isStatic then [] else ["self"]) ++ plan.inputs.map plan.inputText)

/-- The result type of the bound method. -/
def returnHint (plan : CallPlan) : Label :=
  match plan.outputs.map (ParamPlan.outputHint plan.context) with
  | [] => .text "None"
  | [type] => type
  | types => .text ("tuple[" ++ ", ".intercalate (types.map Document.spoken) ++ "]")

end CallPlan
end Bindery
