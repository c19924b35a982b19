import Bindery.Plan.Body

/-!
# Native calls

A bound method that runs in the host's process calls the function's native entry point directly.

* `NativeType`, `CallPlan.argTypes`: the types of the entry point's parameters.
* `CallPlan.nativePrep`, `nativeArgs`, `nativeWriteback`, `nativeResults`: the parts of the body.
* `CppParam`, `CallPlan.cppParams`: the parameters of the C++ wrapper behind the entry point.
-/

namespace Bindery

open Script

/-- The type of a parameter of a native entry point. -/
inductive NativeType where
  | pointer
  | scalar (w : Wire)
  | pointerTo (w : Wire)
deriving DecidableEq, Repr

/-- The spelling of a native type. -/
def NativeType.text : NativeType → String
  | pointer => "c_void_p"
  | scalar w => w.nativeName
  | pointerTo w => "POINTER(" ++ w.nativeName ++ ")"

/-- A parameter of a C++ wrapper. -/
structure CppParam where
  type : String
  name : String
deriving DecidableEq, Repr

/-- The spelling of a C++ parameter. -/
def CppParam.text (p : CppParam) : String := p.type ++ " " ++ p.name

/-- The slot type of lengths. -/
def lengthWire : Wire := .int .u32

/-- A name in pascal case, for C++ parameters. -/
def pascalCase (name : String) : String :=
  let words := (name.splitOn "_").filter (!·.isEmpty)
  let joined := String.join (words.map fun w =>
    Text.upper (String.ofList (w.toList.take 1)) ++ String.ofList (w.toList.drop 1))
  if joined.isEmpty then "Arg" else joined

namespace ParamPlan

/-- The native parameters of a plan parameter. A text result takes a buffer, its size, and a place
for the length. -/
def argTypes (p : ParamPlan) : List NativeType :=
  match p.passing, p.direction with
  | .container, _ => [.pointer, .pointer]
  | .text, .input => [.pointer, .scalar lengthWire]
  | .text, .inOut =>
    [.pointer, .scalar lengthWire, .pointer, .scalar lengthWire, .pointerTo lengthWire]
  | .text, _ => [.pointer, .scalar lengthWire, .pointerTo lengthWire]
  | .struct, _ => [.pointer]
  | .scalar, .input | .scalar, .inOut => [.scalar p.wire]
  | .scalar, _ => [.pointerTo p.wire]

/-- The buffer, its size and the place for the length of a text result. -/
def nativeTextOut (p : ParamPlan) : List Expr :=
  [p.ref "buf", .int textBuffer, .apply "byref" [p.ref "len"]]

/-- A slot for a scalar result. -/
def newSlot (p : ParamPlan) : Expr := .apply p.wire.nativeName []

/-- Prepares buffers and slots. -/
def nativePrep (p : ParamPlan) : List Statement :=
  let encode := Statement.assign [p.var "data"] p.encoded
  let buffers := [
    Statement.assign [p.var "buf"] (.apply "create_string_buffer" [.int textBuffer]),
    Statement.assign [p.var "len"] (.apply "c_uint32" [])]
  match p.passing, p.direction with
  | .container, _ => []
  | .text, .input => [encode]
  | .text, .inOut => encode :: buffers
  | .text, _ => buffers
  | .struct, .input => []
  | .struct, .inOut => [
    .assign [p.var "data"] (.apply "struct_bytes" [.name p.name]),
    .assign [p.var "buf"]
      (.apply "create_string_buffer" [p.ref "data", .apply "len" [p.ref "data"]])]
  | .struct, _ => [.assign [p.var "buf"] (.apply "create_string_buffer" [.int structBuffer])]
  | .scalar, .input | .scalar, .inOut => []
  | .scalar, _ => [.assign [p.var "out"] p.newSlot]

/-- The arguments for the native parameters. -/
def nativeArgs (p : ParamPlan) : List Expr :=
  let encoded := [p.ref "data", .apply "len" [p.ref "data"]]
  match p.passing, p.direction with
  | .container, _ => p.staged
  | .text, .input => encoded
  | .text, .inOut => encoded ++ p.nativeTextOut
  | .text, _ => p.nativeTextOut
  | .struct, .input => [.apply "struct_bytes" [.name p.name]]
  | .struct, _ => [p.ref "buf"]
  | .scalar, .input | .scalar, .inOut => [p.scalarIn]
  | .scalar, _ => [.apply "byref" [p.ref "out"]]

/-- The result that the parameter contributes. -/
def nativeResult (p : ParamPlan) : Expr :=
  match p.passing, p.direction with
  | .container, _ => p.containerRead
  | .text, _ => p.convertBytes (.upTo ((p.ref "buf").attr "raw") ((p.ref "len").attr "value"))
  | _, .inOut => .name p.name
  | .struct, _ => p.convertBytes ((p.ref "buf").attr "raw")
  | .scalar, _ => p.convertOut ((p.ref "out").attr "value")

/-- The C++ parameters of a plan parameter. -/
def cppParams (p : ParamPlan) : List CppParam :=
  let n := pascalCase p.name
  let textOut : List CppParam :=
    [⟨"char*", n ++ "Buf"⟩, ⟨"uint32", n ++ "BufLen"⟩, ⟨"uint32*", n ++ "OutLen"⟩]
  match p.passing, p.direction with
  | .container, _ => [⟨"void*", n ++ "Base"⟩, ⟨"void*", n ++ "Prop"⟩]
  | .text, .input => [⟨"const char*", n ++ "Data"⟩, ⟨"uint32", n ++ "Len"⟩]
  | .text, .inOut => [⟨"const char*", n ++ "Data"⟩, ⟨"uint32", n ++ "Len"⟩] ++ textOut
  | .text, _ => textOut
  | .struct, .input => [⟨"const void*", n⟩]
  | .struct, _ => [⟨"void*", n⟩]
  | .scalar, .input | .scalar, .inOut => [⟨p.wire.cppName, n⟩]
  | .scalar, _ => [⟨p.wire.cppName ++ "*", n⟩]

end ParamPlan

namespace CallPlan

/-- The types of the native parameters; the object comes first. -/
def argTypes (plan : CallPlan) : List NativeType :=
  (if plan.isStatic then [] else [.pointer]) ++ plan.params.flatMap (·.argTypes)

/-- The type of the native entry point. -/
def prototype (plan : CallPlan) : String :=
  "CFUNCTYPE(" ++ ", ".intercalate ("c_uint32" :: plan.argTypes.map (·.text)) ++ ")"

/-- Prepares buffers and slots for all parameters. -/
def nativePrep (plan : CallPlan) : List Statement := plan.params.flatMap (·.nativePrep)

/-- The arguments of the native call. -/
def nativeArgs (plan : CallPlan) : List Expr :=
  (if plan.isStatic then [] else [(Expr.name "self").attr "handle"])
    ++ plan.params.flatMap (·.nativeArgs)

/-- The parameters that are structs written back in place. -/
def inOutStructs (plan : CallPlan) : List ParamPlan :=
  plan.params.filter fun p => p.direction = .inOut && p.passing = .struct

/-- Writes in-out structs back. -/
def nativeWriteback (plan : CallPlan) : List Statement :=
  plan.inOutStructs.map fun p =>
    .run (.apply "update_struct" [.name p.name, (p.ref "buf").attr "raw"])

/-- The results of a native call. -/
def nativeResults (plan : CallPlan) : List Expr := plan.outputs.map (·.nativeResult)

/-- The parameters of the C++ wrapper. -/
def cppParams (plan : CallPlan) : List CppParam :=
  (if plan.isStatic then [] else [⟨"void*", "Obj"⟩]) ++ plan.params.flatMap (·.cppParams)

end CallPlan
end Bindery
