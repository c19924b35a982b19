import Bindery.Guest.Linker
import Bindery.Plan.Body
import Bindery.Plan.Native

/-!
# Sandboxed calls

A guest reaches a native function through an import of flat parameters: scalars travel in slots,
everything else through linear memory. The guest body stages its arguments there; the host's
closure copies them out, calls the native entry point and copies the results back.

* `Slot`, `CallPlan.slots`: the flattened parameters; `CallPlan.importable` tells whether there
  are few enough of them.
* `CallPlan.guestPrep`, `guestArgs`, `guestWriteback`, `guestResults`: the guest body.
* `CallPlan.hostPrep`, `hostArgs`, `hostWriteback`: the host's closure.
-/

namespace Bindery

open Script

/-- A flattened import parameter. -/
structure Slot where
  name : String
  type : SandboxType
deriving DecidableEq, Repr

/-- A method of the guest's scratch memory. -/
def scratch (m : String) (args : List Expr) : Expr := (Expr.name "_s").method m args

/-- Reads guest memory. -/
def readMemory (args : List Expr) : Expr := (Expr.name "caller").method "read_memory" args

/-- Writes guest memory. -/
def writeMemory (args : List Expr) : Statement :=
  .run ((Expr.name "caller").method "write_memory" args)

namespace ParamPlan

/-- The import parameters of a plan parameter. -/
def slots (p : ParamPlan) : List Slot :=
  let textOut : List Slot := [⟨p.var "buf", .i32⟩, ⟨p.var "buf_len", .i32⟩, ⟨p.var "out_len", .i32⟩]
  let region : List Slot := [⟨p.var "ptr", .i32⟩, ⟨p.var "len", .i32⟩]
  match p.passing, p.direction with
  | .container, _ => [⟨p.var "base", .i64⟩, ⟨p.var "prop", .i64⟩]
  | .text, .input => region
  | .text, .inOut => region ++ textOut
  | .text, _ => textOut
  | .struct, _ => region
  | .scalar, .input | .scalar, .inOut => [⟨p.name, p.wire.sandbox⟩]
  | .scalar, _ => [⟨p.var "out", .i32⟩]

/-- Stages an argument in scratch memory and reserves room for results. -/
def guestPrep (p : ParamPlan) : List Statement :=
  let put := fun data => Statement.assign [p.var "ptr", p.var "len"] (scratch "put" [data])
  let buffers := [
    Statement.assign [p.var "buf"] (scratch "alloc" [.int textBuffer]),
    Statement.assign [p.var "out_len"] (scratch "alloc" [.int 4])]
  match p.passing, p.direction with
  | .container, _ => []
  | .text, .input => [put p.encoded]
  | .text, .inOut => put p.encoded :: buffers
  | .text, _ => buffers
  | .struct, .input | .struct, .inOut => [put (.apply "struct_bytes" [.name p.name])]
  | .struct, _ => [.assign [p.var "ptr"] (scratch "alloc" [.int structBuffer])]
  | .scalar, .input | .scalar, .inOut => []
  | .scalar, _ => [.assign [p.var "out"] (scratch "alloc" [.int p.wire.size])]

/-- The arguments for the import parameters. -/
def guestArgs (p : ParamPlan) : List Expr :=
  let textOut := [p.ref "buf", .int textBuffer, p.ref "out_len"]
  let region := [p.ref "ptr", p.ref "len"]
  match p.passing, p.direction with
  | .container, _ => p.staged.map fun e => .apply "to_wasm" [.str "handle", e]
  | .text, .input => region
  | .text, .inOut => region ++ textOut
  | .text, _ => textOut
  | .struct, .input | .struct, .inOut => region
  | .struct, _ => [p.ref "ptr", .int structBuffer]
  | .scalar, .input | .scalar, .inOut => [.apply "to_wasm" [.str p.wire.tag, p.scalarIn]]
  | .scalar, _ => [p.ref "out"]

/-- The result that the parameter contributes. -/
def guestResult (p : ParamPlan) : Expr :=
  match p.passing, p.direction with
  | .container, _ => p.containerRead
  | .text, _ =>
    let written := scratch "read_value" [p.ref "out_len", .str "u32"]
    p.convertBytes (scratch "read" [p.ref "buf", .apply "min" [written, .int textBuffer]])
  | _, .inOut => .name p.name
  | .struct, _ => p.convertBytes (scratch "read" [p.ref "ptr", .int structBuffer])
  | .scalar, _ => p.convertOut (scratch "read_value" [p.ref "out", .str p.wire.tag])

/-- Copies an argument out of guest memory and prepares buffers and slots for results. -/
def hostPrep (p : ParamPlan) : List Statement :=
  let data := readMemory [p.ref "ptr", p.ref "len"]
  let buffers := [
    Statement.assign [p.var "host"] (.apply "create_string_buffer" [p.ref "buf_len"]),
    Statement.assign [p.var "written"] (.apply "c_uint32" [])]
  match p.passing, p.direction with
  | .container, _ => []
  | .text, .input | .struct, .input => [.assign [p.var "data"] data]
  | .text, .inOut => .assign [p.var "data"] data :: buffers
  | .text, _ => buffers
  | .struct, .inOut =>
    [.assign [p.var "host"] (.apply "create_string_buffer" [data, p.ref "len"])]
  | .struct, _ => [.assign [p.var "host"] (.apply "create_string_buffer" [p.ref "len"])]
  | .scalar, .input | .scalar, .inOut => []
  | .scalar, _ => [.assign [p.var "val"] p.newSlot]

/-- The arguments of the native call that the host's closure makes. -/
def hostArgs (p : ParamPlan) : List Expr :=
  let data := [p.ref "data", .apply "len" [p.ref "data"]]
  let textOut := [p.ref "host", p.ref "buf_len", .apply "byref" [p.ref "written"]]
  match p.passing, p.direction with
  | .container, _ =>
    [p.ref "base", p.ref "prop"].map fun e => .apply "from_wasm" [.str "handle", e]
  | .text, .input => data
  | .text, .inOut => data ++ textOut
  | .text, _ => textOut
  | .struct, .input => [p.ref "data"]
  | .struct, _ => [p.ref "host"]
  | .scalar, .input | .scalar, .inOut => [.apply "from_wasm" [.str p.wire.tag, .name p.name]]
  | .scalar, _ => [.apply "byref" [p.ref "val"]]

/-- Copies a result into guest memory. -/
def hostWriteback (p : ParamPlan) : List Statement :=
  match p.passing, p.direction with
  | .container, _ | _, .input => []
  | .text, _ => [
    .assign [p.var "n"] (.apply "min" [(p.ref "written").attr "value", p.ref "buf_len"]),
    writeMemory [p.ref "buf", .upTo ((p.ref "host").attr "raw") (p.ref "n")],
    writeMemory [p.ref "out_len", .apply "pack" [.str "u32", p.ref "n"]]]
  | .struct, _ => [writeMemory [p.ref "ptr", .upTo ((p.ref "host").attr "raw") (p.ref "len")]]
  | .scalar, .inOut => []
  | .scalar, _ =>
    [writeMemory [p.ref "out", .apply "pack" [.str p.wire.tag, (p.ref "val").attr "value"]]]

end ParamPlan

namespace CallPlan

/-- The flattened import parameters; the object comes first. -/
def slots (plan : CallPlan) : List Slot :=
  (if plan.isStatic then [] else [⟨"obj", .i64⟩]) ++ plan.params.flatMap (·.slots)

/-- Whether a guest can import the function. -/
def importable (plan : CallPlan) : Bool := plan.slots.length ≤ maxImportParams

/-- The name of the import. -/
def importName (plan : CallPlan) : String := importModule ++ "_" ++ toString plan.entry.id

def guestPrep (plan : CallPlan) : List Statement := plan.params.flatMap (·.guestPrep)

/-- The arguments of the import. -/
def guestArgs (plan : CallPlan) : List Expr :=
  (if plan.isStatic then []
    else [.apply "to_wasm" [.str "handle", (Expr.name "self").attr "handle"]])
    ++ plan.params.flatMap (·.guestArgs)

/-- Writes in-out structs back. -/
def guestWriteback (plan : CallPlan) : List Statement :=
  plan.inOutStructs.map fun p =>
    .run (.apply "update_struct" [.name p.name, scratch "read" [p.ref "ptr", p.ref "len"]])

/-- The results of a guest call. -/
def guestResults (plan : CallPlan) : List Expr := plan.outputs.map (·.guestResult)

def hostPrep (plan : CallPlan) : List Statement := plan.params.flatMap (·.hostPrep)

/-- The arguments of the native call that the host's closure makes. -/
def hostArgs (plan : CallPlan) : List Expr :=
  (if plan.isStatic then [] else [.apply "from_wasm" [.str "handle", .name "obj"]])
    ++ plan.params.flatMap (·.hostArgs)

/-- Copies results into guest memory; only run when the call succeeded. -/
def hostWriteback (plan : CallPlan) : List Statement := plan.params.flatMap (·.hostWriteback)

end CallPlan

/-- The plans of all table entries. -/
def Prepared.plans (p : Prepared) : List CallPlan := p.table.map (CallPlan.of p.context)

end Bindery
