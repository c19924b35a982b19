import Bindery.ClassModule
import Bindery.Render.AccessorMethods
import Bindery.Script.Header

/-!
# Class and struct files

The files of a class and of a struct, spelled out from their content.

* `methodLines`: a bound function, with a body for sandboxed calls and one for native calls.
* `wrapperLines`, `delegateMethod`: a delegate's wrapper class and its accessor.
* `classFile`, `structFile`: the files.
-/

namespace Bindery.Render

open Script

/-! ## Bound functions -/

/-- The name of the function's slot variable. -/
def slotName (plan : CallPlan) : String := "_FN_" ++ toString plan.entry.id

/-- The slot of a native entry point. -/
def slotLine (plan : CallPlan) : String :=
  slotName plan ++ " = FuncSlot(func_ids." ++ plan.entry.constant ++ ", " ++ plan.prototype ++ ")"

/-- The cell that holds the properties of the container parameters. -/
def cellName (plan : CallPlan) : String := "_PARAMS_" ++ toString plan.entry.id

/-- The variables that a bound function needs. -/
def slotLines (plan : CallPlan) : List String :=
  slotLine plan :: if plan.containers.isEmpty then [] else [cellName plan ++ " = once_cell()"]

/-- The call, its check, and what follows from its success. A guest body ends in a return, since
the native body comes after it. -/
def callTail (plan : CallPlan) (call : String) (writeback : List Statement) (results : List Expr)
    (isGuest : Bool) : List String :=
  ["_err = " ++ call, "ffi_infallible_ctx(_err, \"" ++ plan.label ++ "\")"]
  ++ linesOf writeback
  ++ match returnLines (Expr.texts results) with
    | [] => if isGuest then ["return"] else []
    | lines => lines

/-- The look-up of the container parameters' properties, if there are any. -/
def containerPrelude (plan : CallPlan) (binding : String) : List String :=
  if plan.containers.isEmpty then [] else [plan.containerLookup binding (cellName plan)]

/-- The body for sandboxed calls. -/
def guestBody (plan : CallPlan) (binding : String) : List String :=
  if !plan.importable then
    ["if is_guest():",
      "    raise InvalidOperationError(\"" ++ plan.label ++ " exceeds the sandbox import arity\")"]
  else
    let call := "_env.call(" ++ ", ".intercalate
      (("\"" ++ plan.importName ++ "\"") :: Expr.texts plan.guestArgs) ++ ")"
    let inner := linesOf plan.containerPopulate ++ linesOf plan.guestPrep
      ++ callTail plan call plan.guestWriteback plan.guestResults true
    let scopes := "_env.scratch() as _s"
      ++ if plan.containers.isEmpty then "" else ", temp_containers(*_props) as _bases"
    "if is_guest():" :: indent (
      "_env = guest_env()" :: containerPrelude plan binding
        ++ ["with " ++ scopes ++ ":"] ++ indent inner)

/-- The body for native calls. -/
def nativeBody (plan : CallPlan) (binding : String) : List String :=
  let call := "_fn(" ++ ", ".intercalate (Expr.texts plan.nativeArgs) ++ ")"
  let inner := linesOf plan.containerPopulate ++ ["_fn = " ++ slotName plan ++ ".resolve()"]
    ++ linesOf plan.nativePrep ++ callTail plan call plan.nativeWriteback plan.nativeResults false
  if plan.containers.isEmpty then inner
  else
    containerPrelude plan binding
      ++ ["with temp_containers(*_props) as _bases:"] ++ indent inner

/-- A bound function. -/
def methodLines (binding : String) (m : Method) : List String :=
  let plan := m.plan
  let body := linesOf plan.defaultFills ++ guestBody plan binding ++ nativeBody plan binding
  indent (
    (if plan.isStatic then ["@staticmethod"] else [])
    ++ ["def " ++ m.name ++ "(" ++ plan.signature ++ ") -> " ++ plan.returnHint.spoken ++ ":"]
    ++ indent body ++ [""])

/-! ## Delegates -/

/-- The wrapper class of a delegate. -/
def wrapperLines (binding : String) (d : Delegate) : List String :=
  let hints := ", ".intercalate (d.params.map (·.display))
  let adapter := if d.params.isEmpty then
      ["        def _adapter(params):", "            callback()"]
    else
      let names := ", ".intercalate (d.params.map fun p => p.name.display)
      let reads := ", ".intercalate (d.params.mapIdx fun i p => p.readText i)
      ["        _offsets = _OFFSETS.get_or_init(" ++ d.prop.name.display
          ++ ", lambda: function_param_offsets(",
        "            " ++ binding ++ ", " ++ d.signature.name.display ++ ", (" ++ names
          ++ ",)))",
        "",
        "        def _adapter(params):",
        "            callback(" ++ reads ++ ")"]
  let broadcast := if !d.isMulticast then [] else [
    "    def broadcast(self, params: Optional[bytes] = None):",
    "        \"\"\"Fire the delegate with a raw parameter block\"\"\"",
    "        _code = dispatch().broadcast_multicast(self.owner, self.prop, params)",
    "        check_ffi_ctx(_code, \"" ++ binding ++ "." ++ d.prop.name.spoken ++ "\")",
    ""]
  ["class " ++ d.wrapper ++ ":",
    "    \"\"\"" ++ (if d.isMulticast then "Multicast delegate " else "Delegate ")
      ++ binding ++ "." ++ d.prop.name.spoken ++ "\"\"\"",
    "",
    "    __slots__ = ('owner', 'prop')",
    "",
    "    def __init__(self, owner, prop):",
    "        self.owner = owner",
    "        self.prop = prop",
    "",
    "    def " ++ (if d.isMulticast then "add" else "bind") ++ "(self, callback: Callable[["
      ++ hints ++ "], None]) -> DelegateBinding:"]
  ++ adapter
  ++ ["",
    "        return " ++ (if d.isMulticast then "bind_multicast" else "bind_unicast")
      ++ "(self.owner, self.prop, _adapter)",
    ""]
  ++ broadcast ++ [""]

/-- The accessor of a delegate. -/
def delegateMethod (binding : String) (d : Delegate) : List String :=
  let name := d.prop.name.display
  ["    def " ++ d.accessor ++ "(self) -> " ++ d.wrapper ++ ":",
    "        _prop = _PROPS.get_or_init(" ++ name ++ ", lambda: find_class_property(" ++ binding
      ++ ", " ++ name ++ "))",
    "        return " ++ d.wrapper ++ "(self.handle, _prop)",
    ""]

/-! ## Files -/

/-- The class of the bindings. -/
def classBody (m : ClassModule) : List String :=
  let name := m.info.name.spoken
  let base := (m.parent?.map Document.spoken).getD "UClassBinding"
  let owner : Owner := { context := m.context, binding := name, inClass := true }
  banner (name ++ " Class")
  ++ ["class " ++ name ++ "(" ++ base ++ "):",
    "    \"\"\"" ++ m.info.cppName.spoken ++ "\"\"\"",
    "",
    "    CLASS_NAME = \"" ++ name ++ "\"",
    "",
    "    __slots__ = ()",
    ""]
  ++ m.accessors.flatMap (accessorMethods owner)
  ++ m.delegates.flatMap (delegateMethod name)
  ++ m.methods.flatMap (methodLines name)

/-- The file of a class. -/
def classFile (m : ClassModule) : String :=
  fileText (
    header ("binding for class " ++ m.info.name.spoken ++ " (" ++ m.info.package.spoken ++ ")")
    ++ ["from __future__ import annotations", ""]
    ++ entityImports
    ++ ["", "from .. import func_ids"]
    ++ (m.parentBinding?.map (·.importLine)).toList
    ++ m.otherReferences.lines m.context m.info.name
    ++ ["", "", "_PROPS = handle_cache()", "_OFFSETS = handle_cache()"]
    ++ m.methods.flatMap (fun f => slotLines f.plan)
    ++ ["", ""]
    ++ m.delegates.flatMap (fun d => wrapperLines m.info.name.spoken d ++ [""])
    ++ classBody m)

/-- The methods that create values of a struct. -/
def structConstructors (s : StructInfo) : List String := [
  "    @classmethod",
  "    def static_struct(cls):",
  "        return cls._find_static_struct()",
  "",
  "    @classmethod",
  "    def new(cls) -> " ++ s.cppName.spoken ++ ":",
  "        \"\"\"Zero-filled value sized by the host\"\"\"",
  "        return cls(bytes(dispatch().get_struct_size(cls.static_struct())))",
  ""]

/-- The file of a struct. -/
def structFile (m : StructModule) : String :=
  let s := m.info
  let name := s.cppName.spoken
  let owner : Owner := { context := m.context, binding := name, inClass := false }
  fileText (
    header ("binding for struct " ++ name ++ " (" ++ s.package.spoken ++ ")")
    ++ ["from __future__ import annotations", ""]
    ++ entityImports
    ++ [""]
    ++ m.references.lines m.context s.name
    ++ ["", "", "_PROPS = handle_cache()", "", ""]
    ++ banner (name ++ " Struct")
    ++ ["class " ++ name ++ "(UStructBinding):",
      "    \"\"\"" ++ name ++ "\"\"\"",
      "",
      "    STRUCT_NAME = \"" ++ s.name.spoken ++ "\"",
      "",
      "    __slots__ = ()",
      ""]
    ++ if s.hasStaticStruct then
        structConstructors s ++ m.accessors.flatMap (accessorMethods owner)
      else [])

end Bindery.Render
