import Bindery.Plan.Native
import Bindery.Plan.Sandbox
import Bindery.Script.Header

/-!
# Files around the function table

The wrappers behind the native entry points, and what refers to them. Every wrapper validates its
target, stages the arguments in a parameter block, invokes the reflected function and copies the
results out.

* `wrapperName`, `wrapperSignature`: a wrapper as the table refers to it.
* `sourceName`, `sourceFile`: the file with the wrappers of one class.
* `idsFile`, `idsHeader`: the indices of the table for the bindings and for C++.
* `fillFile`: the routine that writes the wrappers into the table.
* `importDeclarations`, `importsFile`: the imports that a guest can use.
* `importDefinitions`, `closuresFile`: the host's functions behind those imports.
-/

namespace Bindery.Render

/-! ## C++ wrappers -/

open Script

/-- The name of a wrapper. -/
def wrapperName (e : Entry) : String := "Uika_" ++ e.className.spoken ++ "_" ++ e.funcName.spoken

/-- The declaration of a wrapper. -/
def wrapperSignature (plan : CallPlan) : String :=
  "uint32 " ++ wrapperName plan.entry ++ "("
    ++ ", ".intercalate (plan.cppParams.map (·.text)) ++ ")"

/-- The name of the file with the wrappers of a class. -/
def sourceName (module : String) (className : Label) : String :=
  "UikaFunc_" ++ module ++ "_" ++ className.spoken ++ ".cpp"

/-- A call on the parameter block. -/
def blockCall (method : String) (p : ParamPlan) (args : List String) : String :=
  "    Block." ++ method ++ "("
    ++ ", ".intercalate (("TEXT(\"" ++ p.param.name.spoken ++ "\")") :: args) ++ ");"

/-- Copies an argument into the parameter block. -/
def copyIn (p : ParamPlan) : List String :=
  let n := pascalCase p.name
  if !p.isInput then []
  else
    match p.passing with
    | .container => [blockCall "CopyContainerIn" p [n ++ "Base", n ++ "Prop"]]
    | .text => [blockCall "SetString" p [n ++ "Data", n ++ "Len"]]
    | .struct => [blockCall "SetRaw" p [n]]
    | .scalar => [blockCall "SetValue" p [n]]

/-- Copies a result out of the parameter block. -/
def copyOut (p : ParamPlan) : List String :=
  let n := pascalCase p.name
  if p.direction = .input then []
  else
    match p.passing with
    | .container => [blockCall "CopyContainerOut" p [n ++ "Base", n ++ "Prop"]]
    | .text => [blockCall "GetString" p [n ++ "Buf", n ++ "BufLen", n ++ "OutLen"]]
    | .struct => [blockCall "GetRaw" p [n]]
    | .scalar => if p.direction = .inOut then [] else [blockCall "GetValue" p [n]]

/-- The definition of a wrapper. -/
def wrapperDefinition (plan : CallPlan) : List String :=
  let entry := plan.entry
  ["// " ++ plan.label ++ " (FuncId " ++ toString entry.id ++ ")",
    wrapperSignature plan,
    "\x7b"]
  ++ (if plan.isStatic then
      ["    UObject* Target = " ++ entry.cppClass.spoken ++ "::StaticClass()->GetDefaultObject();"]
    else [
      "    UObject* Target = static_cast<UObject*>(Obj);",
      "    if (!IsValid(Target)) return UIKA_OBJECT_DESTROYED;"])
  ++ ["    static UFunction* Func = " ++ entry.cppClass.spoken
      ++ "::StaticClass()->FindFunctionByName(TEXT(\"" ++ entry.func.lookupName.spoken ++ "\"));",
    "    if (!Func) return UIKA_FUNCTION_NOT_FOUND;",
    "    FUikaParamBlock Block(Func);"]
  ++ plan.params.flatMap copyIn
  ++ ["    Block.Invoke(Target);"]
  ++ plan.params.flatMap copyOut
  ++ ["    return UIKA_OK;", "\x7d", ""]

/-- The file with the wrappers of the given plans. -/
def sourceFile (plans : List CallPlan) : String :=
  let headers := Label.sortOn id (Label.distinct (plans.filterMap (·.entry.header.given?)))
  fileText (
    sourceHeader
    ++ ["#include \"UikaFuncIds.h\"", "#include \"UikaParamBlock.h\""]
    ++ headers.map (fun h => "#include \"" ++ h.spoken ++ "\"")
    ++ ["", "extern \"C\" \x7b", ""]
    ++ plans.flatMap wrapperDefinition
    ++ ["\x7d // extern \"C\"", ""])

/-! ## The table -/

/-- The indices of the table for the bindings. -/
def idsFile (table : List Entry) : String :=
  fileText (
    header "function table ids"
    ++ table.map (fun e => e.constant ++ " = " ++ toString e.id)
    ++ ["", "FUNC_COUNT = " ++ toString table.length, ""])

/-- The indices of the table for C++. -/
def idsHeader (table : List Entry) : String :=
  fileText (
    sourceHeader
    ++ ["#pragma once", "", "#include \"CoreMinimal.h\"", "", "namespace UikaFuncIds", "\x7b"]
    ++ table.map (fun e => "    constexpr uint32 " ++ e.constant ++ " = " ++ toString e.id ++ ";")
    ++ ["", "    constexpr uint32 FUNC_COUNT = " ++ toString table.length ++ ";", "\x7d", ""])

/-- The routine that writes the wrappers into the table. -/
def fillFile (plans : List CallPlan) : String :=
  fileText (
    sourceHeader
    ++ ["#include \"UikaFuncIds.h\"", ""]
    ++ plans.map (fun p => "extern \"C\" " ++ wrapperSignature p ++ ";")
    ++ ["", "void UikaFillFuncTable(void** FuncTable, uint32 Count)", "\x7b",
      "    check(Count >= UikaFuncIds::FUNC_COUNT);"]
    ++ plans.map (fun p =>
      "    FuncTable[UikaFuncIds::" ++ p.entry.constant ++ "] = reinterpret_cast<void*>(&"
        ++ wrapperName p.entry ++ ");")
    ++ ["\x7d", ""])

/-- The plans that guests can import. -/
def importablePlans (plans : List CallPlan) : List CallPlan := plans.filter (·.importable)

/-- Value types, quoted. -/
def quotedTypes (types : List SandboxType) : List String :=
  types.map fun t => "\"" ++ t.name ++ "\""

/-- A tuple of quoted items; a single one needs a comma. -/
def tupleText (items : List String) : String :=
  match items with
  | [item] => "(" ++ item ++ ",)"
  | items => "(" ++ ", ".intercalate items ++ ")"

/-- An import as guests see it. -/
structure ImportDeclaration where
  label : String
  name : String
  params : List SandboxType

/-- The lines that declare an import. -/
def ImportDeclaration.lines (d : ImportDeclaration) : List String := [
  "    # " ++ d.label,
  "    \"" ++ d.name ++ "\": (" ++ tupleText (quotedTypes d.params) ++ ", (\"i32\",)),"]

/-- The imports that a guest can use, declared. -/
def importDeclarations (plans : List CallPlan) : List ImportDeclaration :=
  (importablePlans plans).map fun p =>
    { label := p.label, name := p.importName, params := p.slots.map (·.type) }

/-- The imports that a guest can use. -/
def importsFile (plans : List CallPlan) : String :=
  fileText (
    header "guest import manifest"
    ++ ["IMPORT_MODULE = \"" ++ importModule ++ "\"", "",
      "# name -> (parameter value types, result value types)",
      "IMPORTS = \x7b"]
    ++ (importDeclarations plans).flatMap (·.lines)
    ++ ["\x7d", ""])

/-- The name of the host's function behind an import. -/
def closureName (plan : CallPlan) : String := "_" ++ importModule ++ "_" ++ toString plan.entry.id

/-- The name of the function's slot variable. -/
def closureSlot (plan : CallPlan) : String := "_FN_" ++ toString plan.entry.id

/-- The host's function behind an import. -/
def closureLines (plan : CallPlan) : List String :=
  let params := ", ".intercalate ("caller" :: plan.slots.map (·.name))
  let writeback := linesOf plan.hostWriteback
  let body := ["_fn = " ++ closureSlot plan ++ ".resolve()"]
    ++ linesOf plan.hostPrep
    ++ ["_err = _fn(" ++ ", ".intercalate (Expr.texts plan.hostArgs) ++ ")"]
    ++ (if writeback.isEmpty then [] else "if _err == 0:" :: indent writeback)
    ++ ["return _err"]
  ["def " ++ closureName plan ++ "(" ++ params ++ "):", "    \"\"\"" ++ plan.label ++ "\"\"\""]
  ++ indent body ++ ["", ""]

/-- An import as the host defines it on a linker, with the function behind it. -/
structure ImportDefinition where
  name : String
  params : List SandboxType
  closure : String

/-- The line that defines an import. -/
def ImportDefinition.line (d : ImportDefinition) : String :=
  "    linker.define_host_function(IMPORT_MODULE, \"" ++ d.name ++ "\", ["
    ++ ", ".intercalate (quotedTypes d.params) ++ "], [\"i32\"], " ++ d.closure ++ ")"

/-- The imports that the host defines. -/
def importDefinitions (plans : List CallPlan) : List ImportDefinition :=
  (importablePlans plans).map fun p =>
    { name := p.importName, params := p.slots.map (·.type), closure := closureName p }

/-- The host's functions behind the imports. -/
def closuresFile (plans : List CallPlan) : String :=
  let importable := importablePlans plans
  fileText (
    header "host functions for guest imports"
    ++ nativeImports
    ++ ["",
      "from uikagen.runtime.cache import FuncSlot",
      "from uikagen.runtime.guest import IMPORT_MODULE",
      "from uikagen.runtime.wire import from_wasm, pack",
      "",
      "from . import func_ids",
      "", ""]
    ++ importable.map (fun p =>
      closureSlot p ++ " = FuncSlot(func_ids." ++ p.entry.constant ++ ", " ++ p.prototype ++ ")")
    ++ ["", ""]
    ++ banner "Closures"
    ++ importable.flatMap closureLines
    ++ ["def register_codegen_host_functions(linker):",
      "    \"\"\"Define every generated `uika_fn` import on the linker\"\"\""]
    ++ (importDefinitions plans).map (·.line)
    ++ ["    return " ++ toString importable.length, ""])

end Bindery.Render
