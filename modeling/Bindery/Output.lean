import Bindery.Render.ClassFile
import Bindery.Render.EnumFile
import Bindery.Render.TableFile

/-!
# Generated output

All files of a run, by path.

* `Output`: the scripts and the C++ files.
* `Prepared.render`: the files of a prepared context, and the records of what was left out while
  they were made.
-/

namespace Bindery

open Script

/-- Files by path, in the order in which they were made; a later file replaces an earlier one of
its path. -/
abbrev Files := List (String × String)

/-- The files that remain of a sequence of files. -/
def Files.ofList (files : List (String × String)) : Files :=
  files.foldl (fun acc f => Assoc.set f.1 f.2 acc) []

/-- The output of a run. -/
structure Output where
  scripts : Files
  sources : Files

namespace Render

/-- The path of the file that defines a symbol. -/
def entityPath (module : String) (symbol : Label) : String :=
  module ++ "/" ++ symbol.identifier ++ ".py"

/-- The symbols that a generated module exports. -/
def moduleSymbols (ctx : Context) (module : String) : List Label :=
  (ctx.enums.at module).map (·.name) ++ (ctx.structs.at module).map (·.cppName)
    ++ (ctx.classes.at module).map (·.name)

/-- The opening file of a generated module. -/
def moduleFile (ctx : Context) (module : String) : String :=
  let symbols := moduleSymbols ctx module
  fileText (
    header ("bindings for module " ++ module)
    ++ symbols.map (fun s => "from ." ++ s.identifier ++ " import " ++ s.spoken)
    ++ ["", "__all__ = ["]
    ++ symbols.map (fun s => "    \"" ++ s.spoken ++ "\",")
    ++ ["]", ""])

/-- The opening file of the bindings. The function ids come first, since every class needs them. -/
def rootFile (modules : List String) : String :=
  fileText (
    header "bindings root package"
    ++ ["from . import func_ids", "from .func_ids import FUNC_COUNT", ""]
    ++ modules.map ("from . import " ++ ·)
    ++ ["", "ENABLED_MODULES = " ++ tupleText (modules.map Text.quote), ""])

/-- The classes of a module, ready to be spelled out. -/
def classModules (p : Prepared) (module : String) : List ClassModule :=
  (p.context.classes.at module).map fun c =>
    .of p.context c (p.table.filter fun e => e.module = module && e.className = c.name)

/-- The structs of a module, ready to be spelled out. -/
def structModules (p : Prepared) (module : String) : List StructModule :=
  (p.context.structs.at module).map (.of p.context)

/-- The files of a module. -/
def moduleFiles (p : Prepared) (module : String) : List (String × String) :=
  (p.context.enums.at module).map (fun e => (entityPath module e.name, enumFile e))
  ++ (structModules p module).map (fun s => (entityPath module s.info.cppName, structFile s))
  ++ (classModules p module).map (fun c => (entityPath module c.info.name, classFile c))
  ++ [(module ++ "/__init__.py", moduleFile p.context module)]

/-- The records of what the files of a module leave out. -/
def moduleSkips (p : Prepared) (module : String) : List Skip :=
  (structModules p module).flatMap (·.skips) ++ (classModules p module).flatMap (·.skips)

/-- The classes that have table entries, with their modules. -/
def tableClasses (table : List Entry) : List (String × Label) :=
  (table.map fun e => (e.module, e.className)).eraseDups

/-- The C++ files with wrappers. -/
def sourceFiles (plans : List CallPlan) : List (String × String) :=
  (tableClasses (plans.map (·.entry))).map fun c =>
    (sourceName c.1 c.2,
      sourceFile (plans.filter fun p => p.entry.module = c.1 && p.entry.className = c.2))

end Render

namespace Prepared

open Render

/-- The files of a prepared context under a configuration. -/
def render (p : Prepared) (config : Config) : Output :=
  let plans := p.plans
  let modules := p.context.modules
  { scripts := .ofList (
      modules.flatMap (moduleFiles p)
      ++ [("__init__.py", rootFile modules), ("func_ids.py", idsFile p.table),
        ("wasm_fn_imports.py", importsFile plans), ("wasm_host_funcs.py", closuresFile plans)])
    sources := .ofList (
      sourceFiles plans
      ++ [("UikaFuncIds.h", idsHeader p.table), ("UikaFillFuncTable.cpp", fillFile plans),
        ("module_deps.txt", "\n".intercalate config.hostPackages)]) }

/-- The records of everything that was left out, including by the files. -/
def allSkips (p : Prepared) : List Skip := p.skips ++ p.context.modules.flatMap (moduleSkips p)

end Prepared
end Bindery
