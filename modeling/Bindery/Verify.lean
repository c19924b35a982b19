import Bindery.FileTree
import Bindery.FuncTable

/-!
# Verification of written output

Integrity checks on a function table and on the directories that a run has written.

* `Directory`: what a check needs to know about a file: its size, if it exists.
* `Problem`: what can be wrong, with `Problem.message`.
* `verify`: all problems, in the order in which they are reported.
-/

namespace Bindery

/-- The size of each existing file. -/
abbrev Directory := FilePath → Option Nat

/-- A failed check. -/
inductive Problem where
  | idGap (position : Nat) (entry : Entry) (id : Label) (count : Nat)
  | duplicateConstants (names : List String)
  | missing (sort : String) (path : FilePath)
  | empty (sort : String) (path : FilePath)
  | missingModule (path : FilePath)

/-- The wording of a problem. -/
def Problem.message : Problem → String
  | idGap position entry id count =>
    "FuncId gap: expected " ++ toString position ++ " for " ++ entry.module ++ " " ++ entry.label
      ++ ", got " ++ id.spoken ++ " (total functions: " ++ toString count ++ ")"
  | duplicateConstants names => "duplicate FuncId constants: " ++ ", ".intercalate names
  | missing sort path => sort ++ " output missing: " ++ path.text
  | empty sort path => sort ++ " output empty: " ++ path.text
  | missingModule path => "Module __init__.py missing: " ++ path.text

/-- The message of a verification that found problems. -/
def problemsMessage (problems : List Problem) : String :=
  "verification failed:\n" ++ "\n".intercalate (problems.map fun p => "  - " ++ p.message)

/-- The scripts that every run has to write. -/
def requiredScripts : List String := ["__init__.py", "func_ids.py"]

/-- The C++ files that every run has to write. -/
def requiredSources : List String := ["UikaFuncIds.h", "UikaFillFuncTable.cpp"]

/-- The ids of the entries of a table. -/
def tableIds (table : List Entry) : List Label := table.map fun e => .int e.id

/-- The first entry whose id is not its position. -/
def idGaps (table : List Entry) (ids : List Label) : List Problem :=
  (((table.zip ids).zipIdx.find? fun e => !e.1.2.same (.int e.2)).map fun e =>
    .idGap e.2 e.1.1 e.1.2 table.length).toList

/-- The problem with a required file. -/
def fileProblem? (dir : Directory) (sort : String) (path : FilePath) : Option Problem :=
  match dir path with
  | none => some (.missing sort path)
  | some 0 => some (.empty sort path)
  | some _ => none

/-- All problems with a table, whose entries go by the given ids, and the output written below two
directories. -/
def verify (dir : Directory) (table : List Entry) (ids : List Label) (modules : List String)
    (scripts sources : FilePath) : List Problem :=
  let repeated := duplicateConstants table
  idGaps table ids
  ++ (if repeated.isEmpty then [] else [.duplicateConstants repeated])
  ++ requiredScripts.filterMap (fun n => fileProblem? dir "Python" (scripts.join (.parse n)))
  ++ requiredSources.filterMap (fun n => fileProblem? dir "C++" (sources.join (.parse n)))
  ++ modules.filterMap fun m =>
    let path := (scripts.join (.parse m)).join (.parse "__init__.py")
    if (dir path).isSome then none else some (.missingModule path)

end Bindery
