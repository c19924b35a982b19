import Bindery.Document.Convert
import Bindery.Fault
import Bindery.FileTree
import Bindery.Order

/-!
# Build configuration

The `codegen` section of a configuration file: enabled features, paths, the mapping of host
packages to generated modules, and the list of entities that must not be bound.

* `Config.read`: the configuration in a decoded document.
* `ConfigError`: what can be wrong with it, with `ConfigError.message`.
* `Blocklist.functionPairs`: the blocked functions as class and function.
* `Config.hostPackages`: the packages that the enabled features need.
-/

namespace Bindery

/-- A configuration that cannot be used. -/
inductive ConfigError where
  | missingSection
  | missingPaths
  | notTexts (place key : String)
  | missingPath (key : String)
  | incompleteModule (package : String)
  | unreadable (path : String)
  | unparsable (path : String)
  /-- A value that is not diagnosed: entries are asked of something that is no table, or the value
  is of no use at all. -/
  | fault (f : Fault)
deriving DecidableEq, Repr

/-- The wording of a configuration error. -/
def ConfigError.message : ConfigError → String
  | missingSection => "missing [codegen] section"
  | missingPaths => "missing [codegen.paths] section"
  | notTexts place key => place ++ "." ++ key ++ " must be a list of strings"
  | missingPath key => "codegen.paths is missing " ++ Text.quote key
  | incompleteModule package => "codegen.modules." ++ package ++ " needs 'module' and 'feature'"
  | unreadable path => "Failed to read " ++ path
  | unparsable path => "Failed to parse " ++ path
  | fault _ => "the configuration holds a value that cannot be used"

/-- The generated module of a host package and the feature that enables it. -/
structure ModuleMapping where
  package : String
  module : Document
  feature : Document

/-- Entities that must never be bound. Functions are written `Class.Function`. -/
structure Blocklist where
  classes : List String := []
  structs : List String := []
  functions : List String := []
deriving DecidableEq, Repr

/-- Where the schema is read and the output is written. -/
structure OutputPaths where
  schema : FilePath
  scripts : FilePath
  sources : FilePath
deriving DecidableEq, Repr

/-- A build configuration. -/
structure Config where
  features : List String := []
  paths : Option OutputPaths := none
  modules : List ModuleMapping := []
  blocklist : Blocklist := {}
  strict : Bool := false

/-- The parts of a text before and after its first dot. -/
def splitAtDot? (s : String) : Option (String × String) :=
  match s.toList.dropWhile (· ≠ '.') with
  | [] => none
  | _ :: rest => some (String.ofList (s.toList.takeWhile (· ≠ '.')), String.ofList rest)

/-- The blocked functions as class and function; entries without a class are ignored. -/
def Blocklist.functionPairs (b : Blocklist) : List (String × String) :=
  b.functions.filterMap splitAtDot?

namespace ModuleMapping

/-- Whether one of the features enables the mapping. -/
def isEnabled (features : List String) (m : ModuleMapping) : Bool :=
  m.feature.text?.any features.contains

end ModuleMapping

namespace Config

/-- A list of texts at a key of a section; an absent one is empty. -/
def texts (sec : Document) (key place : String) : Except ConfigError (List String) :=
  match (sec.get? key).getD (.list []) with
  | .list items =>
    match items.mapM Document.text? with
    | some ts => .ok ts
    | none => .error (.notTexts place key)
  | _ => .error (.notTexts place key)

/-- The path at a key, seen from a directory. -/
def pathAt (dir : FilePath) (paths : Document) (key : String) : Except ConfigError FilePath :=
  match paths with
  | .table entries =>
    match Assoc.get? key entries with
    | some (.text s) => .ok (dir.join (.parse s))
    | some _ => .error (.fault .wrongType)
    | none => .error (.missingPath key)
  | _ => .error (.fault .wrongType)

/-- The paths of a section. -/
def readPaths (dir : FilePath) (paths : Document) : Except ConfigError (Option OutputPaths) :=
  match paths with
  | .null => .ok none
  | _ => do
    let schema ← pathAt dir paths "uht_input"
    let scripts ← pathAt dir paths "py_out"
    let sources ← pathAt dir paths "cpp_out"
    return some { schema, scripts, sources }

/-- One mapping of a package. -/
def readMapping (package : String) (d : Document) : Except ConfigError ModuleMapping :=
  match d.get? "module", d.get? "feature" with
  | some module, some feature => .ok { package, module, feature }
  | _, _ => .error (.incompleteModule package)

/-- The mappings of a section; an absent or empty table has none. -/
def readModules (d : Document) : Except ConfigError (List ModuleMapping) :=
  if d.isEmpty then .ok [] else
  match d with
  | .table entries => entries.mapM fun e => readMapping e.1 e.2
  | _ => .error (.fault .noSuchMember)

/-- The blocklist of a section; an absent or empty table blocks nothing. -/
def readBlocklist (d : Document) : Except ConfigError Blocklist :=
  if d.isEmpty then .ok {} else
  match d with
  | .table _ => do
    let classes ← texts d "classes" "codegen.blocklist"
    let structs ← texts d "structs" "codegen.blocklist"
    let functions ← texts d "functions" "codegen.blocklist"
    return { classes, structs, functions }
  | _ => .error (.fault .noSuchMember)

/-- The configuration in a decoded document, its paths seen from a directory. -/
def read (dir : FilePath) (doc : Document) : Except ConfigError Config :=
  match doc with
  | .table _ =>
    match doc.getD "codegen" with
    | .table entries => do
      let sec := Document.table entries
      let features ← texts sec "features" "codegen"
      let paths ← readPaths dir (sec.getD "paths")
      let modules ← readModules (sec.getD "modules")
      let blocklist ← readBlocklist (sec.getD "blocklist")
      return { features, paths, modules, blocklist, strict := !(sec.getD "strict").isEmpty }
    | _ => .error .missingSection
  | _ => .error (.fault .noSuchMember)

/-- The host packages that the enabled features need, in order. `Core` is always one of them. -/
def hostPackages (c : Config) : List String :=
  sortTexts ("Core" :: (c.modules.filter (·.isEnabled c.features)).map (·.package)).eraseDups

end Config
end Bindery
