import Bindery.Check.Output
import Bindery.Document.Json
import Bindery.Document.Toml
import Bindery.FileTree
import Bindery.Verify

/-!
# Generator runs

A full run: read the configuration and the schema, make all files, write them, and verify what was
written.

* `GeneratorError`: why a run can fail, with `GeneratorError.message`.
* `generate`: the run.
-/

namespace Bindery

/-- The members that a strict run refuses to leave out, and how many more there are. -/
def strictMessage (skips : List Skip) : String :=
  "strict mode: " ++ toString skips.length ++ " members skipped: "
    ++ ", ".intercalate ((skips.take 5).map fun s => s.owner.spoken ++ "." ++ s.member.spoken)
    ++ if 5 < skips.length then " (+" ++ toString (skips.length - 5) ++ " more)" else ""

/-- Why a run fails. -/
inductive GeneratorError where
  | schema (e : SchemaError)
  | config (e : ConfigError)
  | strict (skips : List Skip)
  | verification (problems : List Problem)
  /-- The schema or the configuration holds a value that the generator cannot work with. -/
  | fault (f : Fault)
  /-- A file cannot be written. -/
  | file (e : FileError)

/-- The wording of a failure. -/
def GeneratorError.message : GeneratorError → String
  | schema e => e.message
  | config e => e.message
  | strict skips => strictMessage skips
  | verification problems => problemsMessage problems
  | fault _ => "a value of the schema or the configuration cannot be used"
  | file _ => "a file cannot be written"

/-- What a run was told apart from its configuration; it overrides the configuration. -/
structure Overrides where
  scripts : Option FilePath := none
  sources : Option FilePath := none
  strict : Bool := false

/-- What a successful run reports. -/
structure Summary where
  functions : Nat
  skipped : Nat

namespace Generator

variable {m : Type → Type} [Monad m]

/-- The names of the three schema documents. -/
def schemaFiles : List String := ["uika_classes.json", "uika_structs.json", "uika_enums.json"]

/-- Reads the document in a file, where the errors of files and of notation each have a wording
of their own. -/
def readFile (fs : FileAccess m) (read : String → Except ReadError Document)
    (unreadable unparsable : String → GeneratorError) (path : FilePath) :
    ExceptT GeneratorError m Document := do
  match ← fs.read path with
  | .error .badName => throw (.file .badName)
  | .error .unencodable => throw (.file .unencodable)
  | .error _ => throw (unreadable path.text)
  | .ok text =>
    match read text with
    | .ok doc => return doc
    | .error .malformed => throw (unparsable path.text)
    | .error .overlong => throw (.fault .malformed)
    | .error .tooDeep => throw (.fault .tooDeep)

/-- Reads the configuration at a path. Its own paths are seen from its directory. -/
def readConfig (fs : FileAccess m) (path : FilePath) : ExceptT GeneratorError m Config := do
  let doc ← readFile fs Toml.read (.config <| .unreadable ·) (.config <| .unparsable ·) path
  let cwd ← fs.workingDirectory
  match Config.read (path.resolve cwd).parent doc with
  | .ok config => return config
  | .error e => throw (.config e)

/-- Reads one document of a schema. -/
def readDocument (fs : FileAccess m) : FilePath → ExceptT GeneratorError m Document :=
  readFile fs Json.read (.schema <| .unreadable ·) (.schema <| .unparsable ·)

/-- Reads the schema in a directory. -/
def readSchema (fs : FileAccess m) (dir : FilePath) : ExceptT GeneratorError m Schema := do
  let docs ← schemaFiles.mapM fun name => readDocument fs (dir.join (.parse name))
  match SchemaRecord.read (docs.getD 0 .null) (docs.getD 1 .null) (docs.getD 2 .null) with
  | .ok record => return .ofRecord record
  | .error e => throw (.schema e)

/-- Writes files below a directory, in order of their paths. -/
def writeFiles (fs : FileAccess m) (dir : FilePath) (files : Files) :
    ExceptT GeneratorError m PUnit :=
  (sortOn (·.1) files).forM fun f => do
    if let .error e ← fs.write (dir.join (.parse f.1)) f.2 then throw (.file e)

/-- The sizes of the files that a verification looks at. -/
def sizes (fs : FileAccess m) (modules : List String) (scripts sources : FilePath) :
    m Directory := do
  let paths :=
    requiredScripts.map (fun n => scripts.join (.parse n))
    ++ requiredSources.map (fun n => sources.join (.parse n))
    ++ modules.map fun n => (scripts.join (.parse n)).join (.parse "__init__.py")
  let found ← paths.mapM fun p => do return (p, ← fs.size p)
  return fun p => (found.find? fun f => f.1 = p).bind (·.2)

/-- Writes and verifies output. -/
def writeOutput (fs : FileAccess m) (p : Prepared) (output : Output) (scripts sources : FilePath) :
    ExceptT GeneratorError m PUnit := do
  writeFiles fs scripts output.scripts
  writeFiles fs sources output.sources
  let dir ← ExceptT.lift (sizes fs p.context.modules scripts sources)
  match verify dir p.table (tableIds p.table) p.context.modules scripts sources with
  | [] => return
  | problems => throw (.verification problems)

/-- A full run under the configuration at a path. Nothing is written if a strict run leaves
members out. -/
def generate (fs : FileAccess m) (path : FilePath) (overrides : Overrides) :
    ExceptT GeneratorError m Summary := do
  let config ← readConfig fs path
  match config.paths with
  | none => throw (.config .missingPaths)
  | some paths =>
    let schema ← readSchema fs paths.schema
    if let .error f := Check.generate schema config then throw (.fault f)
    let prepared := Prepared.of schema config
    let skips := prepared.allSkips
    if (overrides.strict || config.strict) && !skips.isEmpty then throw (.strict skips)
    writeOutput fs prepared (prepared.render config)
      (overrides.scripts.getD paths.scripts) (overrides.sources.getD paths.sources)
    return { functions := prepared.table.length, skipped := skips.length }

end Generator
end Bindery
