import Bindery.Proofs.FuncTable.Wrappers
import Bindery.Proofs.Text.SnakeCase

/-!
# Files of definitions

Each enum, struct and class of an enabled module is defined in a file of the module's directory that
is named by the identifier of its symbol, next to the opening file of the module. Different symbols
can have one identifier, and then one of their files replaces the other.

* `Naming.folded_identifier`: what an identifier keeps of a name.
* `SharesPath`, `entityPath_eq_iff`: when two definitions have one path.
* `Prepared.OwnFiles`, `ownFiles_iff`: when every definition has a file of its own.
* `definitions_have_own_files`: names by which they do.
* `verified_files_collide`: verified output in which they do not.
-/

namespace Bindery

/-! ## Identifiers -/

namespace Naming

/-- The characters of a name without underscores and capitals. -/
def foldedChars (name : List Char) : List Char := (name.filter (· ≠ '_')).map Char.toLower

/-- A name without underscores and capitals. -/
def folded (name : String) : List Char := foldedChars name.toList

theorem foldedChars_cons_underscore (name : List Char) :
    foldedChars ('_' :: name) = foldedChars name := rfl

theorem foldedChars_cons (c : Char) (cs : List Char) :
    foldedChars (c :: cs) = foldedChars [c] ++ foldedChars cs := by
  simp [foldedChars, List.filter_cons]
  split <;> simp

theorem foldedChars_toLower {c : Char} (hc : c.isUpper = true) :
    foldedChars [c.toLower] = foldedChars [c] := by
  have hlower := toLower_eq_self (isUpper_toLower hc)
  simp [foldedChars, ne_underscore_of_isUpper hc, hlower]

/-- What is respelled keeps its characters, apart from underscores and capitals. -/
theorem Respelled.foldedChars_eq {cs ds : List Char} (h : Respelled cs ds) :
    foldedChars ds = foldedChars cs := by
  induction h with
  | nil => rfl
  | underscore _ ih => rw [foldedChars_cons_underscore, ih]
  | same c _ ih => rw [foldedChars_cons, ih, ← foldedChars_cons]
  | lower hc _ ih => rw [foldedChars_cons, foldedChars_toLower hc, ih, ← foldedChars_cons]

/-- Identifiers only differ from names in underscores and capitals. -/
theorem folded_identifier (name : String) : folded (identifier name) = folded name := by
  have hsnake : folded (snakeCase name) = folded name := by
    simp only [folded, (snakeCased_snakeCase name).respelled.foldedChars_eq]
  rw [identifier, escapeReserved]
  split
  · rw [← hsnake]
    simp [folded, foldedChars]
  · exact hsnake

end Naming

/-! ## Paths -/

open Render

/-- Two definitions whose files have one path: their modules are the same and their symbols have one
identifier, or the longer module reaches into the identifier of the other one. -/
inductive SharesPath (a b : String × Label) : Prop where
  | identifiers : a.1 = b.1 → a.2.identifier = b.2.identifier → SharesPath a b
  | shorter {m : String} : b.1 = a.1 ++ "/" ++ m → a.2.identifier = m ++ "/" ++ b.2.identifier →
      SharesPath a b
  | longer {m : String} : a.1 = b.1 ++ "/" ++ m → b.2.identifier = m ++ "/" ++ a.2.identifier →
      SharesPath a b

/-- Two files have one path just when their definitions share it. -/
theorem entityPath_eq_iff {a b : String × Label} :
    entityPath a.1 a.2 = entityPath b.1 b.2 ↔ SharesPath a b := by
  rw [entityPath, entityPath, String.append_left_inj, append_sep_eq_iff (rfl : "/".toList = ['/'])]
  constructor
  · rintro (⟨hm, hi⟩ | ⟨m, hm, hi⟩ | ⟨m, hm, hi⟩)
    · exact .identifiers hm hi
    · exact .shorter hm hi
    · exact .longer hm hi
  · rintro (⟨hm, hi⟩ | ⟨hm, hi⟩ | ⟨hm, hi⟩)
    · exact .inl ⟨hm, hi⟩
    · exact .inr (.inl ⟨_, hm, hi⟩)
    · exact .inr (.inr ⟨_, hm, hi⟩)

/-- The symbol whose file would be the opening file of its module. -/
def openingSymbol : Label := .text "__init__"

namespace Prepared

/-- What gets a file in the directory of a module: its symbols, and the module itself. -/
def definitions (p : Prepared) : List (String × Label) :=
  p.context.modules.flatMap fun m =>
    (moduleSymbols p.context m ++ [openingSymbol]).map (m, ·)

/-- The scripts that are made outside of the modules. -/
def rootFiles (p : Prepared) : List (String × String) :=
  [("__init__.py", rootFile p.context.modules), ("func_ids.py", idsFile p.table),
    ("wasm_fn_imports.py", importsFile p.plans), ("wasm_host_funcs.py", closuresFile p.plans)]

/-- All scripts in the order in which they are made. -/
def madeScripts (p : Prepared) : List (String × String) :=
  p.context.modules.flatMap (moduleFiles p) ++ p.rootFiles

/-- No two definitions share a path, and every script that is made is there in the end. -/
structure OwnFiles (p : Prepared) (config : Config) : Prop where
  distinct : (p.definitions.map fun d => entityPath d.1 d.2).Nodup
  kept : ∀ f ∈ p.madeScripts, Assoc.get? f.1 (p.render config).scripts = some f.2

variable {p : Prepared} {config : Config}

/-- The files of a module are those of its symbols and its opening file. -/
theorem map_fst_moduleFiles (m : String) :
    (moduleFiles p m).map (·.1) =
      (moduleSymbols p.context m ++ [openingSymbol]).map (entityPath m) := by
  have hopening : m ++ "/__init__.py" = entityPath m openingSymbol := by
    rw [entityPath, String.append_assoc, String.append_assoc]
    rfl
  simp only [moduleFiles, moduleSymbols, structModules, classModules, List.map_append, List.map_map,
    List.map_cons, List.map_nil, hopening]
  rfl

/-- The paths of the scripts are those of the definitions and those at the root. -/
theorem map_fst_madeScripts :
    p.madeScripts.map (·.1) =
      (p.definitions.map fun d => entityPath d.1 d.2) ++ p.rootFiles.map (·.1) := by
  simp only [madeScripts, definitions, List.map_append, List.map_flatMap, map_fst_moduleFiles,
    List.map_map]
  rfl

/-- No definition is at the root. -/
theorem not_mem_rootFiles {path : String} (h : '/' ∈ path.toList) :
    path ∉ p.rootFiles.map (·.1) := by
  have hroots : ∀ name ∈ p.rootFiles.map (·.1), '/' ∉ name.toList := by simp [rootFiles]
  exact fun hroot => hroots path hroot h

/-- If no two definitions have one path, no two scripts do. -/
theorem nodup_madeScripts (h : (p.definitions.map fun d => entityPath d.1 d.2).Nodup) :
    (p.madeScripts.map (·.1)).Nodup := by
  rw [map_fst_madeScripts, List.nodup_append]
  refine ⟨h, by simp [rootFiles], ?_⟩
  rintro name hdef _ hroot rfl
  obtain ⟨d, -, hd⟩ := List.mem_map.1 hdef
  exact not_mem_rootFiles (by simp [← hd, entityPath]) hroot

/-- Every definition has a file of its own just when no two share a path. -/
theorem ownFiles_iff :
    p.OwnFiles config ↔ p.definitions.Pairwise fun a b => ¬ SharesPath a b := by
  have hpairs : (p.definitions.map fun d => entityPath d.1 d.2).Nodup ↔
      p.definitions.Pairwise fun a b => ¬ SharesPath a b := by
    simp only [List.Nodup, List.pairwise_map, ne_eq, entityPath_eq_iff]
  rw [← hpairs]
  refine ⟨OwnFiles.distinct, fun h => ⟨h, fun f hf => ?_⟩⟩
  have hmade := nodup_madeScripts h
  -- Where no path is repeated, no file replaces another one.
  have hscripts : (p.render config).scripts = p.madeScripts := Files.ofList_eq hmade
  rw [hscripts]
  exact Assoc.get?_of_mem hmade hf

end Prepared

/-! ## Names that are told apart -/

/-- Two symbols of one module only share a path if they differ in nothing but underscores and
capitals. -/
theorem SharesPath.folded_eq {m a b : String} (h : SharesPath (m, .text a) (m, .text b)) :
    Naming.folded a = Naming.folded b := by
  have hpath := entityPath_eq_iff.2 h
  rw [entityPath, entityPath, String.append_left_inj, String.append_right_inj] at hpath
  have hident : Naming.identifier a = Naming.identifier b := hpath
  calc Naming.folded a = Naming.folded (Naming.identifier a) := (Naming.folded_identifier a).symm
    _ = Naming.folded (Naming.identifier b) := congrArg Naming.folded hident
    _ = Naming.folded b := Naming.folded_identifier b

/-- The longer one of two modules whose definitions share a path has a slash. -/
theorem SharesPath.module_eq {a b : String × Label} (h : SharesPath a b) (ha : '/' ∉ a.1.toList)
    (hb : '/' ∉ b.1.toList) : a.1 = b.1 := by
  rcases h with ⟨hm, -⟩ | ⟨hm, -⟩ | ⟨hm, -⟩
  · exact hm
  · exact absurd (by simp [hm]) hb
  · exact absurd (by simp [hm]) ha

/-- Module names without slashes, and symbols that are texts and differ within each module in more
than underscores and capitals, from each other and from that of the opening file. -/
structure PlainSymbols (p : Prepared) : Prop where
  modules : ∀ m ∈ p.context.modules, '/' ∉ m.toList
  symbols : ∀ m ∈ p.context.modules, ∃ names : List String,
    moduleSymbols p.context m = names.map .text ∧
    ((names ++ ["__init__"]).map Naming.folded).Nodup

/-- The modules are distinct. -/
theorem nodup_modules (schema : Schema) (config : Config) :
    (Prepared.of schema config).context.modules.Nodup :=
  (List.mergeSort_perm _ _).nodup_iff.2 (nodup_eraseDups _)

/-- Symbols that are told apart do not share a path, within a module and across modules. -/
theorem PlainSymbols.not_sharesPath {p : Prepared} (h : PlainSymbols p)
    (hmodules : p.context.modules.Nodup) :
    p.definitions.Pairwise fun a b => ¬ SharesPath a b := by
  refine List.pairwise_flatMap.2 ⟨fun m hm => ?_, hmodules.imp_of_mem ?_⟩
  · obtain ⟨names, hnames, hfolded⟩ := h.symbols m hm
    have hsymbols : (moduleSymbols p.context m ++ [openingSymbol]).map (m, ·) =
        (names ++ ["__init__"]).map fun n => (m, .text n) := by
      rw [hnames]
      simp [openingSymbol]
    rw [hsymbols]
    exact List.pairwise_map.2 ((List.pairwise_map.1 hfolded).imp fun hne hs => hne hs.folded_eq)
  · rintro m m' hm hm' hne _ ha _ hb hshares
    obtain ⟨_, -, rfl⟩ := List.mem_map.1 ha
    obtain ⟨_, -, rfl⟩ := List.mem_map.1 hb
    exact hne (hshares.module_eq (h.modules m hm) (h.modules m' hm'))

/-- Every definition has a file of its own just when no two share a path, and they share none if
their symbols differ in more than underscores and capitals. -/
theorem definitions_have_own_files (schema : Schema) (config : Config) :
    let p := Prepared.of schema config
    (p.OwnFiles config ↔ p.definitions.Pairwise fun a b => ¬ SharesPath a b) ∧
    (∀ m a b, SharesPath (m, .text a) (m, .text b) → Naming.folded a = Naming.folded b) ∧
    (PlainSymbols p → p.OwnFiles config) :=
  ⟨Prepared.ownFiles_iff, fun _ _ _ h => h.folded_eq, fun h =>
    Prepared.ownFiles_iff.2 (h.not_sharesPath (nodup_modules schema config))⟩

/-- The files of two classes of one module. -/
theorem definitions_have_own_files_overloaded :
    PlainSymbols (Prepared.of overloadedSchema overloadedConfig) ∧
    (Prepared.of overloadedSchema overloadedConfig).OwnFiles overloadedConfig := by
  have hcontext : (Prepared.of overloadedSchema overloadedConfig).context =
      (overloadedContext.filtered overloadedConfig.blocklist).1 := by
    rw [Prepared.of, build_overloaded]
  have hmodules : (Prepared.of overloadedSchema overloadedConfig).context.modules = ["engine"] := by
    rw [hcontext]
    exact List.mergeSort_singleton _
  have hplain : PlainSymbols (Prepared.of overloadedSchema overloadedConfig) := by
    constructor
    · rw [hmodules]
      decide
    · rw [hmodules, hcontext]
      rintro m hm
      obtain rfl := List.mem_singleton.1 hm
      exact ⟨["Actor", "Pawn"], rfl, by decide⟩
  exact ⟨hplain, (definitions_have_own_files overloadedSchema overloadedConfig).2.2 hplain⟩

/-! ## Two servers -/

/-- A class with nothing in it. -/
def emptyClass (name cppName : String) : ClassInfo where
  name := .text name
  cppName := .text cppName
  package := .text "Engine"

/-- Two classes whose names are spelled with other capitals. -/
def serverSchema : Schema where
  classes := [emptyClass "HTTPServer" "UHTTPServer", emptyClass "HttpServer" "UHttpServer"]

def serverConfig : Config where
  features := ["core"]
  modules := [⟨"Engine", .text "engine", .text "core"⟩]

/-- The context of the two classes. -/
def serverContext : Context where
  packages := [("Engine", .text "engine")]
  features := [(.text "engine", .text "core")]
  enabled := ["engine"]
  classes := [("engine", serverSchema.classes)]
  classIndex := serverSchema.classes

theorem build_server : Context.build serverSchema serverConfig = serverContext :=
  Context.build_of_one_module rfl rfl (by decide) (by decide) (by decide)

theorem prepare_server : Check.prepare serverSchema serverConfig = .ok () := by
  have horder : (serverContext.filtered serverConfig.blocklist).1.classesInOrder =
      (serverContext.filtered serverConfig.blocklist).1.classes.members :=
    Context.classesInOrder_of_singleton rfl
  rw [Check.prepare, Check.build, build_server]
  dsimp only
  rw [Check.table, horder]
  rfl

/-- The output is verified, and the symbols of its module differ, but two classes have one file. -/
theorem verified_files_collide :
    let p := Prepared.of serverSchema serverConfig
    Check.prepare serverSchema serverConfig = .ok () ∧ Check.constants p.table = .ok () ∧
    verify (fun _ => some 1) p.table (tableIds p.table) p.context.modules (.parse "py")
      (.parse "cpp") = [] ∧
    p.context.modules = ["engine"] ∧
    moduleSymbols p.context "engine" = [.text "HTTPServer", .text "HttpServer"] ∧
    entityPath "engine" (.text "HTTPServer") = entityPath "engine" (.text "HttpServer") ∧
    ¬ p.OwnFiles serverConfig := by
  intro p
  have hcontext : p.context = (serverContext.filtered serverConfig.blocklist).1 := by
    rw [show p = Prepared.of serverSchema serverConfig from rfl, Prepared.of, build_server]
  have hmodules : p.context.modules = ["engine"] := by
    rw [hcontext]
    exact List.mergeSort_singleton _
  have hsymbols : moduleSymbols p.context "engine" =
      [.text "HTTPServer", .text "HttpServer"] := by
    rw [hcontext]
    rfl
  have hpath : entityPath "engine" (.text "HTTPServer") =
      entityPath "engine" (.text "HttpServer") := by
    decide
  have hspelled : Check.constants (serverSchema.slots serverConfig) = .ok () := by decide +kernel
  have hslots : ((serverSchema.slots serverConfig).map Entry.constant).Nodup := by decide +kernel
  obtain ⟨hconstants, hverify⟩ := Schema.verified_of_slots hspelled hslots
  refine ⟨prepare_server, hconstants, hverify _ _ _, hmodules, hsymbols, hpath, fun h => ?_⟩
  have hdistinct := h.distinct
  rw [Prepared.definitions, hmodules, List.flatMap_singleton, hsymbols] at hdistinct
  exact absurd hdistinct (by decide)

end Bindery
