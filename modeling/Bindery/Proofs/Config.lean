import Bindery.Config
import Bindery.Proofs.Document
import Bindery.Proofs.Outcome

/-!
# Configurations and what they are read from

A section of a document holds a configuration if each of its values is what the configuration has
in its place. Reading finds that configuration, or says what is wrong with the section, unless it
asks a value for entries that it does not have or takes a value for a path that is none.

* `Config.HeldBy`: the configuration that a section holds.
* `Config.read_eq_ok_iff`: reading finds it.
* `Config.Undiagnosed`: sections in which reading stumbles over a value.
* `Config.Shaped`: sections in which it cannot.
* `config_read_or_refused`: the main statement.
-/

namespace Bindery

namespace Config

open Outcome

/-! ## Lists of texts -/

/-- The texts at a key: a list of texts, or none if there is nothing. -/
def HoldsTexts (sec : Document) (key : String) (ts : List String) : Prop :=
  (sec.get? key).getD (.list []) = .list (ts.map .text)

section Texts

variable {sec : Document} {key place : String}

/-- Reading finds the texts, and nothing but a list of texts. -/
theorem texts_eq_ok_iff {ts : List String} :
    texts sec key place = .ok ts ↔ HoldsTexts sec key ts := by
  unfold texts HoldsTexts
  split
  · next items heq =>
    rw [heq, Document.list.injEq, ← Document.mapM_text?_iff]
    cases items.mapM Document.text? <;> simp
  · next hlist =>
    exact iff_of_false nofun fun h => hlist _ h

/-- Reading texts has an error of its own for everything else. -/
theorem texts_ne_fault {f : Fault} : texts sec key place ≠ .error (.fault f) := by
  unfold texts
  repeat' split
  all_goals simp

end Texts

/-! ## Paths -/

/-- The keys of the paths, in the order in which they are read. -/
def pathKeys : List String := ["uht_input", "py_out", "cpp_out"]

/-- The path at a key: a text, seen from a directory. -/
def HoldsPath (dir : FilePath) (paths : Document) (key : String) (path : FilePath) : Prop :=
  ∃ s, paths.get? key = some (.text s) ∧ path = dir.join (.parse s)

/-- The paths of a section, if there are any. -/
inductive HoldsPaths (dir : FilePath) (paths : Document) : Option OutputPaths → Prop where
  | absent : paths = .null → HoldsPaths dir paths none
  | given {schema scripts sources : FilePath} : HoldsPath dir paths "uht_input" schema →
      HoldsPath dir paths "py_out" scripts → HoldsPath dir paths "cpp_out" sources →
      HoldsPaths dir paths (some ⟨schema, scripts, sources⟩)

/-- Something that is no text stands at a key, or nothing can be asked for. -/
def NoPathAt (paths : Document) (key : String) : Prop :=
  paths.isTable = false ∨ ∃ v, paths.get? key = some v ∧ v.text? = none

/-- Reading the paths at some keys in turn comes to one at which there is no path. -/
inductive StopsAt (paths : Document) : List String → Prop where
  | here {key : String} {rest : List String} : NoPathAt paths key → StopsAt paths (key :: rest)
  | later {key s : String} {rest : List String} : paths.get? key = some (.text s) →
      StopsAt paths rest → StopsAt paths (key :: rest)

/-- There are paths of which one cannot be used. -/
def PathsUnusable (paths : Document) : Prop := paths ≠ .null ∧ StopsAt paths pathKeys

section Paths

variable {dir : FilePath} {paths : Document} {key : String}

/-- Reading finds the path at a key. -/
theorem pathAt_eq_ok_iff {path : FilePath} :
    pathAt dir paths key = .ok path ↔ HoldsPath dir paths key path := by
  unfold HoldsPath pathAt Document.get?
  cases paths with
  | table entries =>
    cases hv : Assoc.get? key entries with
    | none => simp [hv]
    | some d => cases d <;> simp [hv, eq_comm]
  | _ => simp

/-- Without a path at the key, reading fails for the wrong type. -/
theorem pathAt_eq_fault_iff {f : Fault} :
    pathAt dir paths key = .error (.fault f) ↔ f = .wrongType ∧ NoPathAt paths key := by
  unfold pathAt NoPathAt Document.get?
  cases paths with
  | table entries =>
    cases hv : Assoc.get? key entries with
    | none => simp [hv, Document.isTable]
    | some d => cases d <;> simp [hv, Document.isTable, Document.text?, eq_comm]
  | _ => simp [Document.isTable, eq_comm]

private theorem readPaths_of_ne_null (h : paths ≠ .null) :
    readPaths dir paths = do
      let schema ← pathAt dir paths "uht_input"
      let scripts ← pathAt dir paths "py_out"
      let sources ← pathAt dir paths "cpp_out"
      return some { schema, scripts, sources } := by
  cases paths with
  | null => exact absurd rfl h
  | _ => rfl

/-- Reading finds the paths, if there are any to be read. -/
theorem readPaths_eq_ok_iff {o : Option OutputPaths} :
    readPaths dir paths = .ok o ↔ HoldsPaths dir paths o := by
  by_cases h : paths = .null
  · subst h
    constructor
    · intro ho
      obtain rfl := Except.ok.inj ho
      exact .absent rfl
    · rintro (_ | ⟨⟨_, hget, _⟩⟩)
      · rfl
      · cases hget
  · rw [readPaths_of_ne_null h]
    simp only [bind_eq_ok_iff, pathAt_eq_ok_iff, pure, Except.pure, Except.ok.injEq]
    constructor
    · rintro ⟨schema, hschema, scripts, hscripts, sources, hsources, rfl⟩
      exact .given hschema hscripts hsources
    · rintro (hnull | ⟨hschema, hscripts, hsources⟩)
      · exact absurd hnull h
      · exact ⟨_, hschema, _, hscripts, _, hsources, rfl⟩

/-- The first key has no path, or reading goes on behind it. -/
private theorem stopsAt_cons_iff (dir : FilePath) {rest : List String} :
    StopsAt paths (key :: rest) ↔
      NoPathAt paths key ∨ (∃ path, HoldsPath dir paths key path) ∧ StopsAt paths rest := by
  constructor
  · rintro (h | ⟨hs, h⟩)
    · exact .inl h
    · exact .inr ⟨⟨_, _, hs, rfl⟩, h⟩
  · rintro (h | ⟨⟨_, s, hs, -⟩, h⟩)
    · exact .here h
    · exact .later hs h

private theorem not_stopsAt_nil : ¬ StopsAt paths [] := nofun

theorem readPaths_eq_fault_iff {f : Fault} :
    readPaths dir paths = .error (.fault f) ↔ f = .wrongType ∧ PathsUnusable paths := by
  by_cases h : paths = .null
  · subst h
    exact iff_of_false nofun fun hu => hu.2.1 rfl
  · rw [readPaths_of_ne_null h, PathsUnusable, pathKeys]
    -- What is left is propositional: reading stops at the first key whose path is missing.
    simp only [stopsAt_cons_iff dir, not_stopsAt_nil, bind_eq_error_iff,
      pathAt_eq_ok_iff, pathAt_eq_fault_iff, pure, Except.pure, reduceCtorEq, exists_and_right,
      and_false, exists_false, or_false]
    tauto

end Paths

/-! ## Tables of a section -/

/-- Something that does not count as absent stands in place of a table. -/
def NoTable (d : Document) : Prop := d.isEmpty = false ∧ d.isTable = false

private theorem noTable_of_ne {d : Document} (hd : ¬ d.isEmpty = true)
    (h : ∀ entries, d = .table entries → False) : NoTable d := by
  refine ⟨by simpa using hd, ?_⟩
  cases d with
  | table entries => exact absurd rfl (h entries)
  | _ => rfl

private theorem not_noTable_table {entries : List (String × Document)} :
    ¬ NoTable (.table entries) := nofun

private theorem not_noTable_of_isEmpty {d : Document} (h : d.isEmpty = true) : ¬ NoTable d := by
  simp [NoTable, h]

/-- The mapping at a package. -/
structure HoldsMapping (e : String × Document) (m : ModuleMapping) : Prop where
  package : m.package = e.1
  module : e.2.get? "module" = some m.module
  feature : e.2.get? "feature" = some m.feature

/-- The mappings of a section, one for each entry of the table in its order. -/
inductive HoldsModules (d : Document) : List ModuleMapping → Prop where
  | absent : d.isEmpty = true → HoldsModules d []
  | given {entries : List (String × Document)} {ms : List ModuleMapping} : d = .table entries →
      List.Forall₂ HoldsMapping entries ms → HoldsModules d ms

/-- The blocklist of a section. -/
structure HoldsBlocklist (d : Document) (b : Blocklist) : Prop where
  usable : ¬ NoTable d
  classes : HoldsTexts d "classes" b.classes
  structs : HoldsTexts d "structs" b.structs
  functions : HoldsTexts d "functions" b.functions

section Tables

variable {d : Document}

/-- Reading finds the mapping at a package. -/
theorem readMapping_eq_ok_iff {package : String} {m : ModuleMapping} :
    readMapping package d = .ok m ↔ HoldsMapping (package, d) m := by
  unfold readMapping
  constructor
  · intro h
    split at h
    · next module feature hm hf =>
      obtain rfl := Except.ok.inj h
      exact ⟨rfl, hm, hf⟩
    · cases h
  · rintro ⟨rfl, hm, hf⟩
    simp only at hm hf
    rw [hm, hf]

private theorem readMapping_ne_fault {package : String} {f : Fault} :
    readMapping package d ≠ .error (.fault f) := by
  unfold readMapping
  split <;> simp

/-- Reading finds the mappings of a table in its order. -/
theorem readModules_eq_ok_iff {ms : List ModuleMapping} :
    readModules d = .ok ms ↔ HoldsModules d ms := by
  unfold readModules
  split
  · next hempty =>
    constructor
    · intro h
      obtain rfl := Except.ok.inj h
      exact .absent hempty
    · rintro (_ | ⟨rfl, hms⟩)
      · rfl
      · obtain rfl := List.isEmpty_iff.1 hempty
        cases hms
        rfl
  · next hempty =>
    split
    · next entries =>
      rw [mapM_eq_ok_iff]
      simp only [readMapping_eq_ok_iff]
      constructor
      · exact .given rfl
      · rintro (h | ⟨h, hms⟩)
        · exact absurd h hempty
        · cases h
          exact hms
    · next htable =>
      refine iff_of_false nofun ?_
      rintro (h | ⟨h, -⟩)
      · exact hempty h
      · exact htable _ h

/-- What is no table cannot be asked for its entries. -/
theorem readModules_eq_fault_iff {f : Fault} :
    readModules d = .error (.fault f) ↔ f = .noSuchMember ∧ NoTable d := by
  unfold readModules
  split
  · next hempty => exact iff_of_false nofun fun h => not_noTable_of_isEmpty hempty h.2
  · next hempty =>
    split
    · next entries =>
      refine iff_of_false (fun h => ?_) fun h => not_noTable_table h.2
      obtain ⟨e, -, he⟩ := exists_of_mapM_eq_error h
      exact readMapping_ne_fault he
    · next htable => simp [noTable_of_ne hempty htable, eq_comm]

private theorem holdsTexts_of_isEmpty {key : String} {ts : List String} (h : d.isEmpty = true) :
    HoldsTexts d key ts ↔ ts = [] := by
  simp [HoldsTexts, Document.get?_of_isEmpty h, eq_comm]

/-- Reading finds the blocklist. -/
theorem readBlocklist_eq_ok_iff {b : Blocklist} :
    readBlocklist d = .ok b ↔ HoldsBlocklist d b := by
  unfold readBlocklist
  split
  · next hempty =>
    constructor
    · intro h
      obtain rfl := Except.ok.inj h
      exact ⟨not_noTable_of_isEmpty hempty, (holdsTexts_of_isEmpty hempty).2 rfl,
        (holdsTexts_of_isEmpty hempty).2 rfl, (holdsTexts_of_isEmpty hempty).2 rfl⟩
    · obtain ⟨classes, structs, functions⟩ := b
      rintro ⟨-, hc, hs, hf⟩
      obtain rfl := (holdsTexts_of_isEmpty hempty).1 hc
      obtain rfl := (holdsTexts_of_isEmpty hempty).1 hs
      obtain rfl := (holdsTexts_of_isEmpty hempty).1 hf
      rfl
  · next hempty =>
    split
    · next entries =>
      simp only [bind_eq_ok_iff, texts_eq_ok_iff, pure, Except.pure, Except.ok.injEq]
      constructor
      · rintro ⟨classes, hc, structs, hs, functions, hf, rfl⟩
        exact ⟨not_noTable_table, hc, hs, hf⟩
      · rintro ⟨-, hc, hs, hf⟩
        exact ⟨_, hc, _, hs, _, hf, rfl⟩
    · next htable => exact iff_of_false nofun fun h => h.usable (noTable_of_ne hempty htable)

theorem readBlocklist_eq_fault_iff {f : Fault} :
    readBlocklist d = .error (.fault f) ↔ f = .noSuchMember ∧ NoTable d := by
  unfold readBlocklist
  split
  · next hempty => exact iff_of_false nofun fun h => not_noTable_of_isEmpty hempty h.2
  · next hempty =>
    split
    · next entries =>
      simp [bind_eq_error_iff, texts_ne_fault, not_noTable_table, pure, Except.pure]
    · next htable => simp [noTable_of_ne hempty htable, eq_comm]

end Tables

/-! ## Sections -/

/-- The configuration that a section holds. -/
structure HeldBy (dir : FilePath) (sec : Document) (c : Config) : Prop where
  isTable : sec.isTable = true
  features : HoldsTexts sec "features" c.features
  paths : HoldsPaths dir (sec.getD "paths") c.paths
  modules : HoldsModules (sec.getD "modules") c.modules
  blocklist : HoldsBlocklist (sec.getD "blocklist") c.blocklist
  strict : c.strict = !(sec.getD "strict").isEmpty

/-- Reading a section stumbles over a value, as whatever comes before it can be read. -/
inductive Undiagnosed (dir : FilePath) (sec : Document) : Fault → Prop where
  | paths {features : List String} : HoldsTexts sec "features" features →
      PathsUnusable (sec.getD "paths") → Undiagnosed dir sec .wrongType
  | modules {features : List String} {paths : Option OutputPaths} :
      HoldsTexts sec "features" features → HoldsPaths dir (sec.getD "paths") paths →
      NoTable (sec.getD "modules") → Undiagnosed dir sec .noSuchMember
  | blocklist {features : List String} {paths : Option OutputPaths} {ms : List ModuleMapping} :
      HoldsTexts sec "features" features → HoldsPaths dir (sec.getD "paths") paths →
      HoldsModules (sec.getD "modules") ms → NoTable (sec.getD "blocklist") →
      Undiagnosed dir sec .noSuchMember

section Sections

variable {dir : FilePath} {entries : List (String × Document)}

private theorem read_of_isTable {sec : Document} (h : (Document.table entries).getD "codegen" = sec)
    (hsec : sec.isTable = true) :
    read dir (.table entries) = do
      let features ← texts sec "features" "codegen"
      let paths ← readPaths dir (sec.getD "paths")
      let modules ← readModules (sec.getD "modules")
      let blocklist ← readBlocklist (sec.getD "blocklist")
      return { features, paths, modules, blocklist, strict := !(sec.getD "strict").isEmpty } := by
  obtain ⟨inside, rfl⟩ := Document.isTable_iff.1 hsec
  rw [read]
  simp only [h]

private theorem read_of_not_isTable
    (h : ((Document.table entries).getD "codegen").isTable = false) :
    read dir (.table entries) = .error .missingSection := by
  rw [read]
  split
  · next inside hsec => simp [hsec, Document.isTable] at h
  · rfl

/-- Reading finds the configuration of the section, and finds one only if it is there. -/
theorem read_eq_ok_iff {c : Config} :
    read dir (.table entries) = .ok c ↔ c.HeldBy dir ((Document.table entries).getD "codegen") := by
  generalize h : (Document.table entries).getD "codegen" = sec
  cases hsec : sec.isTable with
  | false =>
    rw [read_of_not_isTable (h ▸ hsec)]
    exact iff_of_false nofun fun hc => absurd hc.isTable (by simp [hsec])
  | true =>
    rw [read_of_isTable h hsec]
    simp only [bind_eq_ok_iff, texts_eq_ok_iff, readPaths_eq_ok_iff, readModules_eq_ok_iff,
      readBlocklist_eq_ok_iff, pure, Except.pure, Except.ok.injEq]
    constructor
    · rintro ⟨features, hfeatures, paths, hpaths, modules, hmodules, blocklist, hblocklist, rfl⟩
      exact ⟨hsec, hfeatures, hpaths, hmodules, hblocklist, rfl⟩
    · obtain ⟨features, paths, modules, blocklist, strict⟩ := c
      rintro ⟨-, hfeatures, hpaths, hmodules, hblocklist, rfl⟩
      exact ⟨_, hfeatures, _, hpaths, _, hmodules, _, hblocklist, rfl⟩

private theorem Undiagnosed.isTable {sec : Document} {f : Fault} (h : Undiagnosed dir sec f) :
    sec.isTable = true := by
  cases sec with
  | table inside => rfl
  | _ =>
    -- Without entries, all that is asked for is null.
    cases h with
    | paths _ h => exact absurd rfl h.1
    | modules _ _ h => cases h.1
    | blocklist _ _ _ h => cases h.1

/-- Reading stumbles exactly over the values that are not diagnosed. -/
theorem read_eq_fault_iff {f : Fault} :
    read dir (.table entries) = .error (.fault f) ↔
      Undiagnosed dir ((Document.table entries).getD "codegen") f := by
  generalize h : (Document.table entries).getD "codegen" = sec
  cases hsec : sec.isTable with
  | false =>
    rw [read_of_not_isTable (h ▸ hsec)]
    exact iff_of_false nofun fun hu => absurd hu.isTable (by simp [hsec])
  | true =>
    rw [read_of_isTable h hsec]
    simp only [bind_eq_error_iff, texts_eq_ok_iff, texts_ne_fault, readPaths_eq_ok_iff,
      readPaths_eq_fault_iff, readModules_eq_ok_iff, readModules_eq_fault_iff,
      readBlocklist_eq_fault_iff, pure, Except.pure, reduceCtorEq, and_false, exists_false,
      false_or, or_false]
    constructor
    · rintro ⟨features, hfeatures, ⟨rfl, hpaths⟩ | ⟨paths, hpaths, hmodules⟩⟩
      · exact .paths hfeatures hpaths
      · obtain ⟨rfl, hmodules⟩ | ⟨modules, hmodules, rfl, hblocklist⟩ := hmodules
        · exact .modules hfeatures hpaths hmodules
        · exact .blocklist hfeatures hpaths hmodules hblocklist
    · rintro (⟨hfeatures, hpaths⟩ | ⟨hfeatures, hpaths, hmodules⟩ |
        ⟨hfeatures, hpaths, hmodules, hblocklist⟩)
      · exact ⟨_, hfeatures, .inl ⟨rfl, hpaths⟩⟩
      · exact ⟨_, hfeatures, .inr ⟨_, hpaths, .inl ⟨rfl, hmodules⟩⟩⟩
      · exact ⟨_, hfeatures, .inr ⟨_, hpaths, .inr ⟨_, hmodules, rfl, hblocklist⟩⟩⟩

/-- A section whose tables are tables, as far as they are there, and whose paths are texts. -/
structure Shaped (sec : Document) : Prop where
  paths : sec.getD "paths" = .null ∨ (sec.getD "paths").isTable = true ∧
    ∀ key ∈ pathKeys, ∀ v, (sec.getD "paths").get? key = some v → v.text?.isSome = true
  modules : ¬ NoTable (sec.getD "modules")
  blocklist : ¬ NoTable (sec.getD "blocklist")

/-- Where reading stops there is no path at one of the keys. -/
private theorem exists_of_stopsAt {paths : Document} {keys : List String} (h : StopsAt paths keys) :
    ∃ key ∈ keys, NoPathAt paths key := by
  induction h with
  | here h => exact ⟨_, List.mem_cons_self, h⟩
  | later _ _ ih =>
    obtain ⟨key, hkey, h⟩ := ih
    exact ⟨key, List.mem_cons_of_mem _ hkey, h⟩

/-- A section with tables and texts in their places is never stumbled over. -/
theorem Shaped.not_undiagnosed {sec : Document} (h : Shaped sec) (f : Fault) :
    ¬ Undiagnosed dir sec f := by
  rintro (⟨-, hne, hstops⟩ | ⟨-, -, hmodules⟩ | ⟨-, -, -, hblocklist⟩)
  · obtain hnull | ⟨htable, htexts⟩ := h.paths
    · exact hne hnull
    · obtain ⟨key, hkey, hno | ⟨v, hv, hno⟩⟩ := exists_of_stopsAt hstops
      · simp [htable] at hno
      · simpa [hno] using htexts key hkey v hv
  · exact h.modules hmodules
  · exact h.blocklist hblocklist

end Sections

end Config

/-! ## Reading -/

open Config

/-- Reading a decoded file finds the configuration that its section holds. It stumbles exactly over
paths that are none and over values in place of the tables of modules and blocked entities; a
section whose tables and paths are such is read, or an error says what is wrong with it. -/
theorem config_read_or_refused (dir : FilePath) (entries : List (String × Document)) :
    let sec := (Document.table entries).getD "codegen"
    (∀ c, Config.read dir (.table entries) = .ok c ↔ c.HeldBy dir sec) ∧
    (∀ f, Config.read dir (.table entries) = .error (.fault f) ↔ Undiagnosed dir sec f) ∧
    (Shaped sec → (∃ c, Config.read dir (.table entries) = .ok c) ∨
      ∃ e, Config.read dir (.table entries) = .error e ∧ ∀ f, e ≠ .fault f) := by
  refine ⟨fun c => read_eq_ok_iff, fun f => read_eq_fault_iff, fun hshaped => ?_⟩
  cases h : Config.read dir (.table entries) with
  | ok c => exact .inl ⟨c, rfl⟩
  | error e =>
    refine .inr ⟨e, rfl, ?_⟩
    rintro f rfl
    exact hshaped.not_undiagnosed f (read_eq_fault_iff.1 h)

/-- A section with an incomplete module is shaped, and is refused with that error. -/
theorem config_read_or_refused_incomplete :
    let sec := Document.table [("features", .list [.text "core"]),
      ("modules", .table [("Engine", .table [("module", .text "engine")])])]
    Shaped sec ∧
      ((∃ c, Config.read {} (.table [("codegen", sec)]) = .ok c) ∨
        ∃ e, Config.read {} (.table [("codegen", sec)]) = .error e ∧ ∀ f, e ≠ .fault f) ∧
      Config.read {} (.table [("codegen", sec)]) = .error (.incompleteModule "Engine") := by
  have hshaped : Shaped (.table [("features", .list [.text "core"]),
      ("modules", .table [("Engine", .table [("module", .text "engine")])])]) :=
    ⟨.inl rfl, not_noTable_table, nofun⟩
  exact ⟨hshaped, (config_read_or_refused {} _).2.2 hshaped, rfl⟩

/-- A text in place of the table of blocked entities is no error of its own. -/
theorem blocklist_text_undiagnosed :
    Config.read {} (.table [("codegen", .table [("blocklist", .text "Actor")])]) =
      .error (.fault .noSuchMember) := rfl

end Bindery
