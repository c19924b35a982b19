import Bindery.Proofs.Accessor.Accounts
import Bindery.Proofs.Enum.Crossing
import Bindery.Proofs.Enum.Uses
import Bindery.Proofs.Render.Lines
import Bindery.Proofs.Render.OwnFiles

/-!
# Imports between files

A generated file refers to an entity of another one by module and symbol, which it gets from the
name of the entity. If names lead to entities, the symbol is one that the module exports, and if
symbols have files of their own, that of the symbol is there. So each import leads to a file that
defines the symbol, and what the code of a class needs when it runs is imported then.

* `Prepared.Renders`: the file that a binding stands for is there.
* `Context.Exports`: a module exports the symbol of a binding.
* `Prepared.OwnFiles.renders`: what is exported has its file.
* `Schema.Referable`: names lead to entities.
* `Schema.Referable.exports_of_class?`, `exports_of_struct?`, `module_of_enum?`: the bindings of
  what is found by its name.
* `Schema.Referable.exports_of_mem_imported`: what a file imports for its references.
* `Schema.Referable.exports_of_mem_classLines`, `exports_of_mem_structLines`: what files import is
  exported.
* `Schema.Referable.exists_enum_import`: the enums that the code of a class uses.
* `Prepared.ClosedImports`, `imports_closed`: the imports of classes, structs and modules.
* `Prepared.get?_openingFile`: the opening file of a module comes last.
* `opening_file_replaces_class`: a class whose file is replaced by the opening file of its module.
-/

namespace Bindery

open Render

/-! ## Files of bindings -/

/-- The file that a binding stands for is there and defines its symbol. -/
inductive Prepared.Renders (p : Prepared) (config : Config) : Binding → Prop where
  | enum {m : String} {e : EnumInfo} : e ∈ p.context.enums.at m →
      Assoc.get? (entityPath m e.name) (p.render config).scripts = some (enumFile e) →
      Renders p config ⟨m, e.name⟩
  | struct {m : String} {s : StructModule} : s ∈ structModules p m →
      Assoc.get? (entityPath m s.info.cppName) (p.render config).scripts = some (structFile s) →
      Renders p config ⟨m, s.info.cppName⟩
  | class {m : String} {c : ClassModule} : c ∈ classModules p m →
      Assoc.get? (entityPath m c.info.name) (p.render config).scripts = some (classFile c) →
      Renders p config ⟨m, c.info.name⟩

/-- A binding of a symbol that its module exports. -/
def Context.Exports (ctx : Context) (b : Binding) : Prop :=
  b.module ∈ ctx.modules ∧ b.symbol ∈ moduleSymbols ctx b.module

namespace Context

variable {ctx : Context} {m : String}

theorem exports_of_enum {e : EnumInfo} (hm : m ∈ ctx.modules) (he : e ∈ ctx.enums.at m) :
    ctx.Exports ⟨m, e.name⟩ :=
  ⟨hm, List.mem_append_left _ (List.mem_append_left _ (List.mem_map_of_mem (f := (·.name)) he))⟩

theorem exports_of_struct {s : StructInfo} (hm : m ∈ ctx.modules) (hs : s ∈ ctx.structs.at m) :
    ctx.Exports ⟨m, s.cppName⟩ :=
  ⟨hm, List.mem_append_left _
    (List.mem_append_right _ (List.mem_map_of_mem (f := (·.cppName)) hs))⟩

theorem exports_of_class {c : ClassInfo} (hm : m ∈ ctx.modules) (hc : c ∈ ctx.classes.at m) :
    ctx.Exports ⟨m, c.name⟩ :=
  ⟨hm, List.mem_append_right _ (List.mem_map_of_mem (f := (·.name)) hc)⟩

end Context

theorem mem_moduleFiles_of_enum {p : Prepared} {m : String} {e : EnumInfo}
    (h : e ∈ p.context.enums.at m) : (entityPath m e.name, enumFile e) ∈ moduleFiles p m := by
  have henum := List.mem_map_of_mem (f := fun e => (entityPath m e.name, enumFile e)) h
  exact List.mem_append_left _ (List.mem_append_left _ (List.mem_append_left _ henum))

theorem mem_moduleFiles_of_struct {p : Prepared} {m : String} {s : StructModule}
    (h : s ∈ structModules p m) :
    (entityPath m s.info.cppName, structFile s) ∈ moduleFiles p m := by
  have hstruct := List.mem_map_of_mem (f := fun s => (entityPath m s.info.cppName, structFile s)) h
  exact List.mem_append_left _ (List.mem_append_left _ (List.mem_append_right _ hstruct))

namespace Prepared.OwnFiles

variable {p : Prepared} {config : Config} (h : p.OwnFiles config)

include h

theorem get?_scripts {m path text : String} (hm : m ∈ p.context.modules)
    (hfile : (path, text) ∈ moduleFiles p m) :
    Assoc.get? path (p.render config).scripts = some text :=
  h.kept (path, text) (List.mem_append_left _ (List.mem_flatMap.2 ⟨m, hm, hfile⟩))

/-- The files of exported symbols are there. -/
theorem renders {b : Binding} (hb : p.context.Exports b) : p.Renders config b := by
  obtain ⟨m, symbol⟩ := b
  obtain ⟨hm, hsymbol⟩ := hb
  simp only [moduleSymbols, List.mem_append, List.mem_map] at hsymbol
  rcases hsymbol with (⟨e, he, rfl⟩ | ⟨s, hs, rfl⟩) | ⟨c, hc, rfl⟩
  · exact .enum he (h.get?_scripts hm (mem_moduleFiles_of_enum he))
  · have hs : StructModule.of p.context s ∈ structModules p m := List.mem_map_of_mem hs
    exact .struct hs (h.get?_scripts hm (mem_moduleFiles_of_struct hs))
  · have hc : ClassModule.of p.context c (p.table.filter fun e => e.module = m &&
      e.className = c.name) ∈ classModules p m := List.mem_map_of_mem hc
    exact .class hc (h.get?_scripts hm (mem_moduleFiles_of_class hc))

end Prepared.OwnFiles

/-! ## Names -/

namespace Schema

/-- The names of classes, structs and enums. -/
def names (schema : Schema) : List Label :=
  schema.classes.map (·.name) ++ schema.structs.map (·.name) ++ schema.enums.map (·.name)

/-- A schema in which names lead to entities: they are texts, no two entities have the same one,
and those that stand for enums are of enums. -/
structure Referable (schema : Schema) (config : Config) : Prop where
  packages : ∀ l ∈ schema.packages, l.isText = true
  names : ∀ l ∈ schema.names, l.isText = true
  distinct : schema.names.Nodup
  enums : schema.NamesEnums config

namespace Referable

variable {schema : Schema} {config : Config} (h : schema.Referable config) {name : Label}

include h

/-- Names of entities are texts, so what is the same as one is that one. -/
theorem eq_of_same {l : Label} (hl : l ∈ schema.names) (hsame : l.same name = true) :
    name = l := by
  obtain ⟨s, rfl⟩ := Label.exists_of_isText (h.names l hl)
  exact Label.eq_text_of_same (Label.same_comm _ _ ▸ hsame)

theorem of_class? {c : ClassInfo}
    (hc : (Prepared.of schema config).context.class? name = some c) :
    c ∈ schema.classes ∧ name = c.name := by
  obtain ⟨hmem, -, -, hsame⟩ := Schema.of_class? hc
  exact ⟨hmem, h.eq_of_same (List.mem_append_left _ (List.mem_append_left _
    (List.mem_map_of_mem hmem))) hsame⟩

theorem of_struct? {s : StructInfo}
    (hs : (Prepared.of schema config).context.struct? name = some s) :
    s ∈ schema.structs ∧ name = s.name := by
  obtain ⟨hmem, -, hsame⟩ := Schema.of_struct? hs
  exact ⟨hmem, h.eq_of_same (List.mem_append_left _ (List.mem_append_right _
    (List.mem_map_of_mem hmem))) hsame⟩

theorem of_enum? {e : EnumInfo}
    (he : (Prepared.of schema config).context.enum? name = some e) :
    e ∈ schema.enums ∧ name = e.name := by
  obtain ⟨hmem, -, hsame⟩ := Schema.of_enum? he
  exact ⟨hmem, h.eq_of_same (List.mem_append_right _ (List.mem_map_of_mem hmem)) hsame⟩

/-- An enum has its name to itself. -/
theorem alone_of_enum? {e : EnumInfo}
    (he : (Prepared.of schema config).context.enum? name = some e) :
    (Prepared.of schema config).context.class? name = none ∧
      (Prepared.of schema config).context.struct? name = none := by
  obtain ⟨hmem, rfl⟩ := h.of_enum? he
  have hdisjoint := (List.nodup_append.1 h.distinct).2.2
  constructor
  · refine Option.eq_none_iff_forall_ne_some.2 fun c hc => ?_
    obtain ⟨hclass, hname⟩ := h.of_class? hc
    exact hdisjoint _ (List.mem_append_left _ (List.mem_map_of_mem hclass)) _
      (List.mem_map_of_mem hmem) hname.symm
  · refine Option.eq_none_iff_forall_ne_some.2 fun s hs => ?_
    obtain ⟨hstruct, hname⟩ := h.of_struct? hs
    exact hdisjoint _ (List.mem_append_right _ (List.mem_map_of_mem hstruct)) _
      (List.mem_map_of_mem hmem) hname.symm

/-- A struct has its name to itself, too. -/
theorem class?_eq_none_of_struct? {s : StructInfo}
    (hs : (Prepared.of schema config).context.struct? name = some s) :
    (Prepared.of schema config).context.class? name = none := by
  obtain ⟨hmem, rfl⟩ := h.of_struct? hs
  refine Option.eq_none_iff_forall_ne_some.2 fun c hc => ?_
  obtain ⟨hclass, hname⟩ := h.of_class? hc
  exact (List.nodup_append.1 (List.nodup_append.1 h.distinct).1).2.2 _
    (List.mem_map_of_mem hclass) _ (List.mem_map_of_mem hmem) hname.symm

/-! ## Bindings -/

/-- A class that is found by its name is exported by its module. -/
theorem exports_of_class? {c : ClassInfo}
    (hc : (Prepared.of schema config).context.class? name = some c) :
    ∃ b, (Prepared.of schema config).context.binding? name = some b ∧
      (Prepared.of schema config).context.Exports b := by
  obtain ⟨m, hm, hbinding⟩ := binding?_of_class? h.packages hc
  obtain ⟨hmem, hblocked, -, -⟩ := Schema.of_class? hc
  have hat := mem_classes_at.2 ⟨c, mem_enabledClasses.2 ⟨hmem, hblocked, hm⟩, rfl⟩
  obtain ⟨-, rfl⟩ := h.of_class? hc
  have hexports := Context.exports_of_class (mem_modules_of_module? hm) hat
  exact ⟨_, hbinding, hexports⟩

/-- A struct that is found by its name is exported by its module. -/
theorem exports_of_struct? {s : StructInfo}
    (hs : (Prepared.of schema config).context.struct? name = some s) :
    ∃ b, (Prepared.of schema config).context.binding? name = some b ∧
      (Prepared.of schema config).context.Exports b := by
  have henum : (Prepared.of schema config).context.enum? name = none :=
    Option.eq_none_iff_forall_ne_some.2 fun e he =>
      absurd ((h.alone_of_enum? he).2.symm.trans hs) (Option.some_ne_none s).symm
  obtain ⟨m, hm, hbinding⟩ :=
    binding?_of_struct? h.packages (h.class?_eq_none_of_struct? hs) henum hs
  have hat := mem_structs_at.2 ⟨(h.of_struct? hs).1, hm⟩
  exact ⟨_, hbinding, Context.exports_of_struct (mem_modules_of_module? hm) hat⟩

/-- The binding of an enum goes by its name. -/
theorem module_of_enum? {e : EnumInfo}
    (he : (Prepared.of schema config).context.enum? name = some e) :
    ∃ m ∈ (Prepared.of schema config).context.modules,
      e ∈ (Prepared.of schema config).context.enums.at m ∧ e.name = name ∧
      (Prepared.of schema config).context.binding? name = some ⟨m, name⟩ := by
  obtain ⟨hclass, hstruct⟩ := h.alone_of_enum? he
  obtain ⟨m, hm, hbinding⟩ := binding?_of_enum? h.packages hclass hstruct he
  obtain ⟨hmem, hname⟩ := h.of_enum? he
  exact ⟨m, mem_modules_of_module? hm, mem_enums_at.2 ⟨hmem, hm⟩, hname.symm, hbinding⟩

/-- What a file imports for its references is exported. -/
theorem exports_of_mem_imported {r : References} {own : Label} {b : Binding}
    (hfound : r.Found (Prepared.of schema config).context)
    (hb : b ∈ imported r (Prepared.of schema config).context own) :
    (Prepared.of schema config).context.Exports b := by
  rcases List.mem_append.1 hb with hb | hb
  · obtain ⟨name, hname, hbinding⟩ := List.mem_filterMap.1 hb
    obtain ⟨e, he⟩ := Option.isSome_iff_exists.1
      (hfound.runtime name (References.mem_of_mem_others hname).1)
    obtain ⟨m, hm, hat, rfl, hb'⟩ := h.module_of_enum? he
    exact Option.some.inj (hb'.symm.trans hbinding) ▸ Context.exports_of_enum hm hat
  · obtain ⟨name, hname, hbinding⟩ := List.mem_filterMap.1 hb
    have hhint := List.mem_of_mem_filter (References.mem_of_mem_others hname).1
    obtain ⟨b', hb', hexports⟩ : ∃ b', (Prepared.of schema config).context.binding? name =
        some b' ∧ (Prepared.of schema config).context.Exports b' := by
      rcases hfound.hints name hhint with hstruct | hclass
      · obtain ⟨s, hs⟩ := Option.isSome_iff_exists.1 hstruct
        exact h.exports_of_struct? hs
      · obtain ⟨c, hc⟩ := Option.isSome_iff_exists.1 hclass
        exact h.exports_of_class? hc
    exact Option.some.inj (hb'.symm.trans hbinding) ▸ hexports

end Referable
end Schema

open Script

/-! ## Imports of files -/

/-- What the file of a class refers to was found. -/
theorem found_references_of_mem {p : Prepared} {m : String} {c : ClassModule}
    (hc : c ∈ classModules p m) :
    c.references.Found p.context ∧ c.otherReferences.Found p.context := by
  obtain ⟨info, -, rfl⟩ := List.mem_map.1 hc
  exact ⟨ClassModule.found_references _ info _, ClassModule.found_otherReferences _ info _⟩

namespace Schema.Referable

variable {schema : Schema} {config : Config} (h : schema.Referable config) {name : Label}
  {m : String}

include h

theorem exports_of_parentBinding? {c : ClassModule}
    (hc : c ∈ classModules (Prepared.of schema config) m) {b : Binding}
    (hb : c.parentBinding? = some b) : (Prepared.of schema config).context.Exports b := by
  obtain ⟨info, -, rfl⟩ := List.mem_map.1 hc
  obtain ⟨parent, hparent, hbinding⟩ := Option.bind_eq_some_iff.1 hb
  have hfound := (Option.filter_eq_some_iff.1 hparent).2
  obtain ⟨c, hclass⟩ := Option.isSome_iff_exists.1 (Bool.and_eq_true_iff.1 hfound).1
  obtain ⟨b', hb', hexports⟩ := h.exports_of_class? hclass
  exact Option.some.inj (hb'.symm.trans hbinding) ▸ hexports

/-- The imports in the file of a class are of exported symbols, apart from that of the table's
indices. -/
theorem exports_of_mem_classLines {c : ClassModule}
    (hc : c ∈ classModules (Prepared.of schema config) m) {line : String}
    (hline : line ∈ classLines c) (himport : isSiblingImport line = true) :
    line = "from .. import func_ids" ∨
      ∃ b, (Prepared.of schema config).context.Exports b ∧ ImportedBy b line := by
  refine (import_of_mem_classLines hline himport).imp_right ?_
  rintro ⟨b, hparent | hreference, hby⟩
  · exact ⟨b, h.exports_of_parentBinding? hc hparent, hby⟩
  · rw [context_of_mem_classModules hc] at hreference
    exact ⟨b, h.exports_of_mem_imported (found_references_of_mem hc).2 hreference, hby⟩

/-- The imports in the file of a struct are of exported symbols. -/
theorem exports_of_mem_structLines {s : StructModule}
    (hs : s ∈ structModules (Prepared.of schema config) m) {line : String}
    (hline : line ∈ structLines s) (himport : isSiblingImport line = true) :
    ∃ b, (Prepared.of schema config).context.Exports b ∧ ImportedBy b line := by
  obtain ⟨info, -, rfl⟩ := List.mem_map.1 hs
  obtain ⟨b, hb, hby⟩ := import_of_mem_structLines hline himport
  exact ⟨b, h.exports_of_mem_imported (StructModule.found_references _ info) hb, hby⟩

/-- An enum that the code of a class uses is imported where the code can reach it. -/
theorem exists_enum_import {c : ClassModule}
    (hc : c ∈ classModules (Prepared.of schema config) m) (huse : c.UsesEnum name) :
    ∃ m' ∈ (Prepared.of schema config).context.modules,
      ∃ e ∈ (Prepared.of schema config).context.enums.at m', e.name = name ∧
      (⟨m', name⟩ : Binding).importLine ∈ classLines c := by
  have hruntime := huse.mem_runtime h.enums hc
  have hfound := (found_references_of_mem hc).1.runtime
  obtain ⟨e, he⟩ := Option.isSome_iff_exists.1 (hfound name hruntime)
  obtain ⟨m', hm', hat, hname, hbinding⟩ := h.module_of_enum? he
  have htexts : ∀ k ∈ c.references.runtime, k.isText = true := fun k hk => by
    obtain ⟨e, he⟩ := Option.isSome_iff_exists.1 (hfound k hk)
    obtain ⟨hmem, rfl⟩ := h.of_enum? he
    exact h.names _ (List.mem_append_right _ (List.mem_map_of_mem hmem))
  -- The class is no enum, so the file does not take the enum for its own entity.
  have hown : name.same c.info.name = false := by
    obtain ⟨hmem, rfl⟩ := h.of_enum? he
    refine Bool.eq_false_of_not_eq_true fun hsame => ?_
    exact (List.nodup_append.1 h.distinct).2.2 _
      (List.mem_append_left _ (name_of_mem_classModules hc)) _ (List.mem_map_of_mem hmem)
      (h.eq_of_same (List.mem_append_right _ (List.mem_map_of_mem hmem)) hsame)
  refine ⟨m', hm', e, hat, hname, importLine_mem_classLines ?_⟩
  rw [context_of_mem_classModules hc]
  exact List.mem_filterMap.2 ⟨name, References.mem_others htexts hruntime hown, hbinding⟩

end Schema.Referable

/-- The imports in the files of a module lead to the files of what they import, and the enums that
the code of its classes uses are imported when it runs. The lines are those of the files. -/
structure Prepared.ClosedImports (p : Prepared) (config : Config) (m : String) : Prop where
  classFiles : ∀ c ∈ classModules p m, classFile c = fileText (classLines c)
  structFiles : ∀ s ∈ structModules p m, structFile s = fileText (structLines s)
  openingFile : moduleFile p.context m = fileText (moduleLines p.context m)
  classes : ∀ c ∈ classModules p m, ∀ line ∈ classLines c, isSiblingImport line = true →
    line = "from .. import func_ids" ∨ ∃ b, p.Renders config b ∧ ImportedBy b line
  structs : ∀ s ∈ structModules p m, ∀ line ∈ structLines s, isSiblingImport line = true →
    ∃ b, p.Renders config b ∧ ImportedBy b line
  symbols : ∀ line ∈ moduleLines p.context m, isSiblingImport line = true →
    ∃ b : Binding, b.module = m ∧ p.Renders config b ∧
      line = "from ." ++ b.file ++ " import " ++ b.symbol.spoken
  enums : ∀ c ∈ classModules p m, ∀ name, c.UsesEnum name →
    ∃ m', ∃ e ∈ p.context.enums.at m', e.name = name ∧
      Assoc.get? (entityPath m' name) (p.render config).scripts = some (enumFile e) ∧
      (⟨m', name⟩ : Binding).importLine ∈ classLines c

/-- In a schema in which names lead to entities, all imports lead to files, unless two definitions
share a path. -/
theorem imports_closed (schema : Schema) (config : Config) (hs : schema.Referable config)
    (hpaths : (Prepared.of schema config).definitions.Pairwise fun a b => ¬ SharesPath a b) :
    ∀ m ∈ (Prepared.of schema config).context.modules,
      (Prepared.of schema config).ClosedImports config m := by
  intro m hm
  have hown : (Prepared.of schema config).OwnFiles config := Prepared.ownFiles_iff.2 hpaths
  refine ⟨fun c _ => classFile_eq c, fun s _ => structFile_eq s, moduleFile_eq _ m,
    fun c hc line hline himport => ?_, fun s hstruct line hline himport => ?_,
    fun line hline himport => ?_, fun c hc name huse => ?_⟩
  · refine (hs.exports_of_mem_classLines hc hline himport).imp_right ?_
    rintro ⟨b, hexports, hby⟩
    exact ⟨b, hown.renders hexports, hby⟩
  · obtain ⟨b, hexports, hby⟩ := hs.exports_of_mem_structLines hstruct hline himport
    exact ⟨b, hown.renders hexports, hby⟩
  · obtain ⟨symbol, hsymbol, rfl⟩ := import_of_mem_moduleLines hline himport
    exact ⟨⟨m, symbol⟩, rfl, hown.renders ⟨hm, hsymbol⟩, rfl⟩
  · obtain ⟨m', hm', e, he, rfl, himport⟩ := hs.exists_enum_import hc huse
    exact ⟨m', e, he, rfl, hown.get?_scripts hm' (mem_moduleFiles_of_enum he), himport⟩

/-! ## A class with an enum -/

theorem moduleSymbols_mode :
    moduleSymbols (Prepared.of (modeSchema (.text "uint16")) modeConfig).context "engine" =
      [.text "EMode", .text "Actor"] := by
  have henums : (Prepared.of (modeSchema (.text "uint16")) modeConfig).context.enums =
      [("engine", [modeEnum])] := by
    refine Groups.of_eq_singleton (List.cons_ne_nil _ _) ?_ ?_
    · decide
    · decide
  have hclasses : (Context.build (modeSchema (.text "uint16")) modeConfig).classes =
      [("engine", (modeSchema (.text "uint16")).classes)] := by
    refine Groups.of_eq_singleton (List.cons_ne_nil _ _) ?_ ?_
    · decide
    · decide
  rw [moduleSymbols, henums]
  simp only [Prepared.of, Context.filtered, Context.unblocked, hclasses]
  rfl

theorem referable_modeSchema : (modeSchema (.text "uint16")).Referable modeConfig where
  packages := by decide
  names := by decide
  distinct := by decide
  enums p hp _ := by
    obtain rfl := List.mem_singleton.1 hp
    exact Option.isSome_of_eq_some (mode_enum? _)

/-- The first function of a class without properties is bound. -/
theorem ClassModule.exists_method (ctx : Context) {c : ClassInfo} {entries : List Entry}
    (hprops : c.props = []) (hne : entries ≠ []) :
    ∃ f ∈ (ClassModule.of ctx c entries).methods, ∃ e ∈ entries, f.plan = CallPlan.of ctx e := by
  obtain ⟨e, rest, rfl⟩ := List.exists_cons_of_ne_nil hne
  refine ⟨⟨e.methodName, CallPlan.of ctx e⟩, ?_, e, .head _, rfl⟩
  simp [ClassModule.of, hprops, collectAccessors, collectFrom, collectDelegates, bindMethods]

/-- The function of the class converts its parameter. -/
theorem usesEnum_mode :
    ∃ c ∈ classModules (Prepared.of (modeSchema (.text "uint16")) modeConfig) "engine",
      c.UsesEnum (.text "EMode") := by
  let p := Prepared.of (modeSchema (.text "uint16")) modeConfig
  obtain ⟨kept, hkept, hprops, hname⟩ : ∃ c ∈ p.context.classes.at "engine",
      c.props = [] ∧ c.name = .text "Actor" :=
    ⟨_, Schema.mem_classes_at.2 ⟨_, List.mem_singleton_self _, rfl⟩, rfl, rfl⟩
  obtain ⟨e, he, hslot⟩ := Schema.exists_slot (mode_mem_declarations (.text "uint16"))
    (by decide +kernel)
  have hentry : e ∈ p.table.filter fun e => e.module = "engine" && e.className = kept.name := by
    have hmodule : e.module = "engine" := congrArg (·.module) hslot
    have hclass : e.className = .text "Actor" := congrArg (·.className) hslot
    exact List.mem_filter.2 ⟨he, by simp [hmodule, hclass, hname]⟩
  obtain ⟨f, hf, e, he, hplan⟩ :=
    ClassModule.exists_method p.context hprops (List.ne_nil_of_mem hentry)
  obtain ⟨owner, howner, g, hg, -, hparams⟩ := Schema.exists_function (List.mem_of_mem_filter he)
  obtain rfl := List.mem_singleton.1 howner
  obtain rfl := List.mem_singleton.1 hg
  have hplans := CallPlan.of_params p.context e
  rw [hparams] at hplans
  obtain ⟨q, rest, hq, -, hqs⟩ := List.forall₂_cons_left_iff.1 hplans
  have hdisplay : q.mapping.display = .text "EMode" := by
    rw [hq.mapping]
    rfl
  refine ⟨_, List.mem_map_of_mem hkept, hdisplay ▸ .param hf ?_ ?_⟩
  · rw [hplan, hqs]
    exact .head _
  · rw [hq.mapping]
    rfl

/-- The files of a class and of the enum that its function takes. -/
theorem imports_closed_mode :
    let p := Prepared.of (modeSchema (.text "uint16")) modeConfig
    (modeSchema (.text "uint16")).Referable modeConfig ∧
    (p.definitions.Pairwise fun a b => ¬ SharesPath a b) ∧
    p.ClosedImports modeConfig "engine" ∧
    ∃ c ∈ classModules p "engine", c.UsesEnum (.text "EMode") := by
  intro p
  have hmodules : p.context.modules = ["engine"] := List.mergeSort_singleton _
  have hplain : PlainSymbols p := by
    constructor
    · rw [hmodules]
      decide
    · rw [hmodules]
      intro m hm
      obtain rfl := List.mem_singleton.1 hm
      exact ⟨["EMode", "Actor"], moduleSymbols_mode, by decide⟩
  have hpaths := hplain.not_sharesPath (nodup_modules _ _)
  exact ⟨referable_modeSchema, hpaths, imports_closed _ _ referable_modeSchema hpaths "engine"
    (hmodules ▸ List.mem_cons_self), usesEnum_mode⟩

/-! ## Opening files -/

/-- A file that no later one replaces is there. -/
theorem Files.get?_ofList {before after : List (String × String)} {path text : String}
    (h : path ∉ after.map (·.1)) :
    Assoc.get? path (ofList (before ++ (path, text) :: after)) = some text := by
  -- No file behind has the path, so what is there for it stays.
  have hkept (files : Files) (hfile : Assoc.get? path files = some text) :
      Assoc.get? path (after.foldl (fun acc f => Assoc.set f.1 f.2 acc) files) = some text := by
    induction after generalizing files with
    | nil => exact hfile
    | cons f rest ih =>
      rw [List.map_cons, List.mem_cons, not_or] at h
      exact ih h.2 _ ((Assoc.get?_set_of_ne h.1 _ _).trans hfile)
  rw [ofList, List.foldl_append]
  exact hkept _ (Assoc.get?_set_self _ _ _)

/-- The opening file of a module is made after those of its symbols. -/
theorem Prepared.get?_openingFile {p : Prepared} {m : String} (h : p.context.modules = [m])
    (config : Config) :
    Assoc.get? (entityPath m openingSymbol) (p.render config).scripts =
      some (moduleFile p.context m) := by
  have hmade : (p.render config).scripts = Files.ofList p.madeScripts := rfl
  have hpath : entityPath m openingSymbol = m ++ "/__init__.py" := by
    rw [entityPath, String.append_assoc, String.append_assoc]
    rfl
  rw [hpath, hmade, madeScripts, h, List.flatMap_singleton, moduleFiles, List.append_assoc]
  exact Files.get?_ofList (not_mem_rootFiles (by simp))

/-- Files are the same only up to the ends of their titles. -/
theorem exists_of_fileText_header_eq {title title' : String} {lines lines' : List String}
    (h : fileText (header title ++ lines) = fileText (header title' ++ lines')) :
    ∃ rest rest', title ++ rest = title' ++ rest' := by
  simp only [fileText, header, List.cons_append, String.intercalate_cons_cons,
    String.append_assoc, String.append_right_inj] at h
  exact ⟨_, _, h⟩

/-- The files of classes and modules have different titles. -/
theorem classFile_ne_moduleFile (c : ClassModule) (ctx : Context) (m : String) :
    classFile c ≠ moduleFile ctx m := by
  intro h
  rw [classFile_eq, moduleFile_eq] at h
  unfold classLines moduleLines at h
  simp only [List.append_assoc] at h
  obtain ⟨rest, rest', htitle⟩ := exists_of_fileText_header_eq h
  have hchars := congrArg String.toList htitle
  simp at hchars

/-- A class with the name that an opening file has. -/
def openingSchema : Schema where
  classes := [emptyClass "__init__" "UInit"]

/-- The context of the class. -/
def openingContext : Context :=
  { serverContext with
    classes := [("engine", openingSchema.classes)]
    classIndex := openingSchema.classes }

theorem build_opening : Context.build openingSchema serverConfig = openingContext :=
  Context.build_of_one_module rfl rfl (by decide) (by decide) (by decide)

/-- The files of the symbols are distinct, but the opening file of the module, which imports the
class, is in the place of its file. -/
theorem opening_file_replaces_class :
    let p := Prepared.of openingSchema serverConfig
    let line := "from .__init__ import __init__"
    openingSchema.Referable serverConfig ∧
    p.context.modules = ["engine"] ∧
    ((moduleSymbols p.context "engine").map (·.identifier)).Nodup ∧
    line ∈ moduleLines p.context "engine" ∧ isSiblingImport line = true ∧
    ¬ ∃ b : Binding, b.module = "engine" ∧ p.Renders serverConfig b ∧
      line = "from ." ++ b.file ++ " import " ++ b.symbol.spoken := by
  intro p line
  have hcontext : p.context = (openingContext.filtered serverConfig.blocklist).1 := by
    rw [show p = Prepared.of openingSchema serverConfig from rfl, Prepared.of, build_opening]
  have hmodules : p.context.modules = ["engine"] := by
    rw [hcontext]
    exact List.mergeSort_singleton _
  have hsymbols : moduleSymbols p.context "engine" = [openingSymbol] := by
    rw [hcontext]
    rfl
  have hline :
      line = "from ." ++ openingSymbol.identifier ++ " import " ++ openingSymbol.spoken := by
    decide
  have hreferable : openingSchema.Referable serverConfig :=
    ⟨by decide, by decide, by decide, List.forall_mem_nil _⟩
  refine ⟨hreferable, hmodules, ?_, ?_, by decide, ?_⟩
  · rw [hsymbols]
    decide
  · rw [hline, moduleLines, hsymbols]
    simp
  · -- Only a class file could be there, and the opening file is in its place.
    rintro ⟨b, hmodule, ⟨he, -⟩ | ⟨hs, -⟩ | ⟨hc, hfile⟩, -⟩
    · rw [hcontext] at he
      exact absurd he List.not_mem_nil
    · rw [structModules, hcontext] at hs
      exact absurd hs List.not_mem_nil
    · obtain rfl := hmodule
      obtain ⟨info, hinfo, rfl⟩ := List.mem_map.1 hc
      rw [hcontext] at hinfo
      obtain rfl := List.mem_singleton.1 hinfo
      have hopening := p.get?_openingFile hmodules serverConfig
      exact classFile_ne_moduleFile _ _ _ (Option.some.inj (hfile.symm.trans hopening))

end Bindery
