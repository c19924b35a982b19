import Bindery.Proofs.FuncTable.Positions
import Bindery.Proofs.Reorder.Contexts

/-!
# Output of reordered schemas

The function table and the files do not depend on the order of a schema's entities, nor on that of
the features, mappings and blocklist of a configuration.

* `Check.build_reordered`, `filter_reordered`, `table_reordered`: the stages up to the table have
  the same outcome.
* `Context.Reordered.funcTable`: the tables of reordered contexts.
* `Prepared.Reordered.render`: the files made from reordered contexts with one table.
* `output_reordered`: all of it, from the inputs on.
-/

namespace Bindery

/-! ## Up to the table -/

namespace Check

variable {ctx ctx' : Context} (h : ctx.Reordered ctx')

include h

/-- What passes the filter does so after the reordering. -/
private theorem filter_reordered {b b' : Blocklist} (hb : b.Reordered b')
    (hcheck : filter ctx b = .ok ()) : filter ctx' b' = .ok () := by
  have hu := h.unblocked hb
  rw [filter, forM_eq_ok_iff] at hcheck ⊢
  intro g hg
  rw [← members_congr hu.agrees, ← members_blocklist_congr hb]
  exact hcheck g (hu.classes.perm.mem_iff.2 hg)

/-- The classes of the table are checked in an order of their own. -/
private theorem table_reordered : table ctx = table ctx' := by
  rw [table, table, h.classesInOrder, tableFunction_congr h.agrees]

end Check

section Inputs

variable {s t : Schema} {c d : Config} (hs : s.Reordered t) (hc : c.Reordered d)

include hs hc

/-- Reordered inputs pass too. That the groups of both contexts are the same rests on the first
check, which found that the names of every module can be put in order. -/
private theorem Check.build_reordered (hcheck : Check.build s c = .ok ()) :
    Check.build t d = .ok () := by
  have h := hs.build hc hcheck
  rw [Check.build_eq_ok_iff] at hcheck ⊢
  obtain ⟨hmappings, htexts, hclasses, hstructs, henums, henabled⟩ := hcheck
  refine ⟨?_, ?_, Check.groups_perm h.classes.perm hclasses,
    Check.groups_perm h.structs.perm hstructs, Check.groups_perm h.enums.perm henums, ?_⟩
  · rw [Check.forM_eq_ok_iff] at hmappings ⊢
    exact fun m hm => hmappings m (hc.modules.mem_iff.2 hm)
  · rwa [← Check.texts_perm hs.packages]
  · rwa [← Check.texts_perm (hc.enabledMappings.map _)]

/-- One of the inputs can be prepared if the other one can. -/
private theorem Check.prepare_reordered (hcheck : Check.prepare s c = .ok ()) :
    Check.prepare t d = .ok () := by
  simp only [Check.prepare, Check.bind_eq_ok_iff] at hcheck ⊢
  obtain ⟨hbuild, hfilter, htable⟩ := hcheck
  have h := hs.build hc hbuild
  refine ⟨Check.build_reordered hs hc hbuild, Check.filter_reordered h hc.blocklist hfilter, ?_⟩
  rwa [← Check.table_reordered (h.filtered hc.blocklist)]

end Inputs

/-- Slots are numbered in an order that the context does not decide. -/
theorem Context.Reordered.funcTable {ctx ctx' : Context} (h : ctx.Reordered ctx') :
    ctx.funcTable = ctx'.funcTable := by
  rw [Context.funcTable, Context.funcTable, h.classesInOrder, h.agrees.classEntries]

/-! ## Files -/

private theorem Render.sourceFiles_within (ctx : Context) (plans : List CallPlan) :
    sourceFiles (plans.map (·.within ctx)) = sourceFiles plans := by
  have hentries : (plans.map (·.within ctx)).map (·.entry) = plans.map (·.entry) := by
    rw [List.map_map]
    rfl
  have hfile (q : Entry → Bool) :
      sourceFile ((plans.map (·.within ctx)).filter fun p => q p.entry) =
        sourceFile (plans.filter fun p => q p.entry) := by
    rw [List.filter_map, sourceFile_within]
    rfl
  simp only [sourceFiles, hentries]
  refine List.map_congr_left fun c _ => ?_
  rw [hfile fun e => e.module = c.1 && e.className = c.2]

/-- Prepared contexts that are reordered and have one table. -/
structure Prepared.Reordered (p p' : Prepared) : Prop where
  context : p.context.Reordered p'.context
  table : p.table = p'.table

/-- What the inputs are prepared to is reordered as well, and has one table. -/
theorem Schema.Reordered.prepared {s t : Schema} {c d : Config} (hs : s.Reordered t)
    (hc : c.Reordered d) (hcheck : Check.build s c = .ok ()) :
    (Prepared.of s c).Reordered (Prepared.of t d) := by
  have h := (hs.build hc hcheck).filtered hc.blocklist
  exact ⟨h, h.funcTable⟩

namespace Prepared.Reordered

open Render

variable {p p' : Prepared} (h : p.Reordered p')

include h

theorem moduleFile : moduleFile p.context = moduleFile p'.context := by
  funext module
  simp only [Render.moduleFile, moduleSymbols, h.context.classes.at_eq, h.context.structs.at_eq,
    h.context.enums.at_eq]

/-- All files of a module. -/
theorem moduleFiles : moduleFiles p = moduleFiles p' := by
  funext module
  have hclass := h.context.agrees.classFile
  have hstruct := h.context.agrees.structFile
  simp only [Render.moduleFiles, structModules, classModules, List.map_map, Function.comp_def,
    h.moduleFile, h.context.classes.at_eq, h.context.structs.at_eq, h.context.enums.at_eq, h.table,
    hclass, hstruct]
  rfl

/-- The plans of the table, each with the context it was made in. -/
theorem plans : p'.plans = p.plans.map (·.within p'.context) := by
  simp only [Prepared.plans, List.map_map, Function.comp_def, h.table, h.context.agrees.callPlan]

/-- All files on both sides. -/
theorem render {c d : Config} (hc : c.Reordered d) : p.render c = p'.render d := by
  simp only [Prepared.render, h.plans, h.context.modules, h.moduleFiles, h.table, hc.hostPackages,
    importsFile_within, closuresFile_within, fillFile_within, sourceFiles_within]

/-- Rendering fails for the one just if it fails for the other, with the same fault. -/
theorem check : Check.render p = Check.render p' := by
  have hplans : Check.plans p = Check.plans p' := by
    rw [Check.plans, Check.plans, h.table, Check.plan_congr h.context.agrees]
  have hmodule : Check.moduleFiles p = Check.moduleFiles p' := by
    funext module
    simp only [Check.moduleFiles, h.table, h.context.classes.at_eq, h.context.structs.at_eq,
      h.context.enums.at_eq, Check.structFile_congr h.context.agrees,
      Check.classFile_congr h.context.agrees]
  have hheaders : Check.headers p = Check.headers p' := by
    funext owner
    simp only [Check.headers, h.table]
  simp only [Check.render, hplans, hmodule, hheaders, h.context.modules, h.table]

end Prepared.Reordered

/-! ## From the inputs on -/

/-- One of the inputs can be generated from if the other one can. -/
private theorem Check.generate_reordered {s t : Schema} {c d : Config} (hs : s.Reordered t)
    (hc : c.Reordered d) (hcheck : Check.generate s c = .ok ()) :
    Check.generate t d = .ok () := by
  rw [Check.generate, Check.bind_eq_ok_iff] at hcheck ⊢
  refine ⟨Check.prepare_reordered hs hc hcheck.1, ?_⟩
  rw [Check.prepare, Check.bind_eq_ok_iff] at hcheck
  rw [← (hs.prepared hc hcheck.1.1).check]
  exact hcheck.2

/-- Schemas with the same entities in any order, whose names tell entities of a sort apart, and
configurations with the same features, mappings and blocklist in any order: one can be prepared, or
generated, if the other can, and then the function tables are equal and so are all files on both
sides. -/
theorem output_reordered (s t : Schema) (c d : Config) (hs : s.Reordered t) (hc : c.Reordered d) :
    (Check.prepare s c = .ok () ↔ Check.prepare t d = .ok ()) ∧
    (Check.generate s c = .ok () ↔ Check.generate t d = .ok ()) ∧
    (Check.prepare s c = .ok () →
      (Prepared.of s c).table = (Prepared.of t d).table ∧
      (Prepared.of s c).render c = (Prepared.of t d).render d) := by
  refine ⟨⟨Check.prepare_reordered hs hc, Check.prepare_reordered hs.symm hc.symm⟩,
    ⟨Check.generate_reordered hs hc, Check.generate_reordered hs.symm hc.symm⟩, fun hcheck => ?_⟩
  rw [Check.prepare, Check.bind_eq_ok_iff] at hcheck
  have hprepared := hs.prepared hc hcheck.1
  exact ⟨hprepared.table, hprepared.render hc⟩

/-! ## Two modules -/

/-- Two modules, and classes that are blocked. -/
def blockingConfig : Config :=
  { features := ["core", "extra"]
    modules := [⟨"Engine", .text "engine", .text "core"⟩, ⟨"Game", .text "game", .text "extra"⟩]
    blocklist := { classes := ["Vehicle", "Widget"] } }

/-- The configuration with every list reversed. -/
def reversedConfig : Config :=
  { features := blockingConfig.features.reverse, modules := blockingConfig.modules.reverse
    blocklist := { classes := blockingConfig.blocklist.classes.reverse } }

/-- The two classes reversed. -/
def reversedSchema : Schema := { classes := overloadedSchema.classes.reverse }

private theorem reordered_reversedSchema : overloadedSchema.Reordered reversedSchema where
  classes := ⟨(List.reverse_perm _).symm, by decide⟩
  structs := ⟨.nil, .nil⟩
  enums := ⟨.nil, .nil⟩

private theorem reordered_reversedConfig : blockingConfig.Reordered reversedConfig where
  features := (List.reverse_perm _).symm
  modules := (List.reverse_perm _).symm
  packages := by decide
  blocklist := ⟨(List.reverse_perm _).symm, .nil, .nil⟩
  paths := rfl
  strict := rfl

/-- The context of the two classes with the second module. -/
def blockingContext : Context :=
  { overloadedContext with
    packages := [("Engine", .text "engine"), ("Game", .text "game")]
    features := [(.text "engine", .text "core"), (.text "game", .text "extra")]
    enabled := ["engine", "game"] }

private theorem build_blockingConfig :
    Context.build overloadedSchema blockingConfig = blockingContext :=
  Context.build_of_one_module rfl rfl (by decide) (by decide) (by decide)

private theorem prepare_blockingConfig :
    Check.prepare overloadedSchema blockingConfig = .ok () := by
  have horder : (blockingContext.filtered blockingConfig.blocklist).1.classesInOrder =
      (blockingContext.filtered blockingConfig.blocklist).1.classes.members :=
    Context.classesInOrder_of_singleton rfl
  rw [Check.prepare, Check.build, build_blockingConfig]
  dsimp only
  rw [Check.table, horder]
  rfl

/-- The schema and the configuration have every list reversed. -/
theorem output_reordered_reversed :
    overloadedSchema.Reordered reversedSchema ∧ blockingConfig.Reordered reversedConfig ∧
    Check.prepare reversedSchema reversedConfig = .ok () ∧
    (Prepared.of overloadedSchema blockingConfig).table =
      (Prepared.of reversedSchema reversedConfig).table ∧
    (Prepared.of overloadedSchema blockingConfig).render blockingConfig =
      (Prepared.of reversedSchema reversedConfig).render reversedConfig := by
  obtain ⟨hprepare, -, houtput⟩ :=
    output_reordered _ _ _ _ reordered_reversedSchema reordered_reversedConfig
  exact ⟨reordered_reversedSchema, reordered_reversedConfig, hprepare.1 prepare_blockingConfig,
    houtput prepare_blockingConfig⟩

end Bindery
