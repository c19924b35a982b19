import Bindery.Proofs.FuncTable.Wrappers
import Bindery.Proofs.References

/-!
# Host packages of the table

A class is bound if its module is enabled, and a package is in the manifest if a mapping of its own
is. Several packages can share a module, and a package without a mapping is in the module that is
named after it. So the table can hold classes of packages that the manifest omits, and the wrappers
include their headers.

* `Config.Needs`, `Config.mem_hostPackages`: the packages in the manifest.
* `Config.Places`: how a package comes to be in a module.
* `Render.includedHeaders`, `Render.sourceLines`: the headers that a file of wrappers includes, and
  the lines in which it does.
* `Schema.GatedTogether`: mapped packages, with those of a module enabled together.
* `packages_of_table`: the packages of the table, and when the manifest has them.
* `omitted_package`: a package whose class is in the table and that the manifest omits.
-/

namespace Bindery

/-! ## The manifest -/

namespace Config

/-- Whether a mapping of the package is enabled. -/
def Needs (config : Config) (package : String) : Prop :=
  ∃ m ∈ config.modules, m.package = package ∧ m.isEnabled config.features = true

/-- Whether a mapping to the module is enabled. -/
def Opens (config : Config) (module : String) : Prop :=
  ∃ m ∈ config.modules, m.module.text? = some module ∧ m.isEnabled config.features = true

/-- How a package comes to be in a module: it is mapped to it, or the module is named after it. -/
inductive Places (config : Config) (package module : String) : Prop where
  | mapped (m : ModuleMapping) : m ∈ config.modules → m.package = package →
      m.module.text? = some module → Places config package module
  | named (l : Label) : (∀ m ∈ config.modules, m.package ≠ package) → l.spoken = package →
      l.identifier = module → Places config package module

theorem mem_hostPackages {config : Config} {package : String} :
    package ∈ config.hostPackages ↔ package = "Core" ∨ config.Needs package := by
  simp only [hostPackages, sortTexts, sortOn, List.mem_mergeSort, List.mem_eraseDups,
    List.mem_cons, List.mem_map, List.mem_filter, Needs, and_assoc]
  exact or_congr_right (exists_congr fun m => and_congr_right fun _ => and_comm)

end Config

namespace Context

/-- The mapping that counts for a package, if there is one. -/
theorem get?_mappedPackages (config : Config) (package : String) :
    (Assoc.get? package (mappedPackages config) = none ∧
      ∀ m ∈ config.modules, m.package ≠ package) ∨
    ∃ m ∈ config.modules, m.package = package ∧
      Assoc.get? package (mappedPackages config) = some m.module := by
  rw [mappedPackages]
  induction config.modules using List.reverseRecOn with
  | nil => exact .inl ⟨rfl, fun _ h => absurd h List.not_mem_nil⟩
  | append_singleton ms last ih =>
    rw [List.foldl_append, List.foldl_cons, List.foldl_nil]
    by_cases hlast : last.package = package
    · exact .inr ⟨last, by simp, hlast, by rw [hlast, Assoc.get?_set_self]⟩
    rw [Assoc.get?_set_of_ne (Ne.symm hlast)]
    rcases ih with ⟨hnone, hne⟩ | ⟨m, hm, hpackage, hsome⟩
    · refine .inl ⟨hnone, fun m hm => ?_⟩
      rcases List.mem_append.1 hm with hm | hm
      · exact hne m hm
      · exact List.mem_singleton.1 hm ▸ hlast
    · exact .inr ⟨m, List.mem_append_left _ hm, hpackage, hsome⟩

/-- A package is mapped already, or it is one of those that are added. -/
theorem get?_addPackages_cases {key : String} {l : Label} (ps : List Label) :
    ∀ {packages : List (String × Label)}, Assoc.get? key (addPackages packages ps) = some l →
      Assoc.get? key packages = some l ∨
      Assoc.get? key packages = none ∧ ∃ p : Label, p.spoken = key ∧ l = .text p.identifier := by
  induction ps with
  | nil => exact fun h => .inl h
  | cons p ps ih =>
    intro packages h
    rw [addPackages, List.foldl_cons] at h
    rcases ih h with h | ⟨hnone, hadded⟩
    · split at h
      · exact .inl h
      rw [Assoc.get?_append] at h
      cases hkey : Assoc.get? key packages with
      | some l' => exact .inl (by rw [hkey] at h; exact h)
      | none =>
        rw [hkey, Option.none_or, Assoc.get?, Assoc.get?] at h
        split at h
        · next hspoken => exact .inr ⟨rfl, p, eq_of_beq hspoken, (Option.some.inj h).symm⟩
        · cases h
    · split at hnone
      · exact .inr ⟨hnone, hadded⟩
      · rw [Assoc.get?_append, Option.or_eq_none_iff] at hnone
        exact .inr ⟨hnone.1, hadded⟩

variable {schema : Schema} {config : Config} {module : String}

/-- The packages of an enabled module are placed there, and some mapping opens it. -/
theorem places_of_enabledModule? {package : Label}
    (h : enabledModule? (packagesOf schema config) (enabledModules config) package = some module) :
    config.Places package.spoken module ∧ config.Opens module := by
  obtain ⟨hmodule, henabled⟩ := Option.filter_eq_some_iff.1 h
  obtain ⟨l, hl, hmodule⟩ := Option.bind_eq_some_iff.1 hmodule
  constructor
  · rcases get?_mappedPackages config package.spoken with
      ⟨hnone, hunmapped⟩ | ⟨m, hm, hpackage, hsome⟩
    · rcases get?_addPackages_cases _ hl with hl | ⟨-, p, hp, rfl⟩
      · rw [hnone] at hl
        cases hl
      · exact .named p hunmapped hp (Option.some.inj hmodule)
    · rcases get?_addPackages_cases _ hl with hl | ⟨hnone, -⟩
      · obtain rfl := Option.some.inj (hsome.symm.trans hl)
        exact .mapped m hm hpackage hmodule
      · rw [hsome] at hnone
        cases hnone
  · have henabled := List.mem_eraseDups.1 (List.contains_iff_mem.1 henabled)
    obtain ⟨m, hm, hmodule⟩ := List.mem_filterMap.1 henabled
    obtain ⟨hm, henabled⟩ := List.mem_filter.1 hm
    exact ⟨m, hm, hmodule, henabled⟩

end Context

/-! ## Headers -/

namespace Render

open Script

/-- The headers that the file with the wrappers of some plans includes. -/
def includedHeaders (plans : List CallPlan) : List Label :=
  Label.sortOn id (Label.distinct (plans.filterMap (·.entry.header.given?)))

/-- The lines of the file with the wrappers of some plans. -/
def sourceLines (plans : List CallPlan) : List String :=
  sourceHeader
  ++ ["#include \"UikaFuncIds.h\"", "#include \"UikaParamBlock.h\""]
  ++ (includedHeaders plans).map (fun h => "#include \"" ++ h.spoken ++ "\"")
  ++ ["", "extern \"C\" \x7b", ""]
  ++ plans.flatMap wrapperDefinition
  ++ ["\x7d // extern \"C\"", ""]

theorem sourceFile_eq (plans : List CallPlan) : sourceFile plans = fileText (sourceLines plans) :=
  rfl

/-- What is included is the header of one of the plans. -/
theorem exists_of_mem_includedHeaders {plans : List CallPlan} {h : Label}
    (hmem : h ∈ includedHeaders plans) : ∃ p ∈ plans, p.entry.header = h := by
  have hgiven := Label.mem_of_mem_distinct (List.mem_mergeSort.1 hmem)
  obtain ⟨p, hp, hheader⟩ := List.mem_filterMap.1 hgiven
  refine ⟨p, hp, ?_⟩
  unfold Label.given? at hheader
  split at hheader
  · cases hheader
  · exact Option.some.inj hheader

/-- A header that is a text is included. -/
theorem mem_includedHeaders_of_text {plans : List CallPlan} {p : CallPlan} {s : String}
    (hp : p ∈ plans) (hheader : p.entry.header.given? = some (.text s)) :
    .text s ∈ includedHeaders plans := by
  have hgiven : .text s ∈ plans.filterMap (·.entry.header.given?) :=
    List.mem_filterMap.2 ⟨p, hp, hheader⟩
  obtain ⟨l, hl, hsame⟩ := Label.exists_mem_distinct hgiven
  obtain rfl := (Label.same_iff_eq rfl).1 hsame
  exact List.mem_mergeSort.2 hl

end Render

/-! ## The table -/

open Render

/-- All classes are of mapped packages, and the mappings to a module are enabled together. -/
structure Schema.GatedTogether (schema : Schema) (config : Config) : Prop where
  mapped : ∀ c ∈ schema.classes, ∃ m ∈ config.modules, m.package = c.package.spoken
  together : ∀ a ∈ config.modules, ∀ b ∈ config.modules, ∀ module,
    a.module.text? = some module → b.module.text? = some module →
      a.isEnabled config.features = b.isEnabled config.features

namespace Schema

variable {schema : Schema} {config : Config} {d : Declaration}

theorem places_of_declaration (hd : d ∈ schema.declarations config) :
    d.owner ∈ schema.classes ∧ config.Places d.owner.package.spoken d.module ∧
      config.Opens d.module := by
  obtain ⟨c, hc, hd⟩ := List.mem_flatMap.1 hd
  obtain ⟨hclass, -, hmodule⟩ := mem_enabledClasses.1 hc
  unfold classDeclarations at hd
  split at hd
  · cases hd
  obtain ⟨f, -, rfl⟩ := List.mem_map.1 hd
  exact ⟨hclass, Context.places_of_enabledModule? hmodule⟩

/-- The mapping that opens the module is enabled, and so is the one of the package. -/
theorem GatedTogether.listed (h : schema.GatedTogether config)
    (hd : d ∈ schema.declarations config) : d.owner.package.spoken ∈ config.hostPackages := by
  obtain ⟨hclass, hplaces, other, hother, hmodule', henabled⟩ := places_of_declaration hd
  refine Config.mem_hostPackages.2 (.inr ?_)
  cases hplaces with
  | mapped m hm hpackage hmodule =>
    exact ⟨m, hm, hpackage, (h.together m hm other hother _ hmodule hmodule').trans henabled⟩
  | named _ hunmapped =>
    obtain ⟨m, hm, hpackage⟩ := h.mapped _ hclass
    exact absurd hpackage (hunmapped m hm)

end Schema

/-- The class of a slot is placed in an enabled module by a mapping of its package or by its name,
and its package is in the manifest exactly if it is `Core` or some mapping of the package itself is
enabled. The headers that a file of wrappers includes are those of the slots of its class. If all
packages are mapped, and those of a module are enabled together, the manifest has every package
whose header is included. -/
theorem packages_of_table (schema : Schema) (config : Config) :
    let p := Prepared.of schema config
    (∀ e ∈ p.table, ∃ d ∈ schema.declarations config, e.asDeclared = d.slot ∧
      config.Opens e.module ∧ config.Places d.owner.package.spoken e.module ∧
      (d.owner.package.spoken ∈ config.hostPackages ↔
        d.owner.package.spoken = "Core" ∨ config.Needs d.owner.package.spoken)) ∧
    (∀ f ∈ sourceFiles p.plans, ∃ c ∈ tableClasses p.table,
      f.2 = sourceFile (classPlans p.plans c) ∧
      f.2 = Script.fileText (sourceLines (classPlans p.plans c)) ∧
      ∀ h ∈ includedHeaders (classPlans p.plans c), ∃ e ∈ p.table,
        (e.module, e.className) = c ∧ e.header = h) ∧
    (schema.GatedTogether config → ∀ e ∈ p.table, ∀ d ∈ schema.declarations config,
      e.asDeclared = d.slot → d.owner.package.spoken ∈ config.hostPackages) := by
  intro p
  refine ⟨fun e he => ?_, fun f hf => ?_, fun hgated e _ d hd _ => hgated.listed hd⟩
  · obtain ⟨d, hd, -, hslot⟩ := Schema.exists_declaration he
    have hmodule : e.module = d.module := congrArg Entry.module hslot
    obtain ⟨-, hplaces, hopens⟩ := Schema.places_of_declaration hd
    exact ⟨d, hd, hslot, hmodule ▸ hopens, hmodule ▸ hplaces, Config.mem_hostPackages⟩
  · rw [sourceFiles, entries_plans] at hf
    obtain ⟨c, hc, rfl⟩ := List.mem_map.1 hf
    refine ⟨c, hc, rfl, sourceFile_eq _, fun h hh => ?_⟩
    obtain ⟨plan, hplan, hheader⟩ := exists_of_mem_includedHeaders hh
    obtain ⟨hplan, hclass⟩ := List.mem_filter.1 hplan
    refine ⟨plan.entry, entries_plans p ▸ List.mem_map_of_mem hplan, ?_, hheader⟩
    simpa [Prod.ext_iff] using hclass

/-! ## Two packages in one module -/

/-- A class in a package that shares the module of another one. -/
def extrasSchema : Schema where
  classes := [{
    name := .text "Actor", cppName := .text "AActor", package := .text "EngineExtras"
    header := .text "Extras/Actor.h"
    funcs := [{ name := .text "Tick", flags := 1024 }] }]

/-- Both packages are mapped to one module, each under a feature of its own. -/
def extrasConfig (features : List String) : Config where
  features := features
  modules := [⟨"Engine", .text "engine", .text "core"⟩,
    ⟨"EngineExtras", .text "engine", .text "extras"⟩]

/-- The only function of the class. -/
def extrasTick : Declaration where
  module := "engine"
  owner := extrasSchema.classes.head (by decide)
  func := { name := .text "Tick", flags := 1024 }

/-- With both features the manifest has the package, whose mapping is enabled. -/
theorem packages_of_table_extras :
    let config := extrasConfig ["core", "extras"]
    extrasSchema.GatedTogether config ∧
    ∃ e ∈ (Prepared.of extrasSchema config).table, e.header = .text "Extras/Actor.h" ∧
      "EngineExtras" ∈ config.hostPackages := by
  intro config
  have hgated : extrasSchema.GatedTogether config := ⟨by decide, by decide⟩
  have hd : extrasTick ∈ extrasSchema.declarations config := by
    rw [show extrasSchema.declarations config = [extrasTick] by rfl]
    exact List.mem_singleton_self _
  obtain ⟨e, he, hslot⟩ := Schema.exists_slot hd (by decide +kernel)
  obtain ⟨-, -, hlisted⟩ := packages_of_table extrasSchema config
  exact ⟨hgated, e, he, congrArg Entry.header hslot, hlisted hgated e he extrasTick hd hslot⟩

/-- With the feature of the other package alone the class is in the table as well, and the file of
its wrappers includes its header, but the manifest omits its package. -/
theorem omitted_package :
    let config := extrasConfig ["core"]
    let p := Prepared.of extrasSchema config
    ∃ e ∈ p.table, (∀ d ∈ extrasSchema.declarations config, e.asDeclared = d.slot →
        d.owner.package = .text "EngineExtras") ∧
      .text "Extras/Actor.h" ∈ includedHeaders (classPlans p.plans (e.module, e.className)) ∧
      "EngineExtras" ∉ config.hostPackages := by
  intro config p
  have hdeclarations : extrasSchema.declarations config = [extrasTick] := by rfl
  have hd : extrasTick ∈ extrasSchema.declarations config := by
    rw [hdeclarations]
    exact List.mem_singleton_self _
  obtain ⟨e, he, hslot⟩ := Schema.exists_slot hd (by decide +kernel)
  refine ⟨e, he, fun d hd _ => ?_, ?_, ?_⟩
  · rw [hdeclarations] at hd
    rw [List.mem_singleton.1 hd]
    rfl
  · rw [← entries_plans p] at he
    obtain ⟨plan, hplan, rfl⟩ := List.mem_map.1 he
    have hclass : plan ∈ classPlans p.plans (plan.entry.module, plan.entry.className) :=
      List.mem_filter.2 ⟨hplan, by simp⟩
    have hheader : plan.entry.header = .text "Extras/Actor.h" := congrArg Entry.header hslot
    exact mem_includedHeaders_of_text hclass (by rw [hheader]; rfl)
  · rw [Config.mem_hostPackages]
    rintro (hcore | ⟨m, hm, hpackage, henabled⟩)
    · exact absurd hcore (by decide)
    · exact absurd henabled ((by decide : ∀ m ∈ config.modules, m.package = "EngineExtras" →
        m.isEnabled config.features ≠ true) m hm hpackage)

end Bindery
