import Bindery.Output
import Bindery.Proofs.Reorder.Contexts
import Bindery.Proofs.Text.Words
import Bindery.Proofs.Verification

/-!
# Wrappers of a verified table

The constants of a table are verified to be distinct. The names of the C++ wrappers and of their
files are joined with single underscores, the former without the module, and are not verified.

* `Entry.SharesWrapper`, `SharesSource`: slots and classes whose names are confused.
* `PlainClasses`: class names that confuse nothing.
* `classPlans_perm`, `sources_render`: every wrapper is in the file of its class.
* `wrappers_of_verified`: what the verification leaves open about wrappers and their files.
* `verified_wrappers_collide`: a verified table with both kinds of confusion.
-/

namespace Bindery

/-! ## Shared names -/

open Render

/-- Two slots whose wrappers have one name: those of the same function of classes of the same name
in two modules, or those whose classes and functions overlap. -/
inductive Entry.SharesWrapper (a b : Entry) : Prop where
  | modules : a.module ≠ b.module → a.className = b.className → a.funcName = b.funcName →
      SharesWrapper a b
  | shorter : Overlap a.className.spoken a.funcName.spoken b.className.spoken b.funcName.spoken →
      SharesWrapper a b
  | longer : Overlap b.className.spoken b.funcName.spoken a.className.spoken a.funcName.spoken →
      SharesWrapper a b

/-- Two classes whose files have one name: their modules and names overlap. -/
def SharesSource (a b : String × Label) : Prop :=
  Overlap a.1 a.2.spoken b.1 b.2.spoken ∨ Overlap b.1 b.2.spoken a.1 a.2.spoken

/-- Of slots with different constants, the wrappers have one name just when the slots share it. -/
theorem Entry.wrapperName_eq_iff {a b : Entry} (hne : a.constant ≠ b.constant)
    (ha : a.className.isText = true ∧ a.funcName.isText = true)
    (hb : b.className.isText = true ∧ b.funcName.isText = true) :
    wrapperName a = wrapperName b ↔ a.SharesWrapper b := by
  -- The constant also has the module in it, so slots that agree in all else differ there.
  have hsame : a.className = b.className → a.funcName = b.funcName → a.module ≠ b.module := by
    intro hclass hfunc hmodule
    exact hne (by simp only [constant, snakeName, hclass, hfunc, hmodule])
  simp only [wrapperName, String.append_assoc, String.append_right_inj]
  rw [← String.append_assoc, ← String.append_assoc, join_eq_join_iff]
  constructor
  · rintro (⟨hclass, hfunc⟩ | h | h)
    · have hclass := Label.eq_of_spoken ha.1 hb.1 hclass
      have hfunc := Label.eq_of_spoken ha.2 hb.2 hfunc
      exact .modules (hsame hclass hfunc) hclass hfunc
    · exact .shorter h
    · exact .longer h
  · rintro (⟨-, hclass, hfunc⟩ | h | h)
    · exact .inl ⟨congrArg _ hclass, congrArg _ hfunc⟩
    · exact .inr (.inl h)
    · exact .inr (.inr h)

/-- Different classes have one file just when they share it. -/
theorem sourceName_eq_iff {a b : String × Label} (hne : a ≠ b) (ha : a.2.isText = true)
    (hb : b.2.isText = true) : sourceName a.1 a.2 = sourceName b.1 b.2 ↔ SharesSource a b := by
  simp only [sourceName, String.append_assoc, String.append_right_inj]
  rw [← String.append_assoc, ← String.append_assoc, ← String.append_assoc, ← String.append_assoc,
    String.append_left_inj, join_eq_join_iff, SharesSource]
  refine or_iff_right ?_
  rintro ⟨hmodule, hclass⟩
  exact hne (Prod.ext hmodule (Label.eq_of_spoken ha hb hclass))

/-- Class names without underscores, of which no two modules have one in common. -/
structure PlainClasses (table : List Entry) : Prop where
  plain : ∀ e ∈ table, '_' ∉ e.className.spoken.toList
  owned : ∀ a ∈ table, ∀ b ∈ table, a.className = b.className → a.module = b.module

theorem mem_tableClasses {table : List Entry} {c : String × Label} :
    c ∈ tableClasses table ↔ ∃ e ∈ table, (e.module, e.className) = c := by
  rw [tableClasses, List.mem_eraseDups, List.mem_map]

namespace PlainClasses

variable {table : List Entry}

/-- The longer class name would have an underscore. -/
theorem not_sharesWrapper (h : PlainClasses table) {a b : Entry} (ha : a ∈ table) (hb : b ∈ table) :
    ¬ a.SharesWrapper b := by
  rintro (⟨hmodule, hclass, -⟩ | hoverlap | hoverlap)
  · exact hmodule (h.owned a ha b hb hclass)
  · exact h.plain b hb hoverlap.mem_longer
  · exact h.plain a ha hoverlap.mem_longer

/-- The class of the shorter module would have an underscore. -/
theorem not_sharesSource (h : PlainClasses table) {a b : String × Label}
    (ha : a ∈ tableClasses table) (hb : b ∈ tableClasses table) : ¬ SharesSource a b := by
  obtain ⟨e, he, rfl⟩ := mem_tableClasses.1 ha
  obtain ⟨e', he', rfl⟩ := mem_tableClasses.1 hb
  rintro (hoverlap | hoverlap)
  · exact h.plain e he hoverlap.mem_second
  · exact h.plain e' he' hoverlap.mem_second

/-- The order of a table does not matter. -/
theorem of_slots {schema : Schema} {config : Config} (h : PlainClasses (schema.slots config)) :
    PlainClasses (Prepared.of schema config).table where
  plain e he := h.plain e.unnumbered (Schema.unnumbered_mem_slots he)
  owned a ha b hb :=
    h.owned a.unnumbered (Schema.unnumbered_mem_slots ha) b.unnumbered
      (Schema.unnumbered_mem_slots hb)

end PlainClasses

/-! ## Files -/

/-- The plans of the functions of a class. -/
def classPlans (plans : List CallPlan) (c : String × Label) : List CallPlan :=
  plans.filter fun p => p.entry.module = c.1 && p.entry.className = c.2

/-- The C++ files that do not belong to a class. -/
def commonSources (p : Prepared) (config : Config) : Files :=
  [("UikaFuncIds.h", idsHeader p.table), ("UikaFillFuncTable.cpp", fillFile p.plans),
    ("module_deps.txt", "\n".intercalate config.hostPackages)]

theorem entries_plans (p : Prepared) : p.plans.map (·.entry) = p.table := by
  rw [Prepared.plans, List.map_map]
  exact List.map_id _

/-- Every plan is one of those of its class. -/
theorem classPlans_perm (plans : List CallPlan) :
    ((tableClasses (plans.map (·.entry))).flatMap (classPlans plans)).Perm plans := by
  let key := fun p : CallPlan => (p.entry.module, p.entry.className)
  have hclasses : tableClasses (plans.map (·.entry)) = (plans.map key).eraseDups := by
    rw [tableClasses, List.map_map]
    rfl
  have hplans : classPlans plans = fun c => plans.filter fun p => key p = c := by
    funext c
    exact List.filter_congr fun p _ => by simp [key, Prod.ext_iff]
  rw [hclasses, hplans]
  exact flatMap_filter_perm key _ (nodup_eraseDups _) plans fun p hp =>
    List.mem_eraseDups.2 (List.mem_map_of_mem hp)

theorem sourceName_ne_common {m : String} {c : Label} {name : String}
    (hname : name ∈ ["UikaFuncIds.h", "UikaFillFuncTable.cpp", "module_deps.txt"]) :
    sourceName m c ≠ name := by
  have hother : ∀ name ∈ ["UikaFuncIds.h", "UikaFillFuncTable.cpp", "module_deps.txt"],
      "UikaFunc_".toList.isPrefixOf name.toList = false := by
    decide
  rintro rfl
  simpa [sourceName] using hother _ hname

/-- Files of different names replace nothing. -/
theorem Files.ofList_eq {files : List (String × String)} (h : (files.map (·.1)).Nodup) :
    Files.ofList files = files := by
  rw [ofList, Assoc.foldl_set (·.1) (·.2) files [] (by simpa using h)]
  simp

/-- The files of classes whose names are distinct are all written. -/
theorem sources_render {p : Prepared} {config : Config}
    (h : ((tableClasses p.table).map fun c => sourceName c.1 c.2).Nodup) :
    (p.render config).sources =
      ((tableClasses p.table).map fun c =>
        (sourceName c.1 c.2, sourceFile (classPlans p.plans c))) ++ commonSources p config := by
  have hfiles : sourceFiles p.plans = (tableClasses p.table).map fun c =>
      (sourceName c.1 c.2, sourceFile (classPlans p.plans c)) := by
    rw [sourceFiles, entries_plans]
    rfl
  change Files.ofList (sourceFiles p.plans ++ commonSources p config) = _
  rw [hfiles, Files.ofList_eq]
  rw [List.map_append, List.map_map, List.nodup_append]
  refine ⟨h, by simp [commonSources], ?_⟩
  rintro _ hclass name hcommon rfl
  obtain ⟨c, -, hc⟩ := List.mem_map.1 hclass
  exact sourceName_ne_common hcommon hc

/-! ## Verified tables -/

/-- A verified table, whose constants are distinct, confuses the wrappers of two slots only if both
are the same function of classes of one name, or if their names overlap, and the files of two
classes only if their names overlap. If no files are confused, each class has its own with the
wrappers of all of its functions. Class names without underscores, of which no two modules have one
in common, confuse nothing. -/
theorem wrappers_of_verified {schema : Schema} {config : Config} {dir : Directory}
    {scripts sources : FilePath} (hprepare : Check.prepare schema config = .ok ())
    (hconstants : Check.constants (Prepared.of schema config).table = .ok ())
    (hverify : verify dir (Prepared.of schema config).table
      (tableIds (Prepared.of schema config).table) (Prepared.of schema config).context.modules
      scripts sources = []) :
    let p := Prepared.of schema config
    (p.table.Pairwise fun a b => wrapperName a = wrapperName b ↔ a.SharesWrapper b) ∧
    ((tableClasses p.table).Pairwise fun a b =>
      sourceName a.1 a.2 = sourceName b.1 b.2 ↔ SharesSource a b) ∧
    (((tableClasses p.table).Pairwise fun a b => ¬ SharesSource a b) →
      (p.render config).sources =
        ((tableClasses p.table).map fun c =>
          (sourceName c.1 c.2, sourceFile (classPlans p.plans c))) ++ commonSources p config ∧
      ((tableClasses p.table).flatMap (classPlans p.plans)).Perm p.plans) ∧
    (PlainClasses p.table →
      (p.table.Pairwise fun a b => ¬ a.SharesWrapper b) ∧
      (tableClasses p.table).Pairwise fun a b => ¬ SharesSource a b) := by
  intro p
  have htexts : ∀ e ∈ p.table, e.className.isText = true ∧ e.funcName.isText = true := fun e he =>
    Schema.texts_of_mem_table hprepare hconstants he
  have hclass : ∀ c ∈ tableClasses p.table, c.2.isText = true := fun c hc => by
    obtain ⟨e, he, rfl⟩ := mem_tableClasses.1 hc
    exact (htexts e he).1
  have hsources : (tableClasses p.table).Pairwise fun a b =>
      sourceName a.1 a.2 = sourceName b.1 b.2 ↔ SharesSource a b :=
    (nodup_eraseDups _).imp_of_mem fun ha hb hne =>
      sourceName_eq_iff hne (hclass _ ha) (hclass _ hb)
  have hplans : ((tableClasses p.table).flatMap (classPlans p.plans)).Perm p.plans :=
    entries_plans p ▸ classPlans_perm p.plans
  refine ⟨?_, hsources, fun hshares => ⟨?_, hplans⟩, fun hplain => ⟨?_, ?_⟩⟩
  · have hdistinct := List.pairwise_map.1 (verify_eq_nil_iff.1 hverify).1
    exact hdistinct.imp_of_mem fun ha hb hne =>
      Entry.wrapperName_eq_iff hne (htexts _ ha) (htexts _ hb)
  · refine sources_render (List.pairwise_map.2 ?_)
    exact hsources.imp₂ (fun _ _ hiff hno heq => hno (hiff.1 heq)) hshares
  · exact List.pairwise_of_forall_mem_list fun a ha b hb => hplain.not_sharesWrapper ha hb
  · exact List.pairwise_of_forall_mem_list fun a ha b hb => hplain.not_sharesSource ha hb

/-- The classes with an overloaded function have plain names, and their wrappers names of their
own. -/
theorem wrappers_of_verified_overloaded :
    let p := Prepared.of overloadedSchema overloadedConfig
    Check.prepare overloadedSchema overloadedConfig = .ok () ∧ Check.constants p.table = .ok () ∧
    verify (fun _ => some 1) p.table (tableIds p.table) p.context.modules (.parse "py")
      (.parse "cpp") = [] ∧
    (p.table.map wrapperName).Nodup := by
  intro p
  have hspelled : Check.constants (overloadedSchema.slots overloadedConfig) = .ok () := by
    decide +kernel
  have hdistinct : ((overloadedSchema.slots overloadedConfig).map Entry.constant).Nodup := by
    decide +kernel
  obtain ⟨hconstants, hverify⟩ := Schema.verified_of_slots hspelled hdistinct
  have hplain : PlainClasses p.table :=
    .of_slots ⟨by decide +kernel, by decide +kernel⟩
  obtain ⟨hwrappers, -, -, hnone⟩ := wrappers_of_verified prepare_overloaded hconstants
    (hverify p.context.modules (.parse "py") (.parse "cpp"))
  refine ⟨prepare_overloaded, hconstants, hverify _ _ _, List.pairwise_map.2 ?_⟩
  exact hwrappers.imp₂ (fun _ _ hiff hno heq => hno (hiff.1 heq)) (hnone hplain).1

/-! ## Two user interfaces -/

/-- A class with a function to be shown. -/
def panelClass (package name cppName : String) : ClassInfo where
  name := .text name
  cppName := .text cppName
  package := .text package
  funcs := [{ name := .text "Show", flags := 1024 }]

/-- A class that two modules have, and one whose name is that of a module in part. -/
def panelSchema : Schema where
  classes := [panelClass "Ui" "Panel" "UPanel", panelClass "Ui" "kit_Panel" "UKitPanel",
    panelClass "UiKit" "Panel" "UPanel"]

def panelConfig : Config where
  features := ["core"]
  modules := [⟨"Ui", .text "ui", .text "core"⟩, ⟨"UiKit", .text "ui_kit", .text "core"⟩]

/-- The context of the three classes. -/
def panelContext : Context where
  packages := [("Ui", .text "ui"), ("UiKit", .text "ui_kit")]
  features := [(.text "ui", .text "core"), (.text "ui_kit", .text "core")]
  enabled := ["ui", "ui_kit"]
  classes := [("ui", panelSchema.classes.take 2), ("ui_kit", panelSchema.classes.drop 2)]
  classIndex := panelSchema.classes

theorem build_panel : Context.build panelSchema panelConfig = panelContext := by
  have henabled : (panelSchema.classes.filter fun c =>
      (Context.enabledModule? (Context.packagesOf panelSchema panelConfig)
        (Context.enabledModules panelConfig) c.package).isSome) = panelSchema.classes := by rfl
  simp only [Context.build, henabled]
  rw [Groups.of_eq_of_sorted panelSchema.classes (by decide)]
  rfl

theorem prepare_panel : Check.prepare panelSchema panelConfig = .ok () := by
  have horder : (panelContext.filtered panelConfig.blocklist).1.classesInOrder =
      (panelContext.filtered panelConfig.blocklist).1.classes.members := by
    rw [Context.classesInOrder, sortOn, List.mergeSort_of_pairwise (by decide)]
    rfl
  rw [Check.prepare, Check.build, build_panel]
  dsimp only
  rw [Check.table, horder]
  rfl

/-- The table is verified, but two of its wrappers share a name, and two classes a file. -/
theorem verified_wrappers_collide :
    let p := Prepared.of panelSchema panelConfig
    Check.prepare panelSchema panelConfig = .ok () ∧ Check.constants p.table = .ok () ∧
    verify (fun _ => some 1) p.table (tableIds p.table) p.context.modules (.parse "py")
      (.parse "cpp") = [] ∧
    ¬ (p.table.map wrapperName).Nodup ∧
    ¬ ((tableClasses p.table).map fun c => sourceName c.1 c.2).Nodup := by
  intro p
  have hspelled : Check.constants (panelSchema.slots panelConfig) = .ok () := by decide +kernel
  have hdistinct : ((panelSchema.slots panelConfig).map Entry.constant).Nodup := by decide +kernel
  obtain ⟨hconstants, hverify⟩ := Schema.verified_of_slots hspelled hdistinct
  have hwrappers : ¬ ((panelSchema.slots panelConfig).map wrapperName).Nodup := by decide +kernel
  refine ⟨prepare_panel, hconstants, hverify _ _ _, fun hnodup => ?_, fun hnodup => ?_⟩
  · exact hwrappers ((Schema.map_table_perm fun _ => rfl).nodup_iff.1 hnodup)
  · have hclasses : ((panelSchema.slots panelConfig).map fun e => (e.module, e.className)) =
        [("ui", .text "Panel"), ("ui", .text "kit_Panel"), ("ui_kit", .text "Panel")] := by rfl
    have hmem : ∀ c ∈ [("ui", Document.text "Panel"), ("ui", .text "kit_Panel"),
        ("ui_kit", .text "Panel")], c ∈ tableClasses p.table := fun c hc => by
      rw [mem_tableClasses, ← List.mem_map]
      exact (Schema.map_table_perm fun _ => rfl).mem_iff.2 (hclasses ▸ hc)
    have hsame := List.inj_on_of_nodup_map hnodup (hmem ("ui", .text "kit_Panel") (by decide))
      (hmem ("ui_kit", .text "Panel") (by decide)) (by decide)
    exact absurd hsame (by decide)

end Bindery
