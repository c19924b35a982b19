import Bindery.Proofs.Association
import Bindery.Proofs.Preparation
import Bindery.Proofs.Reorder.Files

/-!
# Contexts of reordered schemas

A schema with its entities in another order, under a configuration with its features, mappings and
blocklist in another order, has a context that differs in the order of its groups and indices only.

* `Schema.Reordered`, `Config.Reordered`: the inputs.
* `Context.Reordered`: contexts with the same groups and indices in another order; filtering keeps
  them so (`Context.Reordered.filtered`).
* `Context.Reordered.agrees`, `classesInOrder`, `modules` and `Groups.Reordered.at_eq`: what does
  not see the order.
* `Schema.Reordered.build`: the contexts of reordered inputs.
-/

namespace Bindery

/-! ## Associations in another order -/

namespace Assoc

variable {κ α : Type} [DecidableEq κ]

private theorem get?_eq_find? (key : κ) (entries : Assoc κ α) :
    get? key entries = (entries.find? fun e => e.1 == key).map (·.2) := by
  simpa using get?_map (fun e : κ × α => e.1) (fun e => e.2) key entries

/-- Looking up a key, in tables that hold no key twice. -/
theorem get?_perm {entries entries' : Assoc κ α} (hperm : entries.Perm entries')
    (hkeys : (entries.map (·.1)).Nodup) (key : κ) : get? key entries = get? key entries' := by
  rw [get?_eq_find?, get?_eq_find?, find?_perm hperm]
  -- Two entries that answer for the key are one, since no key is there twice.
  intro a ha b hb hakey hbkey
  exact List.inj_on_of_nodup_map hkeys ha hb ((beq_iff_eq.1 hakey).trans (beq_iff_eq.1 hbkey).symm)

theorem get?_of_mem {entries : Assoc κ α} (hkeys : (entries.map (·.1)).Nodup) {e : κ × α}
    (he : e ∈ entries) : get? e.1 entries = some e.2 := by
  rw [get?_eq_find?]
  obtain ⟨e', he'⟩ : ∃ e', entries.find? (fun x => x.1 == e.1) = some e' :=
    Option.isSome_iff_exists.1 (List.find?_isSome.2 ⟨e, he, beq_self_eq_true _⟩)
  have hkey : e'.1 = e.1 := by simpa using List.find?_some he'
  rw [he', List.inj_on_of_nodup_map hkeys (List.mem_of_find?_eq_some he') he hkey]
  rfl

/-- Entries that are set one after the other under different keys. -/
theorem foldl_set {ι : Type} (k : ι → κ) (v : ι → α) (items : List ι) (entries : Assoc κ α)
    (hkeys : (entries.map (·.1) ++ items.map k).Nodup) :
    items.foldl (fun acc i => set (k i) (v i) acc) entries =
      entries ++ items.map fun i => (k i, v i) := by
  induction items generalizing entries with
  | nil => simp
  | cons i rest ih =>
    have hnew : k i ∉ entries.map (·.1) := fun hi =>
      List.disjoint_of_nodup_append hkeys hi (by simp)
    rw [List.foldl_cons, set_of_not_mem hnew, ih]
    · simp
    · simpa using hkeys

end Assoc

/-! ## Groups -/

/-- The same groups in another order, one for each module. -/
structure Groups.Reordered {α : Type} (groups groups' : Groups α) : Prop where
  perm : groups.Perm groups'
  modules : (groups.map (·.1)).Nodup

namespace Groups.Reordered

variable {α : Type} {groups groups' : Groups α} (h : groups.Reordered groups')

include h

/-- The entities of a module are the same, in the same order. -/
theorem at_eq (m : String) : groups.at m = groups'.at m := by
  rw [Groups.at, Groups.at, Assoc.get?_perm h.perm h.modules]

theorem map (f : List α → List α) :
    Groups.Reordered (groups.map fun g => (g.1, f g.2)) (groups'.map fun g => (g.1, f g.2)) where
  perm := h.perm.map _
  modules := by simpa [List.map_map, Function.comp_def] using h.modules

end Groups.Reordered

/-! ## Contexts -/

namespace Context

/-- Contexts that differ in the order of their groups and indices only. -/
structure Reordered (ctx ctx' : Context) : Prop where
  packages : ∀ p, Assoc.get? p ctx.packages = Assoc.get? p ctx'.packages
  enabled : ctx.enabled.Perm ctx'.enabled
  classes : ctx.classes.Reordered ctx'.classes
  structs : ctx.structs.Reordered ctx'.structs
  enums : ctx.enums.Reordered ctx'.enums
  classIndex : Bindery.Reordered (·.name) ctx.classIndex ctx'.classIndex
  structIndex : Bindery.Reordered (·.name) ctx.structIndex ctx'.structIndex
  enumIndex : Bindery.Reordered (·.name) ctx.enumIndex ctx'.enumIndex

namespace Reordered

variable {ctx ctx' : Context} (h : ctx.Reordered ctx')

include h

/-- What only looks names up cannot tell reordered contexts apart. -/
theorem agrees : ctx.Agrees ctx' where
  class? name := congrArg (Option.map _) (h.classIndex.find?_reverse name)
  struct? := funext h.structIndex.find?_reverse
  enum? := funext h.enumIndex.find?_reverse
  moduleForPackage? := by
    funext package
    simp only [moduleForPackage?, h.packages]

theorem modules : ctx.modules = ctx'.modules := sortTexts_perm h.enabled

/-- Classes are gone through module by module, in the order of the modules' names. -/
theorem classesInOrder : ctx.classesInOrder = ctx'.classesInOrder := by
  have hgroups : sortOn (·.1) ctx.classes = sortOn (·.1) ctx'.classes :=
    sortOn_perm h.classes.perm fun _ ha _ hb => List.inj_on_of_nodup_map h.classes.modules ha hb
  rw [Context.classesInOrder, Context.classesInOrder, hgroups]

variable {b b' : Blocklist} (hb : b.Reordered b')

include hb

/-- Blocking leaves reordered contexts reordered. -/
theorem unblocked : (ctx.unblocked b).Reordered (ctx'.unblocked b') := by
  have hkeep (c : ClassInfo) : c.name.isOneOf b.classes = c.name.isOneOf b'.classes :=
    Label.isOneOf_perm hb.classes c.name
  refine ⟨h.packages, h.enabled, ?_, h.structs, h.enums, ?_, h.structIndex, h.enumIndex⟩
  · simp only [Context.unblocked, hkeep]
    exact h.classes.map _
  · simp only [Context.unblocked, hkeep]
    exact h.classIndex.filter _

/-- So does filtering, class by class. -/
theorem filtered : (ctx.filtered b).1.Reordered (ctx'.filtered b').1 := by
  have hu := h.unblocked hb
  have hclass : filterClass (ctx.unblocked b) b = filterClass (ctx'.unblocked b') b' := by
    rw [hu.agrees.filterClass, hb.filterClass]
  refine ⟨hu.packages, hu.enabled, ?_, hu.structs, hu.enums, hu.classIndex, hu.structIndex,
    hu.enumIndex⟩
  simp only [Context.filtered, List.map_map, Function.comp_def, hclass]
  exact hu.classes.map _

end Reordered
end Context

/-! ## Inputs -/

/-- The same entities in another order; the names of each sort tell them apart. -/
structure Schema.Reordered (s t : Schema) : Prop where
  classes : Bindery.Reordered (·.name) s.classes t.classes
  structs : Bindery.Reordered (·.name) s.structs t.structs
  enums : Bindery.Reordered (·.name) s.enums t.enums

/-- The same configuration, its features, mappings and blocklist in another order. Every package is
mapped once, as the packages are the keys of a table. -/
structure Config.Reordered (c d : Config) : Prop where
  features : c.features.Perm d.features
  modules : c.modules.Perm d.modules
  packages : (c.modules.map (·.package)).Nodup
  blocklist : c.blocklist.Reordered d.blocklist
  paths : c.paths = d.paths
  strict : c.strict = d.strict

theorem Schema.Reordered.symm {s t : Schema} (h : s.Reordered t) : t.Reordered s :=
  ⟨h.classes.symm, h.structs.symm, h.enums.symm⟩

/-- The packages of all entities, the same ones as often. -/
theorem Schema.Reordered.packages {s t : Schema} (h : s.Reordered t) : s.packages.Perm t.packages :=
  ((h.classes.perm.map _).append (h.structs.perm.map _)).append (h.enums.perm.map _)

namespace Config.Reordered

variable {c d : Config} (h : c.Reordered d)

include h

theorem symm : d.Reordered c where
  features := h.features.symm
  modules := h.modules.symm
  packages := (h.modules.map _).nodup_iff.1 h.packages
  blocklist := h.blocklist.symm
  paths := h.paths.symm
  strict := h.strict.symm

/-- The mappings whose feature is enabled. -/
theorem enabledMappings :
    (c.modules.filter (·.isEnabled c.features)).Perm
      (d.modules.filter (·.isEnabled d.features)) := by
  have henabled : ModuleMapping.isEnabled c.features = ModuleMapping.isEnabled d.features := by
    have hcontains : c.features.contains = d.features.contains :=
      funext fun _ => h.features.contains_eq
    funext m
    simp only [ModuleMapping.isEnabled, hcontains]
  rw [henabled]
  exact h.modules.filter _

theorem enabledModules : (Context.enabledModules c).Perm (Context.enabledModules d) :=
  eraseDups_perm (h.enabledMappings.filterMap _)

theorem hostPackages : c.hostPackages = d.hostPackages :=
  sortTexts_perm (eraseDups_perm ((h.enabledMappings.map _).cons _))

end Config.Reordered

/-! ## Building -/

namespace Context

variable {s t : Schema} {c d : Config}

theorem mappedPackages_eq (hpackages : (c.modules.map (·.package)).Nodup) :
    mappedPackages c = c.modules.map fun m => (m.package, m.module) := by
  rw [mappedPackages, Assoc.foldl_set (·.package) (·.module) c.modules [] (by simpa)]
  rfl

/-- A package that is added answers where none answered before. -/
private theorem get?_addPackages_singleton (packages : List (String × Label)) (q key : String) :
    Assoc.get? key (addPackages packages [.text q]) =
      (Assoc.get? key packages).or
        (if key = q then some (.text (Label.identifier (.text q))) else none) := by
  show Assoc.get? key (if (Assoc.get? q packages).isSome then packages else _) = _
  by_cases hq : (Assoc.get? q packages).isSome
  · rw [if_pos hq]
    by_cases hkey : key = q
    · obtain ⟨m, hm⟩ := Option.isSome_iff_exists.1 hq
      rw [hkey, hm, Option.some_or]
    · rw [if_neg hkey, Option.or_none]
  · rw [if_neg hq, Assoc.get?_append]
    congr 1
    show (if q == key then _ else none) = _
    simp only [beq_iff_eq, @eq_comm _ q key]

/-- The module of a package with those that entities add. Where their packages are texts, it does
not matter which entity came first. -/
theorem get?_addPackages (packages : List (String × Label)) {ps : List Label}
    (htexts : ps.all Label.isText = true) (key : String) :
    Assoc.get? key (addPackages packages ps) =
      (Assoc.get? key packages).or
        (if .text key ∈ ps then some (.text (Label.identifier (.text key))) else none) := by
  induction ps generalizing packages with
  | nil => simp [addPackages]
  | cons p rest ih =>
    rw [List.all_cons, Bool.and_eq_true] at htexts
    obtain ⟨q, rfl⟩ : ∃ q, p = .text q := by
      cases p <;> cases htexts.1
      exact ⟨_, rfl⟩
    -- Three places answer for `key`, one after the other: the mapped packages, `q`, and the rest.
    have hrest := ih (addPackages packages [.text q]) htexts.2
    rw [get?_addPackages_singleton, Option.or_assoc] at hrest
    refine hrest.trans (congrArg _ ?_)
    by_cases hkey : key = q <;> simp [hkey]

variable (hs : s.Reordered t) (hc : c.Reordered d)

include hs hc

/-- The packages answer alike, since what is added goes by names that are texts. -/
private theorem get?_packagesOf (htexts : s.packages.all Label.isText = true) (key : String) :
    Assoc.get? key (packagesOf s c) = Assoc.get? key (packagesOf t d) := by
  have hperm := hs.packages
  have hmapped : Assoc.get? key (mappedPackages c) = Assoc.get? key (mappedPackages d) := by
    rw [mappedPackages_eq hc.packages, mappedPackages_eq hc.symm.packages]
    refine Assoc.get?_perm (hc.modules.map _) ?_ key
    simpa [List.map_map, Function.comp_def] using hc.packages
  rw [packagesOf, packagesOf, get?_addPackages _ htexts, get?_addPackages _, hmapped]
  · simp only [hperm.mem_iff]
  · rwa [hperm.all_eq] at htexts

private theorem enabledModule?_congr (htexts : s.packages.all Label.isText = true) :
    enabledModule? (packagesOf s c) (enabledModules c) =
      enabledModule? (packagesOf t d) (enabledModules d) := by
  have hcontains : (enabledModules c).contains = (enabledModules d).contains :=
    funext fun _ => hc.enabledModules.contains_eq
  funext package
  simp only [enabledModule?, get?_packagesOf hs hc htexts, hcontains]

end Context

namespace Check

/-- Entities that passed the check, grouped in another order. -/
theorem reordered_of_groups {α : Type} {name : α → Label} {moduleOf : α → String} {xs ys : List α}
    (hperm : Reordered name xs ys) (h : Check.groups name (Groups.of moduleOf name xs) = .ok ()) :
    (Groups.of moduleOf name xs).Reordered (Groups.of moduleOf name ys) where
  perm := hperm.groups moduleOf (comparable_of_groups h)
  modules := Groups.nodup_modules moduleOf name xs

/-- Groups are checked one by one, so their order does not count. -/
theorem groups_perm {α : Type} {name : α → Label} {groups groups' : Groups α}
    (hperm : groups.Perm groups') (h : Check.groups name groups = .ok ()) :
    Check.groups name groups' = .ok () :=
  forM_eq_ok_iff.2 fun g hg => forM_eq_ok_iff.1 h g (hperm.mem_iff.2 hg)

theorem texts_perm {ls ls' : List Label} (hperm : ls.Perm ls') : texts ls = texts ls' := by
  rw [texts, texts, hperm.all_eq]

end Check

variable {s t : Schema} {c d : Config} (hs : s.Reordered t) (hc : c.Reordered d)

include hs hc

/-- Reordered inputs have reordered contexts. -/
theorem Schema.Reordered.build (hcheck : Check.build s c = .ok ()) :
    (Context.build s c).Reordered (Context.build t d) := by
  obtain ⟨-, htexts, hclasses, hstructs, henums, -⟩ := Check.build_eq_ok_iff.1 hcheck
  have htexts := Check.require_eq_ok_iff.1 htexts
  have hmodule := Context.enabledModule?_congr hs hc htexts
  constructor
  case packages => exact Context.get?_packagesOf hs hc htexts
  case enabled => exact hc.enabledModules
  case classes =>
    simp only [Context.build, ← hmodule]
    exact Check.reordered_of_groups (hs.classes.filter _) hclasses
  case structs =>
    simp only [Context.build, ← hmodule]
    exact Check.reordered_of_groups (hs.structs.filter _) hstructs
  case enums =>
    simp only [Context.build, ← hmodule]
    exact Check.reordered_of_groups (hs.enums.filter _) henums
  case classIndex =>
    simp only [Context.build, ← hmodule]
    exact hs.classes.filter _
  case structIndex =>
    simp only [Context.build, ← hmodule]
    exact hs.structs.filter _
  case enumIndex =>
    simp only [Context.build, ← hmodule]
    exact hs.enums.filter _

end Bindery
