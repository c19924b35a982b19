import Bindery.Context
import Bindery.Filter
import Mathlib.Data.List.Induction
import Mathlib.Data.List.Nodup
import Mathlib.Data.List.Perm.Basic

/-!
# Classes of a context

Grouping by module and sorting by name move entities around; they lose none and copy none.

* `Groups.members`: the entities of all groups, each with its module.
* `Groups.members_of_perm`: grouping is a permutation.
* `Schema.enabledClasses`: the classes that a configuration enables and does not block, in the
  order of the schema.
* `Context.members_unblocked_perm`: those are the classes of the context.
-/

namespace Bindery

section Grouping

variable {α β : Type}

theorem nodup_eraseDups [BEq β] [LawfulBEq β] (ks : List β) : ks.eraseDups.Nodup := by
  induction ks using List.reverseRecOn with
  | nil => simp
  | append_singleton ks k ih =>
    rw [List.eraseDups_append]
    by_cases hk : k ∈ ks
    · simpa [List.removeAll, hk] using ih
    · have hone : [k].eraseDups = [k] := by simp [List.eraseDups_cons]
      have hnew : ∀ k' ∈ ks, k' ≠ k := fun k' hk' e => hk (e ▸ hk')
      simpa [List.removeAll, hk, hone, List.nodup_append] using ⟨ih, hnew⟩

/-- A list is cut into the parts that a key has each of its values on. -/
theorem flatMap_filter_perm [DecidableEq β] (key : α → β) (ks : List β) (hks : ks.Nodup)
    (xs : List α) (hxs : ∀ x ∈ xs, key x ∈ ks) :
    (ks.flatMap fun k => xs.filter fun x => key x = k).Perm xs := by
  induction ks generalizing xs with
  | nil => simp_all [List.eq_nil_iff_forall_not_mem]
  | cons k ks ih =>
    obtain ⟨hk, hks⟩ := List.nodup_cons.1 hks
    rw [List.flatMap_cons]
    have hrest := ih hks (xs.filter fun x => ! decide (key x = k)) fun x hx => by
      obtain ⟨hx, hne⟩ := List.mem_filter.1 hx
      exact (List.mem_cons.1 (hxs x hx)).resolve_left (by simpa using hne)
    have hparts : (ks.flatMap fun k' => xs.filter fun x => key x = k') =
        ks.flatMap fun k' => (xs.filter fun x => ! decide (key x = k)).filter fun x =>
          key x = k' := by
      refine List.flatMap_congr fun k' hk' => ?_
      rw [List.filter_filter]
      refine List.filter_congr fun x _ => ?_
      by_cases he : key x = k'
      · have : k' ≠ k := fun e => hk (e ▸ hk')
        simp [he, this]
      · simp [he]
    rw [hparts]
    exact (hrest.append_left _).trans (List.filter_append_perm _ xs)

/-- The entities of all groups, each with its module. -/
def Groups.members (groups : Groups α) : List (String × α) :=
  groups.flatMap fun g => g.2.map (g.1, ·)

theorem Groups.mem_members {groups : Groups α} {m : String} {a : α} :
    (m, a) ∈ groups.members ↔ ∃ g ∈ groups, g.1 = m ∧ a ∈ g.2 := by
  simp only [members, List.mem_flatMap, List.mem_map, Prod.mk.injEq]
  constructor
  · rintro ⟨g, hg, a', ha, rfl, rfl⟩
    exact ⟨g, hg, rfl, ha⟩
  · rintro ⟨g, hg, rfl, ha⟩
    exact ⟨g, hg, a, ha, rfl, rfl⟩

theorem Groups.nodup_modules (moduleOf : α → String) (name : α → Label) (entities : List α) :
    ((Groups.of moduleOf name entities).map (·.1)).Nodup := by
  rw [Groups.of, List.map_map]
  show (((entities.map moduleOf).eraseDups).map id).Nodup
  rw [List.map_id]
  exact nodup_eraseDups _

/-- Entities of one module stand in one group. -/
theorem Groups.exists_group {groups : Groups α} (hgroups : (groups.map (·.1)).Nodup)
    {a b : String × α} (ha : a ∈ groups.members) (hb : b ∈ groups.members) (h : a.1 = b.1) :
    ∃ g ∈ groups, a.2 ∈ g.2 ∧ b.2 ∈ g.2 := by
  obtain ⟨g, hg, hga, ha⟩ := Groups.mem_members.1 ha
  obtain ⟨g', hg', hgb, hb⟩ := Groups.mem_members.1 hb
  obtain rfl : g = g' := List.inj_on_of_nodup_map hgroups hg hg' (hga.trans (h.trans hgb.symm))
  exact ⟨g, hg, ha, hb⟩

/-- The entities of a module are those of its group. -/
theorem Groups.mem_at {groups : Groups α} (hgroups : (groups.map (·.1)).Nodup) {m : String}
    {a : α} : a ∈ groups.at m ↔ (m, a) ∈ groups.members := by
  rw [Groups.mem_members, Groups.at]
  induction groups with
  | nil => simp [Assoc.get?]
  | cons g rest ih =>
    obtain ⟨hg, hrest⟩ := List.nodup_cons.1 hgroups
    rw [Assoc.get?, List.exists_mem_cons_iff]
    by_cases hm : g.1 = m
    · -- No other group is that of the module.
      have hother : ¬ ∃ g' ∈ rest, g'.1 = m ∧ a ∈ g'.2 := by
        rintro ⟨g', hg', hm', -⟩
        exact hg (List.mem_map.2 ⟨g', hg', hm'.trans hm.symm⟩)
      simp [hm, hother]
    · simp [hm, ih hrest]

theorem Groups.members_of_perm (moduleOf : α → String) (name : α → Label) (entities : List α) :
    (Groups.of moduleOf name entities).members.Perm (entities.map fun a => (moduleOf a, a)) := by
  have hsorted : (Groups.of moduleOf name entities).members.Perm
      ((entities.map moduleOf).eraseDups.flatMap fun m =>
        (entities.filter fun a => moduleOf a = m).map fun a => (moduleOf a, a)) := by
    rw [Groups.of, members, List.flatMap_map]
    refine List.Perm.flatMap_left _ fun m _ => ?_
    have hmodule : ((entities.filter fun a => moduleOf a = m).map (m, ·)) =
        (entities.filter fun a => moduleOf a = m).map fun a => (moduleOf a, a) := by
      refine List.map_congr_left fun a ha => ?_
      rw [of_decide_eq_true (List.mem_filter.1 ha).2]
    rw [← hmodule]
    exact (List.mergeSort_perm _ _).map _
  refine hsorted.trans ?_
  rw [← List.map_flatMap]
  refine (flatMap_filter_perm moduleOf _ (nodup_eraseDups _) entities fun a ha => ?_).map _
  exact List.mem_eraseDups.2 (List.mem_map_of_mem ha)

/-- Entities of one module that are in order of their names already. -/
theorem Groups.of_eq_singleton {moduleOf : α → String} {name : α → Label} {entities : List α}
    {m : String} (hne : entities ≠ []) (hmodule : ∀ e ∈ entities, moduleOf e = m)
    (hsorted : entities.Pairwise fun a b => (name a).le (name b) = true) :
    Groups.of moduleOf name entities = [(m, entities)] := by
  obtain ⟨e, rest, rfl⟩ := List.exists_cons_of_ne_nil hne
  have hmodules : ((e :: rest).map moduleOf).eraseDups = [m] := by
    have hrest : (rest.map moduleOf).filter (fun m' => !m' == m) = [] :=
      List.filter_eq_nil_iff.2 fun m' hm' => by
        obtain ⟨e', he', rfl⟩ := List.mem_map.1 hm'
        simp [hmodule e' (.tail _ he')]
    rw [List.map_cons, List.eraseDups_cons, hmodule e (.head _), hrest, List.eraseDups_nil]
  have hall : (e :: rest).filter (fun e => moduleOf e = m) = e :: rest :=
    List.filter_eq_self.2 fun e he => decide_eq_true (hmodule e he)
  rw [Groups.of, hmodules, List.map_singleton, hall, Label.sortOn,
    List.mergeSort_of_pairwise hsorted]

/-- Entities that are in order of their names already within each module. -/
theorem Groups.of_eq_of_sorted {moduleOf : α → String} {name : α → Label} (entities : List α)
    (hsorted : ∀ m ∈ (entities.map moduleOf).eraseDups,
      (entities.filter fun e => moduleOf e = m).Pairwise fun a b => (name a).le (name b) = true) :
    Groups.of moduleOf name entities =
      (entities.map moduleOf).eraseDups.map fun m =>
        (m, entities.filter fun e => moduleOf e = m) :=
  List.map_congr_left fun m hm => by rw [Label.sortOn, List.mergeSort_of_pairwise (hsorted m hm)]

/-- Entities paired with the value of a partial key, cut down by a condition before or after. -/
theorem filter_map_of_isSome (key? : α → Option String) (keep : α → Bool) (xs : List α) :
    ((xs.filter fun a => (key? a).isSome).map fun a => ((key? a).getD "", a)).filter
        (fun p => keep p.2) =
      (xs.filter keep).filterMap fun a => (key? a).map (·, a) := by
  induction xs with
  | nil => rfl
  | cons a rest ih => cases hk : key? a <;> cases h : keep a <;> simp [hk, h, ih]

end Grouping

/-- The packages of all entities. -/
abbrev Schema.packages (schema : Schema) : List Label :=
  schema.classes.map (·.package) ++ schema.structs.map (·.package) ++ schema.enums.map (·.package)

/-- The classes of the enabled modules that are not blocked, each with its module. -/
def Schema.enabledClasses (schema : Schema) (config : Config) : List (String × ClassInfo) :=
  (schema.classes.filter fun c => !c.name.isOneOf config.blocklist.classes).filterMap fun c =>
    (Context.enabledModule? (Context.packagesOf schema config) (Context.enabledModules config)
      c.package).map (·, c)

theorem Schema.mem_enabledClasses {schema : Schema} {config : Config} {m : String}
    {c : ClassInfo} :
    (m, c) ∈ schema.enabledClasses config ↔
      c ∈ schema.classes ∧ c.name.isOneOf config.blocklist.classes = false ∧
        Context.enabledModule? (Context.packagesOf schema config)
          (Context.enabledModules config) c.package = some m := by
  simp [enabledClasses, and_assoc]

namespace Context

variable (schema : Schema) (config : Config)

theorem members_unblocked (ctx : Context) (blocklist : Blocklist) :
    (ctx.unblocked blocklist).classes.members =
      ctx.classes.members.filter fun c => !c.2.name.isOneOf blocklist.classes := by
  simp only [unblocked, Groups.members, List.flatMap_map, List.filter_flatMap, List.filter_map]
  rfl

/-- The classes of a context are those that are enabled and not blocked. -/
theorem members_unblocked_perm :
    ((build schema config).unblocked config.blocklist).classes.members.Perm
      (schema.enabledClasses config) := by
  rw [members_unblocked]
  refine ((Groups.members_of_perm _ _ _).filter _).trans (.of_eq ?_)
  exact filter_map_of_isSome
    (fun c : ClassInfo =>
      enabledModule? (packagesOf schema config) (enabledModules config) c.package)
    (fun c => !c.name.isOneOf config.blocklist.classes) schema.classes

/-- Filtering changes each class on its own. -/
theorem members_filtered (ctx : Context) (blocklist : Blocklist) :
    (ctx.filtered blocklist).1.classes.members =
      (ctx.unblocked blocklist).classes.members.map fun c =>
        (c.1, (filterClass (ctx.unblocked blocklist) blocklist c.2).1) := by
  simp only [filtered, Groups.members, List.flatMap_map, List.map_flatMap, List.map_map,
    Function.comp_def]

/-- The context of classes of one module that are in order of their names already. -/
theorem build_of_one_module {schema : Schema} {config : Config} {m : String}
    (hstructs : schema.structs = []) (henums : schema.enums = []) (hne : schema.classes ≠ [])
    (hmodule : ∀ c ∈ schema.classes,
      enabledModule? (packagesOf schema config) (enabledModules config) c.package = some m)
    (hsorted : schema.classes.Pairwise fun a b => a.name.le b.name = true) :
    build schema config =
      { packages := packagesOf schema config, features := mappedFeatures config
        enabled := enabledModules config, classes := [(m, schema.classes)]
        classIndex := schema.classes } := by
  have henabled : (schema.classes.filter fun c => (enabledModule? (packagesOf schema config)
      (enabledModules config) c.package).isSome) = schema.classes :=
    List.filter_eq_self.2 fun c hc => by rw [hmodule c hc]; rfl
  simp only [build, henabled, hstructs, henums]
  rw [Groups.of_eq_singleton hne (fun c hc => by rw [hmodule c hc]) hsorted]
  rfl

theorem classesInOrder_of_singleton {ctx : Context} {g : String × List ClassInfo}
    (h : ctx.classes = [g]) : ctx.classesInOrder = ctx.classes.members := by
  rw [classesInOrder, h, sortOn, List.mergeSort_singleton]
  rfl

theorem classesInOrder_perm (ctx : Context) : ctx.classesInOrder.Perm ctx.classes.members :=
  (List.mergeSort_perm _ _).flatMap_right _

end Context
end Bindery
