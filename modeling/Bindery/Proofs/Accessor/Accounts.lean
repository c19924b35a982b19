import Bindery.Generator
import Bindery.Output
import Bindery.Proofs.Accessor.Members
import Bindery.Proofs.FuncTable.Positions

/-!
# What becomes of the properties of a class

The filter leaves some properties of a class out, each with a record. Those that it keeps come to
the collection of accessors and to that of delegates. All but two kinds of them get an accessor or
a delegate there, or leave a record.

* `PropertyFate`, `PropertyFate.Settled`: what a property ends in.
* `Property.Overlooked`: how a property can end in nothing.
* `ClassModule.exists_fates`: the properties that come to the file of a class.
* `Generator.StrictRun`: a strict run that succeeds.
* `properties_accounted`: all properties of the enabled classes.
* `properties_left_out_silently`: a class of which two properties end in nothing.
-/

namespace Bindery

open Render

/-- The accessor and the delegate of a property, and the reasons of the records that it left. -/
structure PropertyFate where
  prop : Property
  accessor? : Option Accessor := none
  delegate? : Option Delegate := none
  reasons : List String := []

/-- How a property can be left out without a record: it is a fixed array of containers, or another
accessor of its class has the name that its own would have. -/
inductive Property.Overlooked (ctx : Context) (accessors : List Accessor) (p : Property) :
    Prop where
  | fixedArray : p.mapping.conversion.isContainer = true → 1 < p.arrayDim →
      Overlooked ctx accessors p
  | clashed {name : String} {a : Accessor} : (p.access ctx true).getter? = some name →
      a ∈ accessors → name ∈ a.methods → Overlooked ctx accessors p

/-- A property has an accessor or a delegate, or left a record, or was overlooked. What it has is
its own, and its records are among those of the run. -/
structure PropertyFate.Settled (ctx : Context) (owner : Label) (accessors : List Accessor)
    (skips : List Skip) (f : PropertyFate) : Prop where
  prop_of_accessor : ∀ a, f.accessor? = some a → a.prop = f.prop
  prop_of_delegate : ∀ d, f.delegate? = some d → d.prop = f.prop
  recorded : ∀ reason ∈ f.reasons, f.prop.record owner reason ∈ skips
  accounted : f.accessor?.isSome ∨ f.delegate?.isSome ∨ f.reasons ≠ [] ∨
    f.prop.Overlooked ctx accessors

namespace PropertyFate

variable {ctx : Context} {owner : Label} {accessors : List Accessor} {skips skips' : List Skip}
  {f : PropertyFate}

theorem Settled.mono (h : f.Settled ctx owner accessors skips) (hsub : skips ⊆ skips') :
    f.Settled ctx owner accessors skips' :=
  { h with recorded := fun reason hr => hsub (h.recorded reason hr) }

/-- Where nothing left a record, every property is bound or was overlooked. -/
theorem Settled.bound_or_overlooked (h : f.Settled ctx owner accessors []) :
    f.accessor?.isSome ∨ f.delegate?.isSome ∨ f.prop.Overlooked ctx accessors := by
  rcases h.accounted with ha | hd | hr | ho
  · exact .inl ha
  · exact .inr (.inl hd)
  · obtain ⟨reason, hreason⟩ := List.exists_mem_of_ne_nil _ hr
    cases h.recorded reason hreason
  · exact .inr (.inr ho)

/-- The fate of a property that the filter leaves out. -/
def dropped (p : Property) (reason : String) : PropertyFate := { prop := p, reasons := [reason] }

/-- The fate of a property from its fates as an accessor and as a delegate. -/
def kept (p : Property) (a : AccessorFate) (d : DelegateFate) : PropertyFate where
  prop := p
  accessor? := a.accessor?
  delegate? := d.delegate?
  reasons := a.reason?.toList ++ d.reason?.toList

/-- The fates of properties from those as accessors and as delegates. -/
def keptAll (ps : List Property) (as : List AccessorFate) (ds : List DelegateFate) :
    List PropertyFate :=
  (ps.zip (as.zip ds)).map fun x => kept x.1 x.2.1 x.2.2

section KeptAll

variable {ps : List Property} {as : List AccessorFate} {ds : List DelegateFate}

theorem map_prop_keptAll (ha : as.length = ps.length) (hd : ds.length = ps.length) :
    (keptAll ps as ds).map (·.prop) = ps := by
  rw [keptAll, List.map_map]
  exact List.map_fst_zip (by simp [ha, hd])

theorem accessors_keptAll (ha : as.length = ps.length) (hd : ds.length = ps.length) :
    (keptAll ps as ds).filterMap (·.accessor?) = as.filterMap AccessorFate.accessor? := by
  have hfst : (((ps.zip (as.zip ds)).map Prod.snd).map Prod.fst) = as := by
    rw [List.map_snd_zip (by simp [ha, hd]), List.map_fst_zip (by simp [ha, hd])]
  conv_rhs => rw [← hfst]
  simp only [keptAll, List.filterMap_map]
  rfl

theorem delegates_keptAll (ha : as.length = ps.length) (hd : ds.length = ps.length) :
    (keptAll ps as ds).filterMap (·.delegate?) = ds.filterMap DelegateFate.delegate? := by
  have hsnd : (((ps.zip (as.zip ds)).map Prod.snd).map Prod.snd) = ds := by
    rw [List.map_snd_zip (by simp [ha, hd]), List.map_snd_zip (by simp [ha, hd])]
  conv_rhs => rw [← hsnd]
  simp only [keptAll, List.filterMap_map]
  rfl

theorem mem_keptAll (hf : f ∈ keptAll ps as ds) :
    ∃ p a d, f = kept p a d ∧ (p, a) ∈ ps.zip as ∧ (p, d) ∈ ps.zip ds := by
  obtain ⟨⟨p, a, d⟩, hmem, rfl⟩ := List.mem_map.1 hf
  obtain ⟨i, hi⟩ := List.mem_iff_getElem?.1 hmem
  obtain ⟨hp, had⟩ := List.getElem?_zip_eq_some.1 hi
  obtain ⟨ha, hd⟩ := List.getElem?_zip_eq_some.1 had
  exact ⟨p, a, d, rfl, List.mem_of_getElem? (List.getElem?_zip_eq_some.2 ⟨hp, ha⟩),
    List.mem_of_getElem? (List.getElem?_zip_eq_some.2 ⟨hp, hd⟩)⟩

end KeptAll

end PropertyFate

/-! ## The file of a class -/

section File

variable {ctx : Context} {owner : Label}

/-- What the collection of accessors leaves aside is a delegate or a fixed array of containers. -/
theorem Property.fixedArray_of_ignored {p : Property} (h : p.access ctx true = .ignored)
    (hdelegate : p.kind.isDelegate = false) :
    p.mapping.conversion.isContainer = true ∧ 1 < p.arrayDim := by
  unfold access at h
  split at h
  · cases h
  rw [if_neg (by simp [hdelegate])] at h
  split at h
  · cases h
  split at h
  · cases h
  dsimp only at h
  split at h
  · next hcontainer =>
    split at h
    · next harray => exact ⟨hcontainer, by simpa using harray⟩
    · split at h <;> cases h
  · cases h

/-- The fate of a property whose fates as an accessor and as a delegate came up in the two
collections. -/
theorem PropertyFate.settled_kept {p : Property} {a : AccessorFate} {d : DelegateFate}
    {used : List String} {accessors : List Accessor} {skips : List Skip}
    (ha : a.Of ctx true used p) (hd : d.Of p)
    (hused : ∀ name ∈ used, ∃ b ∈ accessors, name ∈ b.methods)
    (hskips : ∀ reason ∈ (kept p a d).reasons, p.record owner reason ∈ skips) :
    (kept p a d).Settled ctx owner accessors skips where
  prop_of_accessor b hb := by
    cases ha with
    | bound hprop => exact Option.some.inj hb ▸ hprop
    | _ => cases hb
  prop_of_delegate e he := by
    cases hd with
    | bound hprop => exact Option.some.inj he ▸ hprop
    | _ => cases he
  recorded := hskips
  accounted := by
    cases ha with
    | bound => exact .inl rfl
    | skipped => exact .inr (.inr (.inl (by simp [kept, AccessorFate.reason?])))
    | clashed hname hmem =>
      obtain ⟨b, hb, hmethod⟩ := hused _ hmem
      exact .inr (.inr (.inr (.clashed hname hb hmethod)))
    | ignored hignored =>
      -- The delegates get it, unless it is a fixed array.
      cases hd with
      | bound => exact .inr (.inl rfl)
      | skipped => exact .inr (.inr (.inl (by simp [kept, DelegateFate.reason?])))
      | other hother =>
        obtain ⟨hcontainer, harray⟩ := p.fixedArray_of_ignored hignored hother
        exact .inr (.inr (.inr (.fixedArray hcontainer harray)))

/-- The fates of the properties that come to the file of a class. -/
theorem ClassModule.exists_fates (ctx : Context) (c : ClassInfo) (entries : List Entry) :
    let file := ClassModule.of ctx c entries
    ∃ fates : List PropertyFate,
      fates.map (·.prop) = c.props ∧
      file.accessors = fates.filterMap (·.accessor?) ∧
      file.delegates = fates.filterMap (·.delegate?) ∧
      ∀ f ∈ fates, f.Settled ctx c.name file.accessors file.skips := by
  intro file
  let functions := (entries.map fun e => (⟨e.methodName, CallPlan.of ctx e⟩ : Method)).map (·.name)
  let as := accessorFates ctx true functions [] c.props
  let ds := delegateFates ctx c.name (file.accessors.flatMap (·.methods)) c.props
  have haccessors : collectAccessors ctx c.name true functions c.props =
      (as.filterMap AccessorFate.accessor?,
        (c.props.zip as).filterMap fun x => x.2.reason?.map (x.1.record c.name)) :=
    collectFrom_eq c.props []
  have hdelegates : collectDelegates ctx c.name (file.accessors.flatMap (·.methods)) c.props =
      (ds.filterMap DelegateFate.delegate?,
        (c.props.zip ds).filterMap fun x => x.2.reason?.map (x.1.record c.name)) :=
    collectDelegates_eq c.props _
  have has : file.accessors = as.filterMap AccessorFate.accessor? := congrArg (·.1) haccessors
  have hds : file.delegates = ds.filterMap DelegateFate.delegate? := congrArg (·.1) hdelegates
  have hla : as.length = c.props.length := length_accessorFates _ _
  have hld : ds.length = c.props.length := length_delegateFates _ _
  refine ⟨PropertyFate.keptAll c.props as ds, PropertyFate.map_prop_keptAll hla hld,
    has.trans (PropertyFate.accessors_keptAll hla hld).symm,
    hds.trans (PropertyFate.delegates_keptAll hla hld).symm, fun f hf => ?_⟩
  obtain ⟨p, a, d, rfl, hpa, hpd⟩ := PropertyFate.mem_keptAll hf
  obtain ⟨used, ha, hused⟩ := of_mem_accessorFates hpa
  refine PropertyFate.settled_kept ha (of_mem_delegateFates hpd) (fun name hname => ?_)
    fun reason hreason => ?_
  · obtain hname | ⟨b, hb, hname⟩ := hused name hname
    · cases hname
    · exact ⟨b, has ▸ List.mem_filterMap.2 ⟨_, hb, rfl⟩, hname⟩
  · show p.record c.name reason ∈ (collectAccessors ctx c.name true functions c.props).2 ++
      (collectDelegates ctx c.name (file.accessors.flatMap (·.methods)) c.props).2 ++ _
    rw [haccessors, hdelegates]
    refine List.mem_append_left _ (List.mem_append.2 ?_)
    refine (List.mem_append.1 hreason).imp (fun h => ?_) fun h => ?_
    · have hreason : a.reason? = some reason := Option.mem_toList.1 h
      exact List.mem_filterMap.2 ⟨_, hpa, by rw [hreason]; rfl⟩
    · have hreason : d.reason? = some reason := Option.mem_toList.1 h
      exact List.mem_filterMap.2 ⟨_, hpd, by rw [hreason]; rfl⟩

end File

/-! ## Strict runs -/

namespace Generator

/-- What comes before the last step of a run that succeeds, succeeds too. -/
theorem exists_of_bind_eq_ok {σ α β ε : Type} {x : ExceptT ε (StateM σ) α}
    {f : α → ExceptT ε (StateM σ) β} {s s' : σ} {b : β} (h : (x >>= f).run s = (.ok b, s')) :
    ∃ a s₁, x.run s = (.ok a, s₁) ∧ (f a).run s₁ = (.ok b, s') := by
  cases hx : x.run s with
  | mk r s₁ =>
    rw [ExceptT.run_bind] at h
    simp only [bind, StateT.bind, hx] at h
    cases r with
    | ok a => exact ⟨a, s₁, rfl, h⟩
    | error e => cases h

/-- A strict run that reads a schema and a configuration, and succeeds. -/
inductive StrictRun (σ : Type) (schema : Schema) (config : Config) : Prop where
  | intro {fs : FileAccess (StateM σ)} {path : FilePath} {paths : OutputPaths}
    {overrides : Overrides} {summary : Summary} {s s₁ s₂ s' : σ} :
    (readConfig fs path).run s = (.ok config, s₁) → config.paths = some paths →
    (readSchema fs paths.schema).run s₁ = (.ok schema, s₂) →
    (overrides.strict || config.strict) = true →
    (generate fs path overrides).run s = (.ok summary, s') → StrictRun σ schema config

/-- A strict run only succeeds if nothing is left out. -/
theorem StrictRun.allSkips_eq_nil {σ : Type} {schema : Schema} {config : Config}
    (h : StrictRun σ schema config) : (Prepared.of schema config).allSkips = [] := by
  obtain ⟨hconfig, hpaths, hschema, hstrict, hrun⟩ := h
  rw [generate] at hrun
  obtain ⟨config', _, hconfig', hrun⟩ := exists_of_bind_eq_ok hrun
  cases hconfig'.symm.trans hconfig
  simp only [hpaths] at hrun
  obtain ⟨schema', _, hschema', hrun⟩ := exists_of_bind_eq_ok hrun
  cases hschema'.symm.trans hschema
  by_contra hskips
  split at hrun
  · cases hrun
  · rw [if_pos (by simp [hstrict, hskips])] at hrun
    cases hrun

end Generator

/-! ## The enabled classes -/

theorem mem_moduleFiles_of_class {p : Prepared} {module : String} {file : ClassModule}
    (h : file ∈ classModules p module) :
    (entityPath module file.info.name, classFile file) ∈ moduleFiles p module := by
  have hclass := List.mem_map_of_mem (f := fun c => (entityPath module c.info.name, classFile c)) h
  exact List.mem_append_left _ (List.mem_append_right _ hclass)

namespace Schema

variable {schema : Schema} {config : Config} {c : String × ClassInfo}

theorem module_mem_of_enabled (hc : c ∈ schema.enabledClasses config) :
    c.1 ∈ (Prepared.of schema config).context.modules := by
  obtain ⟨info, -, hinfo⟩ := List.mem_filterMap.1 hc
  obtain ⟨m, hm, rfl⟩ := Option.map_eq_some_iff.1 hinfo
  exact List.mem_mergeSort.2 (List.contains_iff_mem.1 (Option.filter_eq_some_iff.1 hm).2)

/-- An enabled class is in its module without the members that the filter leaves out. -/
theorem filterClass_mem_at (hc : c ∈ schema.enabledClasses config) :
    (filterClass (schema.unblocked config) config.blocklist c.2).1 ∈
      (Prepared.of schema config).context.classes.at c.1 := by
  have hmodules : ((Prepared.of schema config).context.classes.map (·.1)) =
      (Context.build schema config).classes.map (·.1) := by
    simp only [Prepared.of, Context.filtered, Context.unblocked, List.map_map]
    rfl
  rw [Groups.mem_at (hmodules ▸ Groups.nodup_modules _ _ _)]
  exact members_filtered_perm.mem_iff.2 (List.mem_map.2 ⟨c, hc, rfl⟩)

theorem filterClass_skips_subset (hc : c ∈ schema.enabledClasses config) :
    (filterClass (schema.unblocked config) config.blocklist c.2).2 ⊆
      (Prepared.of schema config).skips := fun s hs => by
  obtain ⟨g, hg, -, hcg⟩ := Groups.mem_members.1 (mem_members_of_enabled hc)
  refine List.mem_append_left _ (List.mem_flatMap.2 ⟨_, List.mem_map_of_mem hg, ?_⟩)
  exact List.mem_flatMap.2 ⟨_, List.mem_map_of_mem hcg, hs⟩

end Schema

/-- The fates of the properties that the filter leaves out. -/
def droppedProperties (ctx : Context) (ps : List Property) : List PropertyFate :=
  ps.filterMap fun p => (propertySkip? ctx p).map (.dropped p)

section Dropped

variable {ctx : Context} {ps : List Property}

theorem map_prop_droppedProperties :
    (droppedProperties ctx ps).map (·.prop) = ps.filter fun p => !(propertySkip? ctx p).isNone := by
  rw [droppedProperties]
  induction ps with
  | nil => rfl
  | cons p rest ih => cases h : propertySkip? ctx p <;> simp [h, ih, PropertyFate.dropped]

theorem exists_of_mem_droppedProperties {f : PropertyFate} (hf : f ∈ droppedProperties ctx ps) :
    ∃ p ∈ ps, ∃ reason, propertySkip? ctx p = some reason ∧ f = .dropped p reason := by
  obtain ⟨p, hp, hf⟩ := List.mem_filterMap.1 hf
  obtain ⟨reason, hreason, rfl⟩ := Option.map_eq_some_iff.1 hf
  exact ⟨p, hp, reason, hreason, rfl⟩

@[simp] theorem accessors_droppedProperties :
    (droppedProperties ctx ps).filterMap (·.accessor?) = [] :=
  List.filterMap_eq_nil_iff.2 fun f hf => by
    obtain ⟨p, -, reason, -, rfl⟩ := exists_of_mem_droppedProperties hf
    rfl

@[simp] theorem delegates_droppedProperties :
    (droppedProperties ctx ps).filterMap (·.delegate?) = [] :=
  List.filterMap_eq_nil_iff.2 fun f hf => by
    obtain ⟨p, -, reason, -, rfl⟩ := exists_of_mem_droppedProperties hf
    rfl

theorem PropertyFate.settled_dropped {p : Property} {reason : String} {owner : Label}
    {accessors : List Accessor} {skips : List Skip} (h : p.record owner reason ∈ skips) :
    (dropped p reason).Settled ctx owner accessors skips where
  prop_of_accessor _ h := by cases h
  prop_of_delegate _ h := by cases h
  recorded r hr := by
    obtain rfl : r = reason := List.mem_singleton.1 hr
    exact h
  accounted := .inr (.inr (.inl (List.cons_ne_nil reason [])))

theorem mem_skipsOf_props {p : Property} {reason : String} {owner : Label} (hp : p ∈ ps)
    (h : propertySkip? ctx p = some reason) :
    p.record owner reason ∈ skipsOf owner (·.name) (propertySkip? ctx) ps :=
  List.mem_filterMap.2 ⟨p, hp, by rw [h]; rfl⟩

end Dropped

/-- Every property that an enabled class declares has an accessor or a delegate in the file of the
class, or left a record, apart from those that were overlooked. Where nothing left a record, as in a
strict run that succeeds, all others are bound. -/
theorem properties_accounted {schema : Schema} {config : Config} {c : String × ClassInfo}
    (hc : c ∈ schema.enabledClasses config) :
    let p := Prepared.of schema config
    ∃ (file : ClassModule) (fates : List PropertyFate),
      c.1 ∈ p.context.modules ∧
      (entityPath c.1 c.2.name, classFile file) ∈ moduleFiles p c.1 ∧
      (fates.map (·.prop)).Perm c.2.props ∧
      file.accessors = fates.filterMap (·.accessor?) ∧
      file.delegates = fates.filterMap (·.delegate?) ∧
      (∀ f ∈ fates, f.Settled p.context c.2.name file.accessors p.allSkips) ∧
      (p.allSkips = [] → ∀ f ∈ fates, f.accessor?.isSome ∨ f.delegate?.isSome ∨
        f.prop.Overlooked p.context file.accessors) ∧
      ∀ σ : Type, Generator.StrictRun σ schema config → p.allSkips = [] := by
  intro p
  let kept := (filterClass (schema.unblocked config) config.blocklist c.2).1
  let file := ClassModule.of p.context kept
    (p.table.filter fun e => e.module = c.1 && e.className = kept.name)
  have hfile : file ∈ classModules p c.1 := List.mem_map_of_mem (Schema.filterClass_mem_at hc)
  have hname : file.info.name = c.2.name := rfl
  have hmodule := Schema.module_mem_of_enabled hc
  have hskips : file.skips ⊆ p.allSkips := fun s hs =>
    List.mem_append_right _ (List.mem_flatMap.2 ⟨c.1, hmodule,
      List.mem_append_right _ (List.mem_flatMap.2 ⟨file, hfile, hs⟩)⟩)
  have hfilter : skipsOf c.2.name (·.name) (propertySkip? (schema.unblocked config)) c.2.props ⊆
      p.allSkips := fun s hs =>
    List.mem_append_left _ (Schema.filterClass_skips_subset hc (List.mem_append_left _ hs))
  obtain ⟨fates, hprops, haccessors, hdelegates, hsettled⟩ :=
    ClassModule.exists_fates p.context kept
      (p.table.filter fun e => e.module = c.1 && e.className = kept.name)
  let all := droppedProperties (schema.unblocked config) c.2.props ++ fates
  have hall : ∀ f ∈ all, f.Settled p.context c.2.name file.accessors p.allSkips := fun f hf => by
    rcases List.mem_append.1 hf with hf | hf
    · obtain ⟨p, hp, reason, hreason, rfl⟩ := exists_of_mem_droppedProperties hf
      exact PropertyFate.settled_dropped (hfilter (mem_skipsOf_props hp hreason))
    · exact (hsettled f hf).mono hskips
  refine ⟨file, all, hmodule, ?_, ?_, ?_, ?_, hall, fun hnone f hf => ?_,
    fun _ hrun => hrun.allSkips_eq_nil⟩
  · exact hname ▸ mem_moduleFiles_of_class hfile
  · rw [List.map_append, map_prop_droppedProperties, hprops]
    exact List.perm_append_comm.trans (List.filter_append_perm _ _)
  · rw [List.filterMap_append, accessors_droppedProperties]
    exact haccessors
  · rw [List.filterMap_append, delegates_droppedProperties]
    exact hdelegates
  · exact (hnone ▸ hall f hf).bound_or_overlooked

/-! ## A class with overlooked properties -/

/-- A class with two properties that would have one getter, and a fixed array of arrays. -/
def overlookedClass : ClassInfo where
  name := .text "Actor"
  cppName := .text "AActor"
  package := .text "Engine"
  props := [
    { name := .text "Hidden", kind := .bool },
    { name := .text "bHidden", kind := .bool },
    { name := .text "Tags", kind := .array, arrayDim := 2
      inner := some { name := .text "Tag", kind := .name } }]

def overlookedSchema : Schema where
  classes := [overlookedClass]

def overlookedConfig : Config where
  features := ["core"]
  modules := [⟨"Engine", .text "engine", .text "core"⟩]

/-- The context of the class. -/
def overlookedContext : Context where
  packages := [("Engine", .text "engine")]
  features := [(.text "engine", .text "core")]
  enabled := ["engine"]
  classes := [("engine", [overlookedClass])]
  classIndex := [overlookedClass]

theorem build_overlooked :
    Context.build overlookedSchema overlookedConfig = overlookedContext :=
  Context.build_of_one_module rfl rfl (by decide) (by decide) (by decide)

/-- The filter keeps the class as it is, and there is nothing for the table. -/
theorem prepared_overlooked :
    Prepared.of overlookedSchema overlookedConfig = ⟨overlookedContext, [], []⟩ := by
  have hfiltered : overlookedContext.filtered overlookedConfig.blocklist =
      (overlookedContext, []) := by rfl
  have horder : overlookedContext.classesInOrder = overlookedContext.classes.members :=
    Context.classesInOrder_of_singleton rfl
  have hentries : overlookedContext.entries = [] := by
    rw [Context.entries, horder]
    rfl
  have hskips : overlookedContext.tableSkips = [] := by
    rw [Context.tableSkips, horder]
    rfl
  have htable : overlookedContext.funcTable = [] := by
    have hperm : (overlookedContext.funcTable.map Entry.unnumbered).Perm [] :=
      hentries ▸ Context.funcTable_perm
    exact List.map_eq_nil_iff.1 hperm.eq_nil
  rw [Prepared.of, build_overlooked, hfiltered]
  simp only [hskips, htable, List.append_nil]

theorem prepare_overlooked : Check.prepare overlookedSchema overlookedConfig = .ok () := by
  have horder : (overlookedContext.filtered overlookedConfig.blocklist).1.classesInOrder =
      (overlookedContext.filtered overlookedConfig.blocklist).1.classes.members :=
    Context.classesInOrder_of_singleton rfl
  rw [Check.prepare, Check.build, build_overlooked]
  dsimp only
  rw [Check.table, horder]
  rfl

theorem enabledClasses_overlooked :
    overlookedSchema.enabledClasses overlookedConfig = [("engine", overlookedClass)] := by
  rfl

theorem allSkips_overlooked :
    (Prepared.of overlookedSchema overlookedConfig).context.modules = ["engine"] ∧
    (Prepared.of overlookedSchema overlookedConfig).allSkips = [] := by
  have hmodules : overlookedContext.modules = ["engine"] := List.mergeSort_singleton _
  have hskips : moduleSkips ⟨overlookedContext, [], []⟩ "engine" = [] := by decide +kernel
  rw [prepared_overlooked]
  refine ⟨hmodules, ?_⟩
  simp only [Prepared.allSkips, hmodules, List.flatMap_singleton, hskips, List.append_nil]

/-- None of the three properties left a record. -/
theorem properties_accounted_overlooked :
    ("engine", overlookedClass) ∈ overlookedSchema.enabledClasses overlookedConfig ∧
    let p := Prepared.of overlookedSchema overlookedConfig
    p.allSkips = [] ∧ ∃ (file : ClassModule) (fates : List PropertyFate),
      (entityPath "engine" (.text "Actor"), classFile file) ∈ moduleFiles p "engine" ∧
      (fates.map (·.prop)).Perm overlookedClass.props ∧
      ∀ f ∈ fates, f.accessor?.isSome ∨ f.delegate?.isSome ∨
        f.prop.Overlooked p.context file.accessors := by
  have hc : ("engine", overlookedClass) ∈ overlookedSchema.enabledClasses overlookedConfig :=
    enabledClasses_overlooked ▸ .head _
  obtain ⟨file, fates, -, hfile, hprops, -, -, -, hbound, -⟩ := properties_accounted hc
  have hnone := allSkips_overlooked.2
  exact ⟨hc, hnone, file, fates, hfile, hprops, hbound hnone⟩

/-- One of the three properties is bound, and no record tells of the others. -/
theorem properties_left_out_silently :
    let p := Prepared.of overlookedSchema overlookedConfig
    Check.prepare overlookedSchema overlookedConfig = .ok () ∧
    overlookedSchema.enabledClasses overlookedConfig = [("engine", overlookedClass)] ∧
    p.context.modules = ["engine"] ∧
    p.allSkips = [] ∧
    (classModules p "engine").map (fun file => file.accessors.map (·.prop.name)) =
      [[.text "Hidden"]] ∧
    (classModules p "engine").map (fun file => file.delegates.map (·.prop.name)) = [[]] := by
  intro p
  obtain ⟨hmodules, hnone⟩ := allSkips_overlooked
  refine ⟨prepare_overlooked, enabledClasses_overlooked, hmodules, hnone, ?_⟩
  rw [show p = _ from prepared_overlooked]
  exact ⟨by decide +kernel, by decide +kernel⟩

end Bindery
