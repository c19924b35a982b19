import Bindery.Proofs.FuncTable.Exportable
import Bindery.Proofs.Render.Checks

/-!
# Look-ups while files are made

The generator keeps tables for slot types, views and plans, and it counts on their entries. The
filters see to that: what is left has a plan with slot types of its own, views of known containers,
and a parent with an import.

* `Prepared.Resolved`: everything that is looked up is there.
* `resolved`: it is for every schema whose packages are texts.
* `named_schema_generates`: a schema in which everything is named can be made into files.
* `unlisted_value_fails`: headers that are no texts, or features that are no keys, are not found by
  any filter.
-/

namespace Bindery

open Render

variable {schema : Schema} {config : Config}

/-- What is looked up while the files of a prepared context are made. -/
structure Prepared.Resolved (p : Prepared) : Prop where
  /-- Every plan can be carried out. -/
  supported : ∀ plan ∈ p.plans, plan.supported = true
  /-- The tag of every scalar is that of the slot type by which it is spelled. -/
  wires : ∀ plan ∈ p.plans, ∀ q ∈ plan.params, q.passing = .scalar →
    Wire.ofTag? q.mapping.carrier.tag = some q.wire
  /-- Containers among parameters are read and written by views. -/
  containers : ∀ plan ∈ p.plans, ∀ q ∈ plan.containers, q.param.kind.isContainer = true
  /-- The plan of an entry is found by its index. -/
  plans : ∀ e ∈ p.table,
    p.plans.find? (fun plan => plan.entry.id = e.id) = some (CallPlan.of p.context e)
  /-- Views on properties are those of known containers, with their elements. -/
  views : ∀ m ∈ p.context.modules, ∀ c ∈ classModules p m, ∀ a ∈ c.accessors,
    a.isView = true → a.prop.kind.isContainer = true ∧ a.parts.any (!·.isEmpty) = true
  /-- Structs have no views. -/
  fields : ∀ m ∈ p.context.modules, ∀ s ∈ structModules p m, ∀ a ∈ s.accessors, a.isView = false
  /-- Every parent can be imported. -/
  parents : ∀ m ∈ p.context.modules, ∀ c ∈ classModules p m,
    c.parent?.isSome = true → c.parentBinding?.isSome = true

/-! ## Types -/

/-- Only containers are passed as such. -/
theorem Conversion.passing_eq_container {c : Conversion} :
    c.passing = .container ↔ c.isContainer = true := by
  cases c <;> decide

theorem Mapping.isContainer_ofInt (row : IntRow) :
    (ofInt row).conversion.isContainer = false := by
  unfold ofInt
  dsimp only
  split <;> rfl

theorem Mapping.isContainer_ofObject (target : Option Label) :
    (ofObject target).conversion.isContainer = false := by
  cases target <;> rfl

/-- Only containers are represented as such. -/
theorem Datum.isContainer_of_mapping {d : Datum} (h : d.mapping.conversion.isContainer = true) :
    d.kind.isContainer = true := by
  revert h
  fun_cases Datum.mapping d with
  | case3 | case25 =>
    rw [Mapping.isContainer_ofInt]
    exact fun h => absurd h Bool.false_ne_true
  | case11 | case12 | case13 | case14 | case15 =>
    rw [Mapping.isContainer_ofObject]
    exact fun h => absurd h Bool.false_ne_true
  | _ => simp_all [PropertyKind.isContainer, Mapping.ofEnum, Mapping.ofView,
      Mapping.ofUnsupported, Conversion.isContainer]

/-- A container has elements. -/
theorem Property.isEmpty_parts {p : Property} {ctx : Option Context} {parts : List Element}
    (h : p.parts? ctx = some parts) : parts.isEmpty = false := by
  unfold parts? at h
  split at h
  · next hkind =>
    have helements : p.elements ≠ [] := by
      unfold elements
      cases hk : p.kind <;> simp_all [PropertyKind.isContainer]
    obtain ⟨element, rest, hcons⟩ := List.exists_cons_of_ne_nil helements
    rw [hcons, List.mapM_cons] at h
    obtain ⟨e, -, h⟩ := Option.bind_eq_some_iff.1 h
    obtain ⟨es, -, h⟩ := Option.bind_eq_some_iff.1 h
    rw [← Option.some.inj h]
    rfl
  · cases h

/-! ## Plans -/

/-- What the filters have seen to for a parameter of the table. -/
theorem Schema.param_of_mem_table {e : Entry} (he : e ∈ (Prepared.of schema config).table)
    {p : Property} (hp : p ∈ e.func.params) :
    p.mapping.supported = true ∧ (p.kind.isContainer = true →
      (p.parts? (some (Prepared.of schema config).context)).isSome = true) := by
  obtain ⟨d, -, hlisted, hslot⟩ := Schema.exists_declaration he
  have hparams : e.func.params = d.func.params :=
    congrArg (fun e : Entry => e.func.params) hslot
  rw [Declaration.isListed, Bool.and_eq_true] at hlisted
  obtain ⟨hsupported, hparts⟩ := tableSkip?_eq_none_iff.1 (Option.isNone_iff_eq_none.1 hlisted.2)
  rw [agrees_unblocked.parts?]
  exact ⟨hsupported p (hparams ▸ hp), hparts p (hparams ▸ hp)⟩

/-- A container among parameters has a conversion of its own. -/
theorem ParamPlan.IsPlanOf.passing_eq {ctx : Context} {p : Property} {q : ParamPlan}
    (h : q.IsPlanOf ctx p) (hq : q.isContainer = true) :
    p.mapping.conversion.passing = .container := by
  rw [← h.mapping]
  exact of_decide_eq_true hq

/-- What is passed as a container is one. -/
theorem ParamPlan.IsPlanOf.isContainer_kind {ctx : Context} {p : Property} {q : ParamPlan}
    (h : q.IsPlanOf ctx p) (hq : q.isContainer = true) : p.kind.isContainer = true :=
  Datum.isContainer_of_mapping (Conversion.passing_eq_container.1 (h.passing_eq hq))

/-- The filters let only those parameters pass for which a plan can be carried out. -/
theorem CallPlan.supported_of_mem_table {e : Entry}
    (he : e ∈ (Prepared.of schema config).table) :
    (CallPlan.of (Prepared.of schema config).context e).supported = true := by
  refine List.all_eq_true.2 fun q hq => ?_
  obtain ⟨p, hp, hplan⟩ := CallPlan.exists_param hq
  obtain ⟨hsupported, hparts⟩ := Schema.param_of_mem_table he hp
  rw [Bool.and_eq_true, hplan.mapping]
  refine ⟨hsupported, ?_⟩
  cases hcontainer : q.isContainer with
  | false => rfl
  | true =>
    obtain ⟨parts, hsome⟩ :=
      Option.isSome_iff_exists.1 (hparts (hplan.isContainer_kind hcontainer))
    simp [hplan.parts, hplan.passing_eq hcontainer, hsome, Property.isEmpty_parts hsome]

/-- Indices are dense, so an index belongs to one entry only. -/
theorem Prepared.find?_plan {e : Entry} (he : e ∈ (Prepared.of schema config).table) :
    (Prepared.of schema config).plans.find? (fun plan => plan.entry.id = e.id) =
      some (CallPlan.of (Prepared.of schema config).context e) := by
  rw [Prepared.plans, List.find?_map]
  have hsome : ((Prepared.of schema config).table.find? fun x => x.id = e.id).isSome = true :=
    List.find?_isSome.2 ⟨e, he, decide_eq_true rfl⟩
  obtain ⟨found, hfound⟩ := Option.isSome_iff_exists.1 hsome
  have hid : found.id = e.id := of_decide_eq_true
    (List.find?_some (p := fun x : Entry => decide (x.id = e.id)) hfound)
  -- The first plan with the index belongs to the entry at that place, which is `e`.
  obtain ⟨i, hi, hfi⟩ := List.getElem_of_mem (List.mem_of_find?_eq_some hfound)
  obtain ⟨j, hj, rfl⟩ := List.getElem_of_mem he
  rw [← hfi, Prepared.table_id hi, Prepared.table_id hj] at hid
  obtain rfl : i = j := Int.ofNat_inj.1 hid
  rw [← hfi] at hfound
  exact congrArg (Option.map _) hfound

/-! ## All look-ups -/

theorem Prepared.mem_plans {p : Prepared} {plan : CallPlan} :
    plan ∈ p.plans ↔ ∃ e ∈ p.table, CallPlan.of p.context e = plan := List.mem_map

/-- The views of classes are those of containers, with their elements. -/
theorem Accessor.IsOf.isContainer {ctx : Context} {inClass : Bool} {p : Property} {a : Accessor}
    (h : a.IsOf ctx inClass p) (hview : a.isView = true) :
    a.prop.kind.isContainer = true ∧ a.parts.any (!·.isEmpty) = true := by
  obtain ⟨parts, hparts⟩ := Option.isSome_iff_exists.1 (h.view hview).2
  rw [h.prop, hparts]
  refine ⟨Datum.isContainer_of_mapping (h.mapping ▸ hview), ?_⟩
  simp [Property.isEmpty_parts (h.parts parts hparts)]

/-- Everything that is looked up is there. -/
theorem Schema.resolved (hpackages : ∀ l ∈ schema.packages, l.isText = true) :
    (Prepared.of schema config).Resolved where
  supported plan hplan := by
    obtain ⟨e, he, rfl⟩ := Prepared.mem_plans.1 hplan
    exact CallPlan.supported_of_mem_table he
  wires plan hplan q hq hpassing := by
    obtain ⟨e, he, rfl⟩ := Prepared.mem_plans.1 hplan
    have hwire := wires_of_mem_table he _ q hq hpassing
    unfold ParamPlan.wire? Carrier.slot? at hwire
    split at hwire
    · next w hcarrier =>
      rw [hcarrier, ← Option.some.inj hwire]
      exact Wire.ofTag?_tag w
    · cases hwire
  containers plan hplan q hq := by
    obtain ⟨e, he, rfl⟩ := Prepared.mem_plans.1 hplan
    obtain ⟨hq, hcontainer⟩ := List.mem_filter.1 hq
    obtain ⟨p, -, hof⟩ := CallPlan.exists_param hq
    exact hof.param ▸ hof.isContainer_kind hcontainer
  plans _ he := Prepared.find?_plan he
  views m _ c hc a ha hview := by
    obtain ⟨info, -, rfl⟩ := List.mem_map.1 hc
    obtain ⟨p, -, hof⟩ := ClassModule.accessor_of ha
    exact hof.isContainer hview
  fields m _ s hs a ha := by
    obtain ⟨info, -, rfl⟩ := List.mem_map.1 hs
    obtain ⟨p, -, hof⟩ := StructModule.accessor_of ha
    exact Bool.eq_false_of_not_eq_true fun hview => Bool.false_ne_true (hof.view hview).1
  parents m _ c hc hparent := by
    obtain ⟨info, -, rfl⟩ := List.mem_map.1 hc
    obtain ⟨name, hname⟩ := Option.isSome_iff_exists.1 hparent
    have hfound := (Option.filter_eq_some_iff.1 hname).2
    rw [Bool.and_eq_true] at hfound
    obtain ⟨parent, hclass⟩ := Option.isSome_iff_exists.1 hfound.1
    obtain ⟨m, -, hbinding⟩ := Schema.binding?_of_class? hpackages hclass
    rw [ClassModule.parentBinding?, hname]
    exact Option.isSome_of_eq_some hbinding

/-- A schema in which everything is named can be made into files, under every configuration whose
modules are texts and whose features are keys. On the way, every look-up finds its entry. -/
theorem named_schema_generates (schema : Schema) (config : Config) (hs : schema.Named)
    (hc : config.Usable) :
    Check.generate schema config = .ok () ∧ (Prepared.of schema config).Resolved :=
  ⟨Check.generate_of_named hs hc, Schema.resolved hs.packages⟩

/-! ## A class with a parent -/

/-- A container of names. -/
def tagsProperty : Property where
  name := .text "Tags"
  kind := .array
  inner := some { name := .text "Tag", kind := .name }

/-- A container of objects. -/
def targetsParam : Property where
  name := .text "Targets"
  kind := .set
  element := some { name := .text "Target", kind := .object, className := .text "Actor" }

/-- A number with a default. -/
def speedParam : Property where
  name := .text "Speed"
  kind := .float
  default := .text "600.0"

/-- A class that extends another one, with a view and a function that takes a container. -/
def pawnClass : ClassInfo where
  name := .text "Pawn"
  cppName := .text "APawn"
  package := .text "Engine"
  super := .text "Actor"
  props := [tagsProperty]
  funcs := [{ name := .text "Follow", flags := 1024, params := [targetsParam, speedParam] }]

def pawnSchema : Schema where
  classes := [{ name := .text "Actor", cppName := .text "AActor", package := .text "Engine" },
    pawnClass]

def pawnConfig : Config where
  features := ["core"]
  modules := [⟨"Engine", .text "engine", .text "core"⟩]

/-- A type that refers to a class at most. -/
theorem Datum.named_ofClass {name : String} {kind : PropertyKind} {className : Label}
    (hkind : kind ≠ .absent ∧ kind ≠ .unusable) (hclass : className.IsReference) :
    Datum.Named { name := .text name, kind, className } where
  name := rfl
  known := hkind
  className := hclass
  metaClassName := .inl rfl
  structName := .inl rfl
  enumName := .inl rfl
  interfaceName := .inl rfl
  enumUnderlying := .inl rfl
  noBraces _ h := by cases h

theorem named_tagsProperty : tagsProperty.Named where
  data := List.forall_mem_cons.2 ⟨Datum.named_ofClass (by decide) (.inl rfl),
    List.forall_mem_singleton.2 (Datum.named_ofClass (by decide) (.inl rfl))⟩
  default := .inl rfl

theorem named_targetsParam : targetsParam.Named where
  data := List.forall_mem_cons.2 ⟨Datum.named_ofClass (by decide) (.inl rfl),
    List.forall_mem_singleton.2 (Datum.named_ofClass (by decide) (.inr rfl))⟩
  default := .inl rfl

theorem named_speedParam : speedParam.Named where
  data := List.forall_mem_singleton.2 (Datum.named_ofClass (by decide) (.inl rfl))
  default := .inr rfl

theorem named_pawnClass : pawnClass.Named where
  name := rfl
  super := .inr rfl
  header := .inr rfl
  funcs := by decide
  props := List.forall_mem_singleton.2 named_tagsProperty
  params := List.forall_mem_singleton.2 (List.forall_mem_cons.2
    ⟨named_targetsParam, List.forall_mem_singleton.2 named_speedParam⟩)

theorem named_pawnSchema : pawnSchema.Named where
  packages := by decide
  classes := by
    refine List.forall_mem_cons.2 ⟨?_, List.forall_mem_singleton.2 named_pawnClass⟩
    exact ⟨rfl, .inl rfl, .inr rfl, List.forall_mem_nil _, List.forall_mem_nil _,
      List.forall_mem_nil _⟩
  structs := List.forall_mem_nil _
  enums := List.forall_mem_nil _

theorem usable_pawnConfig : pawnConfig.Usable where
  modules := by decide
  features := by decide

/-- The files of a class and its parent. -/
theorem named_schema_generates_pawn :
    pawnSchema.Named ∧ pawnConfig.Usable ∧
    Check.generate pawnSchema pawnConfig = .ok () ∧
    (Prepared.of pawnSchema pawnConfig).Resolved :=
  ⟨named_pawnSchema, usable_pawnConfig,
    named_schema_generates pawnSchema pawnConfig named_pawnSchema usable_pawnConfig⟩

/-! ## Values that no filter looks at -/

/-- What succeeds has headers by which files can be found. -/
theorem Check.isKey_of_generate (h : Check.generate schema config = .ok ()) {e : Entry}
    (he : e ∈ (Prepared.of schema config).table) {header : Label}
    (hheader : e.header.given? = some header) : header.isKey = true := by
  obtain ⟨-, h⟩ := bind_eq_ok_iff.1 h
  obtain ⟨-, h⟩ := bind_eq_ok_iff.1 h
  obtain ⟨-, h⟩ := bind_eq_ok_iff.1 h
  have howner : (e.module, e.className) ∈ tableClasses (Prepared.of schema config).table :=
    List.mem_eraseDups.2 (List.mem_map_of_mem he)
  obtain ⟨hkeys, -⟩ := bind_eq_ok_iff.1 (forM_eq_ok_iff.1 h _ howner)
  refine require_eq_ok_iff.1 (forM_eq_ok_iff.1 hkeys header ?_)
  exact List.mem_filterMap.2 ⟨e, List.mem_filter.2 ⟨he, by simp⟩, hheader⟩

/-- A function without parameters. -/
def tickFunction : Function where
  name := .text "Tick"
  flags := 1024

/-- A class whose header is a list. -/
def listedClass : ClassInfo where
  name := .text "Actor"
  cppName := .text "AActor"
  package := .text "Engine"
  header := .list [.text "Actor.h"]
  funcs := [tickFunction]

def listedSchema : Schema := { classes := [listedClass] }

/-- A configuration whose feature is a list. -/
def listedConfig : Config where
  features := ["core"]
  modules := [⟨"Engine", .text "engine", .list [.text "core"]⟩]

/-- Names alone are not enough: a header that is a list stops the files, and a feature that is a
list stops the context. -/
theorem unlisted_value_fails :
    ({ listedClass with header := .text "" }.Named ∧
      (∀ l ∈ listedSchema.packages, Label.isText l = true) ∧ pawnConfig.Usable ∧
      Check.generate listedSchema pawnConfig ≠ .ok ()) ∧
    (Schema.Named {} ∧ (∀ m ∈ listedConfig.modules, Label.isText m.module = true) ∧
      Check.generate {} listedConfig ≠ .ok ()) := by
  have hnamed : { listedClass with header := .text "" }.Named :=
    ⟨rfl, .inl rfl, .inr rfl, by decide, List.forall_mem_nil _,
      by simp [listedClass, tickFunction]⟩
  have hdeclared :
      ⟨"engine", listedClass, tickFunction⟩ ∈ listedSchema.declarations pawnConfig := by
    have henabled : ("engine", listedClass) ∈ listedSchema.enabledClasses pawnConfig :=
      Schema.mem_enabledClasses.2 ⟨.head _, rfl, by decide⟩
    exact List.mem_flatMap.2 ⟨_, henabled, .head _⟩
  obtain ⟨e, he, hslot⟩ := Schema.exists_slot hdeclared (by decide)
  have hheader : e.header = listedClass.header := congrArg Entry.header hslot
  have hempty : Schema.Named {} :=
    ⟨by decide, List.forall_mem_nil _, List.forall_mem_nil _, List.forall_mem_nil _⟩
  refine ⟨⟨hnamed, by decide, usable_pawnConfig, fun h => ?_⟩, hempty, by decide, fun h => ?_⟩
  · have hkey : listedClass.header.isKey = true :=
      Check.isKey_of_generate h he (by rw [hheader]; rfl)
    cases hkey
  · obtain ⟨hbuild, -⟩ := Check.bind_eq_ok_iff.1 (Check.bind_eq_ok_iff.1 h).1
    have hmodule := Check.forM_eq_ok_iff.1 (Check.build_eq_ok_iff.1 hbuild).1 _ (.head _)
    obtain ⟨-, hkey⟩ := Check.bind_eq_ok_iff.1 hmodule
    cases Check.require_eq_ok_iff.1 hkey

end Bindery
