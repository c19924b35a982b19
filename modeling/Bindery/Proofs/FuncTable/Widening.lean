import Bindery.Proofs.FuncTable.Exportable
import Bindery.Proofs.FuncTable.Positions
import Bindery.Proofs.Preparation
import Bindery.Proofs.Reorder.Contexts

/-!
# Wider configurations

A configuration with more features and fewer blocked entities makes more names available. No filter
turns down what it let pass before, so every function with a slot keeps one.

* `Config.Widens`, `Context.Widens`: the configurations, and the contexts that they lead to.
* `Context.Widens.element?`, `tableSkip?`, `functionSkip?`: each filter under a wider context.
* `Config.Widens.isListed`: a listed declaration stays listed.
* `wider_config_keeps_slots`: every position with a slot keeps it.
* `lookupName_of_unnamed_overload`: a function whose name is empty, looked up by its number.
-/

namespace Bindery

/-! ## Inputs -/

/-- No two entities of a sort share a name. -/
structure Schema.NamesUnique (schema : Schema) : Prop where
  classes : schema.classes.Pairwise fun a b => a.name.same b.name = false
  structs : schema.structs.Pairwise fun a b => a.name.same b.name = false
  enums : schema.enums.Pairwise fun a b => a.name.same b.name = false

/-- `b` blocks all that `b'` blocks. -/
structure Blocklist.Extends (b b' : Blocklist) : Prop where
  classes : b'.classes ⊆ b.classes
  structs : b'.structs ⊆ b.structs
  functions : b'.functions ⊆ b.functions

/-- `d` enables all that `c` enables: it has the mappings of `c`, no fewer features and no more
blocked entities. Mappings are a table, whose order does not matter. -/
structure Config.Widens (d c : Config) : Prop where
  modules : c.modules.Perm d.modules
  packages : (c.modules.map (·.package)).Nodup
  features : c.features ⊆ d.features
  blocklist : c.blocklist.Extends d.blocklist

namespace Schema.NamesUnique

variable {schema : Schema} (h : schema.NamesUnique)

include h

theorem class_eq {a b : ClassInfo} (ha : a ∈ schema.classes) (hb : b ∈ schema.classes)
    (hname : a.name.same b.name = true) : a = b :=
  Reordered.eq_of_same ⟨.refl _, h.classes⟩ ha hb hname

theorem struct_eq {a b : StructInfo} (ha : a ∈ schema.structs) (hb : b ∈ schema.structs)
    (hname : a.name.same b.name = true) : a = b :=
  Reordered.eq_of_same ⟨.refl _, h.structs⟩ ha hb hname

end Schema.NamesUnique

/-! ## Blocklists -/

/-- What a longer blocklist lets pass, a shorter one does. -/
theorem Label.isOneOf_eq_false_of_subset {names names' : List String} (hsub : names' ⊆ names)
    {l : Label} (h : l.isOneOf names = false) : l.isOneOf names' = false := by
  cases l with
  | text s =>
    simp only [isOneOf, Document.text?, Option.any_some, List.contains_eq_mem,
      decide_eq_false_iff_not] at h ⊢
    exact fun hs => h (hsub hs)
  | _ => rfl

theorem Blocklist.Extends.blocks {b b' : Blocklist} (h : b.Extends b') {owner name : Label}
    (hblocks : b.blocks owner name = false) : b'.blocks owner name = false := by
  simp only [Blocklist.blocks, List.any_eq_false] at hblocks ⊢
  intro p hp
  obtain ⟨entry, hentry, hpair⟩ := List.mem_filterMap.1 hp
  exact hblocks p (List.mem_filterMap.2 ⟨entry, h.functions hentry, hpair⟩)

/-! ## Contexts -/

/-- `ctx'` finds all that `ctx` finds. Structs are asked for what they have, so it has to find the
same ones. -/
structure Context.Widens (ctx' ctx : Context) : Prop where
  class? : ∀ name, (ctx.class? name).isSome = true → (ctx'.class? name).isSome = true
  struct? : ∀ name s, ctx.struct? name = some s → ctx'.struct? name = some s
  enum? : ∀ name, (ctx.enum? name).isSome = true → (ctx'.enum? name).isSome = true

namespace Context.Widens

variable {ctx ctx' : Context} (h : ctx'.Widens ctx)

include h

/-- Every name that was available still is. -/
theorem isAvailable {name : Label} (hname : ctx.isAvailable name = true) :
    ctx'.isAvailable name = true := by
  simp only [Context.isAvailable, Bool.or_eq_true] at hname ⊢
  rcases hname with (hclass | hstruct) | henum
  · exact .inl (.inl (h.class? name hclass))
  · obtain ⟨s, hs⟩ := Option.isSome_iff_exists.1 hstruct
    exact .inl (.inr (Option.isSome_iff_exists.2 ⟨s, h.struct? name s hs⟩))
  · exact .inr (h.enum? name henum)

theorem missing? {d : Datum} (hd : d.missing? ctx = none) : d.missing? ctx' = none :=
  Datum.missing?_eq_none_iff.2 fun name hname =>
    h.isAvailable (Datum.missing?_eq_none_iff.1 hd name hname)

/-- The element of a container still passes the filter. -/
theorem elementExportable {element : Option Datum}
    (helement : elementExportable ctx element = true) : elementExportable ctx' element = true := by
  cases element with
  | none => exact helement
  | some d =>
    simp only [Bindery.elementExportable, Bool.and_eq_true, Option.isNone_iff_eq_none] at helement ⊢
    exact ⟨helement.1, h.missing? helement.2⟩

/-! ### Elements -/

theorem ofEnum {enum underlying : Label}
    (hsome : (Element.ofEnum (some ctx) enum underlying).isSome = true) :
    (Element.ofEnum (some ctx') enum underlying).isSome = true := by
  simp only [Element.ofEnum, Context.enumRepr?, Option.isSome_map] at hsome ⊢
  exact h.enum? enum hsome

theorem ofObject {target : Option Label}
    (hsome : (Element.ofObject (some ctx) target).isSome = true) :
    (Element.ofObject (some ctx') target).isSome = true := by
  cases target with
  | none => rfl
  | some c =>
    simp only [Element.ofObject, Option.all_some] at hsome ⊢
    split at hsome
    · next hclass =>
      rw [if_pos (h.class? c hclass)]
      rfl
    · cases hsome

theorem ofStruct {struct : Label} (hsome : (Element.ofStruct (some ctx) struct).isSome = true) :
    (Element.ofStruct (some ctx') struct).isSome = true := by
  obtain ⟨e, he⟩ := Option.isSome_iff_exists.1 hsome
  obtain ⟨s, hs, hdescriptor⟩ := Option.bind_eq_some_iff.1 he
  have hsame : Element.ofStruct (some ctx') struct = some e :=
    Option.bind_eq_some_iff.2 ⟨s, h.struct? struct s hs, hdescriptor⟩
  exact Option.isSome_iff_exists.2 ⟨e, hsame⟩

/-- An element that a type had as part of a container it still has. -/
theorem element? {d : Datum} (hd : (d.element? (some ctx)).isSome = true) :
    (d.element? (some ctx')).isSome = true := by
  unfold Datum.element? at hd ⊢
  -- Kinds that refer to no entity have an element whatever the context finds.
  cases hkind : d.kind <;> simp only [hkind] at hd ⊢
  case byte =>
    cases henum : d.enum? with
    | none => rfl
    | some enum =>
      rw [henum] at hd
      exact h.ofEnum hd
  case enum =>
    cases henum : d.enum? with
    | none =>
      rw [henum] at hd
      exact hd
    | some enum =>
      rw [henum] at hd
      exact h.ofEnum hd
  case interface =>
    cases htarget : d.target? with
    | none =>
      rw [htarget] at hd
      exact hd
    | some target =>
      rw [htarget, Option.bind_some] at hd
      exact h.ofObject hd
  case struct =>
    cases hstruct : d.structName.given? with
    | none =>
      rw [hstruct] at hd
      exact hd
    | some struct =>
      rw [hstruct] at hd
      exact h.ofStruct hd
  case object => exact h.ofObject hd
  case softObject => exact h.ofObject hd
  case weakObject => exact h.ofObject hd
  case classRef => exact h.ofObject hd
  all_goals exact hd

/-- A container keeps its parts, each with its codec. -/
theorem parts? {p : Property} (hp : (p.parts? (some ctx)).isSome = true) :
    (p.parts? (some ctx')).isSome = true := by
  rw [Property.isSome_parts?_iff] at hp ⊢
  refine ⟨hp.1, fun element helement => ?_⟩
  obtain ⟨d, hd, hcodec⟩ := hp.2 element helement
  exact ⟨d, hd, h.element? hcodec⟩

/-! ### Filters -/

/-- A parameter that passed the filter passes it again. -/
theorem paramSkip? {structs structs' : List String} (hstructs : structs' ⊆ structs) {p : Property}
    (hp : paramSkip? ctx structs p = none) : paramSkip? ctx' structs' p = none := by
  rw [paramSkip?_eq_none_iff] at hp ⊢
  obtain ⟨hsupported, hdelegate, helements, hmissing, hblocked⟩ := hp
  refine ⟨hsupported, hdelegate, ?_, h.missing? hmissing,
    Label.isOneOf_eq_false_of_subset hstructs hblocked⟩
  rw [Bool.and_eq_false_iff, Bool.not_eq_false', List.all_eq_true] at helements ⊢
  exact helements.imp_right fun hall element hmem => h.elementExportable (hall element hmem)

/-- So does a function. -/
theorem functionSkip? {b b' : Blocklist} (hb : b.Extends b') {owner : Label} {names : List Label}
    {f : Function} (hf : functionSkip? ctx b owner names f = none) :
    functionSkip? ctx' b' owner names f = none := by
  rw [functionSkip?_eq_none_iff] at hf ⊢
  obtain ⟨hblocks, hnative, hwraps, hparams⟩ := hf
  exact ⟨hb.blocks hblocks, hnative, hwraps, fun p hp => h.paramSkip? hb.structs (hparams p hp)⟩

/-- And so does one that passed the second filter. -/
theorem tableSkip? {f : Function} (hf : tableSkip? ctx f = none) : tableSkip? ctx' f = none := by
  rw [tableSkip?_eq_none_iff] at hf ⊢
  exact ⟨hf.1, fun p hp hcontainer => h.parts? (hf.2 p hp hcontainer)⟩

end Context.Widens

/-! ## Wider configurations -/

namespace Context

private theorem get?_addPackages_congr {packages packages' : List (String × Label)}
    (h : ∀ key, Assoc.get? key packages = Assoc.get? key packages') (ps : List Label)
    (key : String) :
    Assoc.get? key (addPackages packages ps) = Assoc.get? key (addPackages packages' ps) := by
  induction ps generalizing packages packages' with
  | nil => exact h key
  | cons p rest ih =>
    refine ih fun key => ?_
    dsimp only
    rw [h p.spoken]
    split
    · exact h key
    · rw [Assoc.get?_append, Assoc.get?_append, h key]

end Context

namespace Config.Widens

variable {c d : Config} (h : d.Widens c)

include h

theorem get?_packagesOf (schema : Schema) (key : String) :
    Assoc.get? key (Context.packagesOf schema c) =
      Assoc.get? key (Context.packagesOf schema d) := by
  refine Context.get?_addPackages_congr (fun key => ?_) _ key
  have hpackages : (d.modules.map (·.package)).Nodup := (h.modules.map _).nodup_iff.1 h.packages
  rw [Context.mappedPackages_eq h.packages, Context.mappedPackages_eq hpackages]
  refine Assoc.get?_perm (h.modules.map _) ?_ key
  simpa [List.map_map, Function.comp_def] using h.packages

/-- No module is lost with features or mappings that are added. -/
theorem enabledModules : Context.enabledModules c ⊆ Context.enabledModules d := by
  intro m hm
  obtain ⟨mapping, hmapping, hmodule⟩ := List.mem_filterMap.1 (List.mem_eraseDups.1 hm)
  obtain ⟨hmem, henabled⟩ := List.mem_filter.1 hmapping
  refine List.mem_eraseDups.2 (List.mem_filterMap.2 ⟨mapping, List.mem_filter.2 ⟨?_, ?_⟩, hmodule⟩)
  · exact h.modules.mem_iff.1 hmem
  · obtain ⟨feature, hfeature, hcontains⟩ := (Option.any_eq_true _ _).1 henabled
    refine (Option.any_eq_true _ _).2 ⟨feature, hfeature, ?_⟩
    rw [List.contains_iff_mem] at hcontains ⊢
    exact h.features hcontains

/-- A package stays in the module it was in, since both configurations map it alike. -/
theorem enabledModule? {schema : Schema} {package : Label} {m : String}
    (hm : Context.enabledModule? (Context.packagesOf schema c) (Context.enabledModules c) package =
      some m) :
    Context.enabledModule? (Context.packagesOf schema d) (Context.enabledModules d) package =
      some m := by
  rw [Context.enabledModule?, Option.filter_eq_some_iff, List.contains_iff_mem] at hm ⊢
  rw [← h.get?_packagesOf schema]
  exact ⟨hm.1, h.enabledModules hm.2⟩

theorem enables {schema : Schema} {package : Label} (hp : schema.Enables c package) :
    schema.Enables d package := by
  obtain ⟨m, hm⟩ := Option.isSome_iff_exists.1 hp
  exact Option.isSome_iff_exists.2 ⟨m, h.enabledModule? hm⟩

/-- A class that was bound still is, in the same module. -/
theorem mem_enabledClasses {schema : Schema} {m : String} {owner : ClassInfo}
    (howner : (m, owner) ∈ schema.enabledClasses c) : (m, owner) ∈ schema.enabledClasses d := by
  rw [Schema.mem_enabledClasses] at howner ⊢
  obtain ⟨hmem, hblocked, henabled⟩ := howner
  exact ⟨hmem, Label.isOneOf_eq_false_of_subset h.blocklist.classes hblocked,
    h.enabledModule? henabled⟩

/-- The context of a wider configuration finds more. It finds the same structs, since no other one
has their names. -/
theorem unblocked {schema : Schema} (hnames : schema.NamesUnique) :
    (schema.unblocked d).Widens (schema.unblocked c) where
  class? name hname := by
    obtain ⟨owner, hmem, hblocked, henabled, hsame⟩ := Schema.isSome_class?_iff.1 hname
    exact Schema.isSome_class?_iff.2 ⟨owner, hmem,
      Label.isOneOf_eq_false_of_subset h.blocklist.classes hblocked, h.enables henabled, hsame⟩
  struct? name s hs := by
    have hmem := List.mem_of_mem_filter (List.mem_reverse.1 (List.mem_of_find?_eq_some hs))
    have hsame : s.name.same name = true := by simpa using List.find?_some hs
    obtain ⟨s', hs'⟩ : ∃ s', (schema.unblocked d).struct? name = some s' := by
      obtain ⟨s₀, hs₀, henabled, hsame₀⟩ :=
        Schema.isSome_struct?_iff.1 (Option.isSome_iff_exists.2 ⟨s, hs⟩)
      exact Option.isSome_iff_exists.1
        (Schema.isSome_struct?_iff.2 ⟨s₀, hs₀, h.enables henabled, hsame₀⟩)
    -- Both structs are declared under the name that was looked up, and names are unique.
    have hmem' := List.mem_of_mem_filter (List.mem_reverse.1 (List.mem_of_find?_eq_some hs'))
    have hsame' : name.same s'.name = true := by
      rw [Label.same_comm]
      simpa using List.find?_some hs'
    rw [hs', hnames.struct_eq hmem hmem' (Label.same_trans hsame hsame')]
  enum? name hname := by
    obtain ⟨e, hmem, henabled, hsame⟩ := Schema.isSome_enum?_iff.1 hname
    exact Schema.isSome_enum?_iff.2 ⟨e, hmem, h.enables henabled, hsame⟩

/-- A listed declaration stays listed. -/
theorem isListed {schema : Schema} (hnames : schema.NamesUnique) {x : Declaration}
    (hx : x.isListed schema c = true) : x.isListed schema d = true := by
  simp only [Declaration.isListed, Declaration.skip?, Bool.and_eq_true,
    Option.isNone_iff_eq_none] at hx ⊢
  have hwider := h.unblocked hnames
  exact ⟨hwider.functionSkip? h.blocklist hx.1, hwider.tableSkip? hx.2⟩

end Config.Widens

/-! ## The function table -/

/-- The slot of one position only. -/
theorem Schema.NamesUnique.entryAt_unique {schema : Schema} (h : schema.NamesUnique)
    {config : Config} {e : Entry} (he : e ∈ (Prepared.of schema config).table) :
    ∃! x : ClassInfo × Nat, schema.EntryAt config x.1 x.2 e := by
  obtain ⟨owner, howner, i, hentry⟩ := Schema.exists_entryAt he
  refine ⟨(owner, i), hentry, fun ⟨owner', j⟩ hentry' => ?_⟩
  have hname : owner'.name = owner.name := hentry'.className_eq.symm.trans hentry.className_eq
  obtain rfl : owner' = owner :=
    h.class_eq (Schema.mem_enabledClasses.1 hentry'.enabled).1 howner
      (hname ▸ Label.same_self _)
  exact congrArg (owner', ·) (hentry'.position_eq hentry)

/-- Under unique names a slot is that of one class and one of its declarations. If a declaration has
a slot under one configuration, it has one under every wider configuration, for the same
parameters and the same declared name. That is the name that it is looked up by, unless it is
empty. Nothing about the wider configuration keeps the table from being made, as long as the schema
names things by texts. -/
theorem wider_config_keeps_slots (schema : Schema) (c d : Config) (hnames : schema.NamesUnique)
    (hwider : d.Widens c) :
    (schema.Usable → d.Usable → Check.prepare schema d = .ok ()) ∧
    (∀ e ∈ (Prepared.of schema c).table,
      ∃! x : ClassInfo × Nat, schema.EntryAt c x.1 x.2 e) ∧
    ∀ owner i e, schema.EntryAt c owner i e → ∃ e', schema.EntryAt d owner i e' ∧
      e'.module = e.module ∧ e'.func.params = e.func.params ∧
      e'.func.declaredName = e.func.declaredName ∧
      (e.func.declaredName.isEmpty = false → e'.func.lookupName = e.func.lookupName) := by
  refine ⟨Check.prepare_of_usable, fun e he => hnames.entryAt_unique he, fun owner i e he => ?_⟩
  obtain ⟨f, hf, hrenames, hlisted⟩ := he.exists_listed
  obtain ⟨e', he', hmodule, hrenames'⟩ := Schema.exists_entryAt_of_listed
    (hwider.mem_enabledClasses he.enabled) he.super_ne hf (hwider.isListed hnames hlisted)
  have hdeclared : e'.func.declaredName = e.func.declaredName := by
    rw [hrenames.eq, hrenames'.eq]
  refine ⟨e', he', hmodule, hrenames'.params.trans hrenames.params.symm, hdeclared, fun hname => ?_⟩
  simp only [Function.lookupName, hdeclared, hname, Bool.false_eq_true, if_false]

/-! ## Two modules -/

/-- Two functions with an empty name. The first one takes an object of a class of another module. -/
def unnamedOverloads : ClassInfo :=
  { name := .text "Actor", cppName := .text "AActor", package := .text "Engine"
    funcs := [
      { name := .text "", flags := 1024
        params := [{ name := .text "Target", kind := .object, className := .text "Vehicle" }] },
      { name := .text "", flags := 1024 }] }

def unnamedSchema : Schema :=
  { classes := [unnamedOverloads,
      { name := .text "Vehicle", cppName := .text "AVehicle", package := .text "Game" }] }

/-- A configuration that maps both modules and enables those of some features. -/
def configOf (features : List String) : Config :=
  { features, modules := [⟨"Engine", .text "engine", .text "core"⟩,
      ⟨"Game", .text "game", .text "extra"⟩] }

private theorem namesUnique_unnamedSchema : unnamedSchema.NamesUnique :=
  ⟨by decide, by decide, by decide⟩

private theorem widens_configOf {features features' : List String} (h : features ⊆ features') :
    (configOf features').Widens (configOf features) :=
  ⟨.refl _, by simp [configOf], h, ⟨fun _ => id, fun _ => id, fun _ => id⟩⟩

private theorem usable_unnamedOverloads : ∀ f ∈ unnamedOverloads.funcs, f.Usable := by
  have hparam : ∀ f ∈ unnamedOverloads.funcs, ∀ p ∈ f.params,
      p.toDatum = { name := .text "Target", kind := .object, className := .text "Vehicle" } ∧
        p.elements = [] ∧ p.signature = none := by decide
  intro f hf
  refine ⟨?_, fun p hp => ?_⟩
  · revert f
    decide
  obtain ⟨hdatum, helements, hsignature⟩ := hparam f hf p hp
  refine ⟨hdatum ▸ ⟨by decide, rfl, rfl, rfl, rfl, rfl, rfl⟩, fun d hd => ?_, fun s hs => ?_⟩
  · exact absurd (helements ▸ hd) List.not_mem_nil
  · exact nomatch hsignature.symm.trans hs

private theorem usable_unnamedSchema : unnamedSchema.Usable where
  packages := by decide
  classNames := by decide
  structNames := nofun
  enumNames := nofun
  underlying := nofun
  props := by
    have hnone : ∀ c ∈ unnamedSchema.classes, c.props = [] := by decide
    intro c hc p hp
    exact absurd (hnone c hc ▸ hp) List.not_mem_nil
  funcs := by
    have hfuncs : ∀ c ∈ unnamedSchema.classes, c = unnamedOverloads ∨ c.funcs = [] := by decide
    intro c hc f hf
    rcases hfuncs c hc with rfl | hnone
    · exact usable_unnamedOverloads f hf
    · exact absurd (hnone ▸ hf) List.not_mem_nil

private theorem usable_configOf (features : List String) : (configOf features).Usable :=
  ⟨by simp [configOf, Label.isText, Document.text?], by simp [configOf, Label.isKey]⟩

/-- The second function has a slot under every configuration that enables its module. -/
theorem exists_entryAt_unnamed (features : List String)
    (henabled : Context.enabledModule? (Context.packagesOf unnamedSchema (configOf features))
      (Context.enabledModules (configOf features)) (.text "Engine") = some "engine")
    (hlisted : (Declaration.mk "engine" unnamedOverloads unnamedOverloads.funcs[1]).isListed
      unnamedSchema (configOf features) = true) :
    ∃ e, unnamedSchema.EntryAt (configOf features) unnamedOverloads 1 e := by
  obtain ⟨e, he, -, -⟩ := Schema.exists_entryAt_of_listed
    (i := 1) (Schema.mem_enabledClasses.2 ⟨by simp [unnamedSchema], rfl, henabled⟩) (by decide)
    rfl hlisted
  exact ⟨e, he⟩

/-- The wider configuration enables the module of the parameter's class. -/
theorem wider_config_keeps_slots_unnamed :
    unnamedSchema.NamesUnique ∧ (configOf ["core", "extra"]).Widens (configOf ["core"]) ∧
    Check.prepare unnamedSchema (configOf ["core", "extra"]) = .ok () ∧
    ∃ e, unnamedSchema.EntryAt (configOf ["core", "extra"]) unnamedOverloads 1 e ∧
      e.func.params = [] := by
  have hwider : (configOf ["core", "extra"]).Widens (configOf ["core"]) := widens_configOf (by simp)
  obtain ⟨hprepare, -, hkeeps⟩ :=
    wider_config_keeps_slots unnamedSchema _ _ namesUnique_unnamedSchema hwider
  obtain ⟨e, he⟩ := exists_entryAt_unnamed ["core"] rfl (by decide +kernel)
  obtain ⟨e', he', -⟩ := hkeeps _ _ e he
  obtain ⟨f, hf, hrenames, -⟩ := he'.exists_listed
  obtain rfl : unnamedOverloads.funcs[1] = f := Option.some.inj hf
  exact ⟨namesUnique_unnamedSchema, hwider, hprepare usable_unnamedSchema (usable_configOf _), e',
    he', hrenames.params⟩

/-- The second function has a slot under both configurations. It is looked up by its empty name
under one of them, and under the wider one by a number that it got as an overload. -/
theorem lookupName_of_unnamed_overload :
    unnamedSchema.NamesUnique ∧ (configOf ["core", "extra"]).Widens (configOf ["core"]) ∧
    (∃ e, unnamedSchema.EntryAt (configOf ["core"]) unnamedOverloads 1 e ∧
      e.func.lookupName = .text "") ∧
    (∃ e, unnamedSchema.EntryAt (configOf ["core", "extra"]) unnamedOverloads 1 e) ∧
    ∀ e, unnamedSchema.EntryAt (configOf ["core", "extra"]) unnamedOverloads 1 e →
      e.func.lookupName = .text "_1" := by
  have hbound : (unnamedOverloads.boundAt? (unnamedSchema.unblocked (configOf ["core"])) {}
      1).map (·.lookupName) = some (.text "") := by decide +kernel
  have hbound' : (unnamedOverloads.boundAt?
      (unnamedSchema.unblocked (configOf ["core", "extra"])) {} 1).map (·.lookupName) =
      some (.text "_1") := by decide +kernel
  obtain ⟨e, he⟩ := exists_entryAt_unnamed ["core"] rfl (by decide +kernel)
  refine ⟨namesUnique_unnamedSchema, widens_configOf (by simp), ⟨e, he, ?_⟩,
    exists_entryAt_unnamed ["core", "extra"] rfl (by decide +kernel), fun e' he' => ?_⟩
  · exact Option.some.inj ((congrArg (Option.map _) he.bound.symm).trans hbound)
  · exact Option.some.inj ((congrArg (Option.map _) he'.bound.symm).trans hbound')

end Bindery
