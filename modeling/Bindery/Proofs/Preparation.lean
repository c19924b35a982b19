import Bindery.Check.Filter
import Bindery.Proofs.Context
import Bindery.Proofs.Document
import Bindery.Proofs.Filter.Availability
import Bindery.Proofs.Filter.Overloads

/-!
# Preparation

What passes the checks up to the function table, and what a context holds once it was built,
filtered and numbered, said by the schema and the configuration. Checks only find fault with values
of the wrong sort, and one that finds no fault found none at any of its steps: a schema that has
texts where it names things can be prepared under every configuration.

* `Check.bind_eq_ok_iff`, `forM_eq_ok_iff`: the steps of a check.
* `Check.build_eq_ok_iff`: the steps before entities are filtered.
* `Check.comparable_classes`: the class names of a module can be put in order.
* `Check.isText_of_bindable`: a function that can be bound has a text for a name.
* `Schema.module?`: the enabled module that a package is in.
* `Schema.mem_classes_at`, `mem_structs_at`, `mem_enums_at`: the entities of a module.
* `Schema.of_class?`, `of_struct?`, `of_enum?`: the entity that a name finds.
* `Schema.binding?_of_class?`, `binding?_of_struct?`, `binding?_of_enum?`: how other files refer
  to it.
* `Datum.Usable`, `Property.Usable`, `Function.Usable`: entries without values of the wrong sort.
* `Schema.Usable`, `Config.Usable`: the inputs of a run.
* `Check.prepare_of_usable`: they pass all checks up to the function table.
-/

namespace Bindery

/-! ## Steps of checks -/

namespace Check

/-- A check in two steps passes just if both steps do. -/
theorem bind_eq_ok_iff {a : Check} {b : Unit → Check} :
    (a >>= b) = .ok () ↔ a = .ok () ∧ b () = .ok () := by
  cases a with
  | ok u => simp [bind, Except.bind]
  | error e => simp [bind, Except.bind]

/-- A check of each element passes just if every element does. -/
theorem forM_eq_ok_iff {α : Type} {check : α → Check} {xs : List α} :
    xs.forM check = .ok () ↔ ∀ a ∈ xs, check a = .ok () := by
  induction xs with
  | nil => exact ⟨fun _ => nofun, fun _ => rfl⟩
  | cons a rest ih =>
    rw [List.forall_mem_cons, ← ih]
    exact bind_eq_ok_iff

/-- What a schema and a configuration pass before entities are filtered. -/
theorem build_eq_ok_iff {schema : Schema} {config : Config} :
    build schema config = .ok () ↔
      config.modules.forM moduleMapping = .ok () ∧ texts schema.packages = .ok () ∧
      groups (·.name) (Context.build schema config).classes = .ok () ∧
      groups (·.name) (Context.build schema config).structs = .ok () ∧
      groups (·.name) (Context.build schema config).enums = .ok () ∧
      texts ((config.modules.filter (·.isEnabled config.features)).map (·.module)) = .ok () := by
  simp only [build, bind_eq_ok_iff]

theorem comparable_of_groups {α : Type} {name : α → Label} {groups : Groups α}
    (h : Check.groups name groups = .ok ()) :
    ∀ g ∈ groups, Label.comparable (g.2.map name) = true := fun g hg =>
  require_eq_ok_iff.1 (bind_eq_ok_iff.1 (forM_eq_ok_iff.1 h g hg)).2

/-- The class names of a module can be put in order. -/
theorem comparable_classes {schema : Schema} {config : Config}
    (h : build schema config = .ok ()) {g : String × List ClassInfo}
    (hg : g ∈ (Context.build schema config).classes) :
    Label.comparable (g.2.map (·.name)) = true :=
  comparable_of_groups (build_eq_ok_iff.1 h).2.2.1 g hg

/-- A function that can be bound has a text for a name. -/
theorem isText_of_bindable {ctx : Context} {blocklist : Blocklist} {owner : Label}
    {names : List Label} {f : Function} (h : function ctx blocklist owner names f = .ok ())
    (hf : functionSkip? ctx blocklist owner names f = none) : f.name.isText = true := by
  obtain ⟨hblocked, hnative, -⟩ := functionSkip?_eq_none_iff.1 hf
  rw [function, if_neg (by simp [hblocked, hnative])] at h
  exact require_eq_ok_iff.1 (bind_eq_ok_iff.1 h).1

/-- Filtering checked every function of a class that is not blocked. -/
theorem function_of_filter {ctx : Context} {blocklist : Blocklist}
    (h : filter ctx blocklist = .ok ()) {g : String × List ClassInfo}
    (hg : g ∈ (ctx.unblocked blocklist).classes) {c : ClassInfo} (hc : c ∈ g.2) {f : Function}
    (hf : f ∈ c.funcs) :
    function (ctx.unblocked blocklist) blocklist c.name (c.funcs.map (·.name)) f = .ok () := by
  rw [filter, forM_eq_ok_iff] at h
  have hmembers := forM_eq_ok_iff.1 (h g hg) c hc
  rw [members, bind_eq_ok_iff, bind_eq_ok_iff] at hmembers
  exact forM_eq_ok_iff.1 hmembers.2.2 f hf

/-- What a schema and a configuration pass up to the function table. -/
theorem prepare_eq_ok_iff {schema : Schema} {config : Config} :
    prepare schema config = .ok () ↔
      build schema config = .ok () ∧
      filter (Context.build schema config) config.blocklist = .ok () ∧
      table ((Context.build schema config).filtered config.blocklist).1 = .ok () := by
  simp only [prepare, bind_eq_ok_iff]

end Check

/-! ## Prepared contexts -/

section Prepared

variable {schema : Schema} {config : Config} {name : Label} {m : String}

theorem Label.exists_of_isText {l : Label} (h : l.isText = true) : ∃ s, l = .text s := by
  cases l with
  | text s => exact ⟨s, rfl⟩
  | _ => cases h

/-- The entities of a module are those that the grouping puts there. -/
theorem Groups.mem_at_of {α : Type} {moduleOf : α → String} {name : α → Label} {entities : List α}
    {a : α} : a ∈ (Groups.of moduleOf name entities).at m ↔ a ∈ entities ∧ moduleOf a = m := by
  rw [Groups.mem_at (Groups.nodup_modules _ _ _), (Groups.members_of_perm _ _ _).mem_iff]
  constructor
  · intro h
    obtain ⟨b, hb, he⟩ := List.mem_map.1 h
    obtain ⟨rfl, rfl⟩ := Prod.mk.inj he
    exact ⟨hb, rfl⟩
  · rintro ⟨ha, rfl⟩
    exact List.mem_map_of_mem ha

namespace Schema

/-! ### Modules -/

/-- The enabled module that a package is in. -/
abbrev module? (schema : Schema) (config : Config) (package : Label) : Option String :=
  Context.enabledModule? (Context.packagesOf schema config) (Context.enabledModules config) package

/-- A module that a package is in is one of the enabled modules. -/
theorem mem_modules_of_module? {package : Label} (h : schema.module? config package = some m) :
    m ∈ (Prepared.of schema config).context.modules :=
  List.mem_mergeSort.2 (List.contains_iff_mem.1 (Option.filter_eq_some_iff.1 h).2)

/-- Members of a group are in an enabled module, that of their packages. -/
theorem mem_filter_module?_iff {α : Type} {package : α → Label} {entities : List α} {a : α} :
    (a ∈ entities.filter (fun a => (schema.module? config (package a)).isSome) ∧
      (schema.module? config (package a)).getD "" = m) ↔
    a ∈ entities ∧ schema.module? config (package a) = some m := by
  rw [List.mem_filter, and_assoc]
  refine and_congr_right fun _ => ?_
  cases schema.module? config (package a) <;> simp

/-- The classes of a module are the enabled ones, filtered. -/
theorem mem_classes_at {c : ClassInfo} :
    c ∈ (Prepared.of schema config).context.classes.at m ↔
      ∃ declared, (m, declared) ∈ schema.enabledClasses config ∧
        (filterClass (schema.unblocked config) config.blocklist declared).1 = c := by
  have hmodules : ((Prepared.of schema config).context.classes.map (·.1)) =
      (Context.build schema config).classes.map (·.1) := by
    simp only [Prepared.of, Context.filtered, Context.unblocked, List.map_map]
    rfl
  rw [Groups.mem_at (hmodules ▸ Groups.nodup_modules _ _ _)]
  refine (members_filtered_perm.mem_iff (a := (m, c))).trans ?_
  simp [List.mem_map]

/-- The structs of a module are those of the schema whose package is in it. -/
theorem mem_structs_at {s : StructInfo} :
    s ∈ (Prepared.of schema config).context.structs.at m ↔
      s ∈ schema.structs ∧ schema.module? config s.package = some m :=
  Groups.mem_at_of.trans mem_filter_module?_iff

theorem mem_enums_at {e : EnumInfo} :
    e ∈ (Prepared.of schema config).context.enums.at m ↔
      e ∈ schema.enums ∧ schema.module? config e.package = some m :=
  Groups.mem_at_of.trans mem_filter_module?_iff

/-! ### Names -/

/-- A class that a name finds is declared, enabled and not blocked, and the name is its own. -/
theorem of_class? {c : ClassInfo} (h : (Prepared.of schema config).context.class? name = some c) :
    c ∈ schema.classes ∧ c.name.isOneOf config.blocklist.classes = false ∧
      schema.Enables config c.package ∧ c.name.same name = true := by
  have hname : c.name.same name = true :=
    List.find?_some (p := fun c : ClassInfo => c.name.same name) h
  obtain ⟨hclass, hblocked⟩ :=
    List.mem_filter.1 (List.mem_reverse.1 (List.mem_of_find?_eq_some h))
  obtain ⟨hclass, henabled⟩ := List.mem_filter.1 hclass
  exact ⟨hclass, by simpa using hblocked, henabled, hname⟩

theorem of_struct? {s : StructInfo}
    (h : (Prepared.of schema config).context.struct? name = some s) :
    s ∈ schema.structs ∧ schema.Enables config s.package ∧ s.name.same name = true := by
  have hname : s.name.same name = true :=
    List.find?_some (p := fun s : StructInfo => s.name.same name) h
  obtain ⟨hs, henabled⟩ := List.mem_filter.1 (List.mem_reverse.1 (List.mem_of_find?_eq_some h))
  exact ⟨hs, henabled, hname⟩

theorem of_enum? {e : EnumInfo} (h : (Prepared.of schema config).context.enum? name = some e) :
    e ∈ schema.enums ∧ schema.Enables config e.package ∧ e.name.same name = true := by
  have hname : e.name.same name = true :=
    List.find?_some (p := fun e : EnumInfo => e.name.same name) h
  obtain ⟨he, henabled⟩ := List.mem_filter.1 (List.mem_reverse.1 (List.mem_of_find?_eq_some h))
  exact ⟨he, henabled, hname⟩

/-! ### References from other files -/

/-- The package finds its module among all that are mapped. -/
private theorem moduleForPackage?_of_module? {package : Label} (htext : package.isText = true)
    (h : schema.module? config package = some m) :
    (Prepared.of schema config).context.moduleForPackage? package = some (.text m) := by
  obtain ⟨l, hl, hm⟩ := Option.bind_eq_some_iff.1 (Option.filter_eq_some_iff.1 h).1
  -- The mapping holds labels, and only a text among them names a module.
  obtain ⟨p, rfl⟩ := Label.exists_of_isText htext
  obtain rfl := Document.text?_eq_some_iff.1 hm
  exact hl

/-- The file of an entity is in the module of its package. -/
theorem moduleOf?_of_packageOf? {package : Label} (htext : package.isText = true)
    (henabled : schema.Enables config package)
    (h : (Prepared.of schema config).context.packageOf? name = some package) :
    ∃ m, schema.module? config package = some m ∧
      (Prepared.of schema config).context.moduleOf? name = some m := by
  obtain ⟨m, hm⟩ := Option.isSome_iff_exists.1 henabled
  refine ⟨m, hm, ?_⟩
  rw [Context.moduleOf?, h]
  show ((Prepared.of schema config).context.moduleForPackage? package).bind _ = _
  rw [moduleForPackage?_of_module? htext hm]
  rfl

variable (hpackages : ∀ l ∈ schema.packages, l.isText = true)

include hpackages

/-- A class goes by its own name, in the module of its package. -/
theorem binding?_of_class? {c : ClassInfo}
    (h : (Prepared.of schema config).context.class? name = some c) :
    ∃ m, schema.module? config c.package = some m ∧
      (Prepared.of schema config).context.binding? name = some ⟨m, name⟩ := by
  obtain ⟨hc, -, henabled, -⟩ := of_class? h
  have htext : c.package.isText = true :=
    hpackages _ (List.mem_append_left _ (List.mem_append_left _ (List.mem_map_of_mem hc)))
  have hpackage : (Prepared.of schema config).context.packageOf? name = some c.package := by
    rw [Context.packageOf?, h]
    rfl
  obtain ⟨m, hm, hmodule⟩ := moduleOf?_of_packageOf? htext henabled hpackage
  refine ⟨m, hm, ?_⟩
  simp [Context.binding?, Context.symbol?, h, hmodule]

/-- A struct goes by its C++ name, provided no class or enum has its name. -/
theorem binding?_of_struct? {s : StructInfo}
    (hclass : (Prepared.of schema config).context.class? name = none)
    (henum : (Prepared.of schema config).context.enum? name = none)
    (h : (Prepared.of schema config).context.struct? name = some s) :
    ∃ m, schema.module? config s.package = some m ∧
      (Prepared.of schema config).context.binding? name = some ⟨m, s.cppName⟩ := by
  obtain ⟨hs, henabled, -⟩ := of_struct? h
  have htext : s.package.isText = true :=
    hpackages _ (List.mem_append_left _ (List.mem_append_right _ (List.mem_map_of_mem hs)))
  have hpackage : (Prepared.of schema config).context.packageOf? name = some s.package := by
    rw [Context.packageOf?, hclass, h]
    rfl
  obtain ⟨m, hm, hmodule⟩ := moduleOf?_of_packageOf? htext henabled hpackage
  refine ⟨m, hm, ?_⟩
  simp [Context.binding?, Context.symbol?, hclass, henum, h, hmodule]

theorem binding?_of_enum? {e : EnumInfo}
    (hclass : (Prepared.of schema config).context.class? name = none)
    (hstruct : (Prepared.of schema config).context.struct? name = none)
    (h : (Prepared.of schema config).context.enum? name = some e) :
    ∃ m, schema.module? config e.package = some m ∧
      (Prepared.of schema config).context.binding? name = some ⟨m, name⟩ := by
  obtain ⟨he, henabled, -⟩ := of_enum? h
  have htext : e.package.isText = true :=
    hpackages _ (List.mem_append_right _ (List.mem_map_of_mem he))
  have hpackage : (Prepared.of schema config).context.packageOf? name = some e.package := by
    rw [Context.packageOf?, hclass, hstruct, h]
    rfl
  obtain ⟨m, hm, hmodule⟩ := moduleOf?_of_packageOf? htext henabled hpackage
  refine ⟨m, hm, ?_⟩
  simp [Context.binding?, Context.symbol?, h, hmodule]

end Schema

end Prepared

/-! ## Usable schemas -/

/-- Every name that a type refers to can be looked up, and so can the integer type of its enum. -/
structure Datum.Usable (d : Datum) : Prop where
  known : d.kind ≠ .absent ∧ d.kind ≠ .unusable
  className : d.className.isKey = true
  metaClassName : d.metaClassName.isKey = true
  structName : d.structName.isKey = true
  enumName : d.enumName.isKey = true
  interfaceName : d.interfaceName.isKey = true
  enumUnderlying : d.enumUnderlying.isKey = true

structure Property.Usable (p : Property) : Prop where
  datum : p.toDatum.Usable
  elements : ∀ d, some d ∈ p.elements → d.Usable
  signature : ∀ s, p.signature = some s → ∀ d ∈ s.params, d.Usable

structure Function.Usable (f : Function) : Prop where
  name : f.name.isText = true
  params : ∀ p ∈ f.params, p.Usable

/-- Packages, entities and functions are named by texts, and all types can be used. -/
structure Schema.Usable (schema : Schema) : Prop where
  packages : ∀ l ∈ schema.packages, l.isText = true
  classNames : ∀ c ∈ schema.classes, c.name.isText = true
  structNames : ∀ s ∈ schema.structs, s.name.isText = true
  enumNames : ∀ e ∈ schema.enums, e.name.isText = true
  underlying : ∀ e ∈ schema.enums, e.underlying.isKey = true
  props : ∀ c ∈ schema.classes, ∀ p ∈ c.props, p.Usable
  funcs : ∀ c ∈ schema.classes, ∀ f ∈ c.funcs, f.Usable

/-- Modules are named by texts. -/
structure Config.Usable (config : Config) : Prop where
  modules : ∀ m ∈ config.modules, Label.isText m.module = true
  features : ∀ m ∈ config.modules, Label.isKey m.feature = true

theorem Label.isKey_of_isText {l : Label} (h : l.isText = true) : l.isKey = true := by
  cases l <;> first | rfl | cases h

theorem Label.eq_of_given? {l name : Label} (h : l.given? = some name) : l = name := by
  unfold given? at h
  split at h
  · cases h
  · exact Option.some.inj h

/-! ### Names in types -/

namespace Datum.Usable

variable {d : Datum} (h : d.Usable)

include h

theorem enum? {name : Label} (hname : d.enum? = some name) : name.isKey = true :=
  Label.eq_of_given? hname ▸ h.enumName

/-- The class that a reference refers to can be looked up. -/
theorem target? {name : Label} (hname : d.target? = some name) : name.isKey = true := by
  unfold Datum.target? at hname
  split at hname
  case h_4 =>
    rcases Option.or_eq_some_iff.1 hname with hmeta | ⟨-, hclass⟩
    · exact Label.eq_of_given? hmeta ▸ h.metaClassName
    · exact Label.eq_of_given? hclass ▸ h.className
  case h_5 => exact Label.eq_of_given? hname ▸ h.interfaceName
  case h_6 => cases hname
  all_goals exact Label.eq_of_given? hname ▸ h.className

/-- So can every name in a type. -/
theorem references : ∀ name ∈ d.references, name.isKey = true := by
  intro name hname
  obtain ⟨l, hl, hgiven⟩ := List.mem_filterMap.1 hname
  obtain rfl := Label.eq_of_given? hgiven
  have hkeys := h
  simp only [List.mem_cons, List.not_mem_nil, or_false] at hl
  rcases hl with rfl | rfl | rfl | rfl | rfl
  · exact h.className
  · exact h.structName
  · exact h.enumName
  · exact h.interfaceName
  · split
    · exact h.metaClassName
    · rfl

/-- And every name that a delegate's parameter is checked for. -/
theorem delegateReferences : ∀ name ∈ d.delegateReferences, name.isKey = true := by
  intro name hname
  obtain ⟨l, hl, hgiven⟩ := List.mem_filterMap.1 hname
  obtain rfl := Label.eq_of_given? hgiven
  simp only [List.mem_cons, List.not_mem_nil, or_false] at hl
  rcases hl with rfl | rfl | rfl
  · exact h.className
  · exact h.structName
  · exact h.enumName

end Datum.Usable

namespace Check

/-- The direction of `bind_eq_ok_iff` that passing checks are built with. -/
theorem bind_ok {a : Check} {b : Unit → Check} (ha : a = .ok ()) (hb : b () = .ok ()) :
    (a >>= b) = .ok () := bind_eq_ok_iff.2 ⟨ha, hb⟩

theorem when_ok {p : Prop} [Decidable p] {check : Check} (h : p → check = .ok ()) :
    (if p then check else pure ()) = .ok () := by
  split
  · next hp => exact h hp
  · rfl

theorem key_ok {l : Label} (h : l.isKey = true) : key l = .ok () := require_eq_ok_iff.2 h

theorem whenSome_ok {α : Type} {check : α → Check} {o : Option α}
    (h : ∀ a, o = some a → check a = .ok ()) : whenSome check o = .ok () := by
  cases o with
  | none => rfl
  | some a => exact h a rfl

/-- Lookups of keys find no fault, however many of them are made. -/
private theorem references_ok {ctx : Context} {names : List Label}
    (h : ∀ name ∈ names, name.isKey = true) : references ctx names = .ok () :=
  upTo_eq_ok_of_all fun name hname => key_ok (h name hname)

private theorem kind_ok {d : Datum} (h : d.Usable) : kind d = .ok () :=
  bind_ok (require_eq_ok_iff.2 (decide_eq_true h.known.1))
    (require_eq_ok_iff.2 (decide_eq_true h.known.2))

private theorem underlying_ok {l : Label} (h : l.isKey = true) : underlying l = .ok () :=
  whenSome_ok fun _ hname => key_ok (Label.eq_of_given? hname ▸ h)

theorem mapping_ok {d : Datum} (h : d.Usable) : mapping d = .ok () :=
  bind_ok (kind_ok h) (when_ok fun _ => underlying_ok h.enumUnderlying)

/-! ### Members of classes -/

section Members

variable {ctx : Context}

private theorem delegateParam_ok {d : Datum} (h : d.Usable) : delegateParam ctx d = .ok () :=
  bind_ok (kind_ok h) (when_ok fun _ => references_ok h.delegateReferences)

theorem property_ok {p : Property} (h : p.Usable) : property ctx p = .ok () := by
  refine bind_ok (kind_ok h.datum) (when_ok fun _ => ?_)
  split
  · exact whenSome_ok fun s hs => upTo_eq_ok_of_all fun d hd =>
      delegateParam_ok (h.signature s hs d hd)
  · exact references_ok h.datum.references

private theorem paramElement_ok {d : Datum} (h : d.Usable) : paramElement ctx d = .ok () :=
  bind_ok (kind_ok h) (when_ok fun _ => references_ok h.references)

private theorem param_ok {p : Property} (h : p.Usable) : param ctx p = .ok () := by
  have helements : upTo (fun e => !elementExportable ctx e) (whenSome (paramElement ctx))
      p.elements = .ok () :=
    upTo_eq_ok_of_all fun e he => whenSome_ok fun d hd =>
      paramElement_ok (h.elements d (hd ▸ he))
  have hnames : (do
      references ctx p.references
      if (p.missing? ctx).isNone then key p.structName : Check) = .ok () :=
    bind_ok (references_ok h.datum.references) (when_ok fun _ => key_ok h.datum.structName)
  refine bind_ok (kind_ok h.datum) (when_ok fun _ => ?_)
  dsimp only
  split
  · exact bind_ok helements (when_ok fun _ => hnames)
  · exact when_ok fun _ => hnames

private theorem function_ok {blocklist : Blocklist} {owner : Label} {names : List Label}
    {f : Function}
    (h : f.Usable) : function ctx blocklist owner names f = .ok () := by
  unfold function
  split
  · rfl
  · exact bind_ok (require_eq_ok_iff.2 h.name) (when_ok fun _ =>
      upTo_eq_ok_of_all fun p hp => param_ok (h.params p hp))

/-- A class of usable properties and functions passes. -/
private theorem members_ok {blocklist : Blocklist} {c : ClassInfo}
    (hprops : ∀ p ∈ c.props, p.Usable)
    (hfuncs : ∀ f ∈ c.funcs, f.Usable) : members ctx blocklist c = .ok () := by
  refine bind_ok (forM_eq_ok_iff.2 fun p hp => property_ok (hprops p hp))
    (bind_ok (forM_eq_ok_iff.2 fun l hl => ?_)
      (forM_eq_ok_iff.2 fun f hf => function_ok (hfuncs f hf)))
  obtain ⟨f, hf, rfl⟩ := List.mem_map.1 hl
  exact key_ok (Label.isKey_of_isText (hfuncs f hf).name)

end Members

/-! ### Functions of the table -/

section Table

variable {ctx : Context} (henums : ∀ e ∈ ctx.enumIndex, e.underlying.isKey = true)

include henums

/-- The layout of an enum can be made if the index holds keys only. -/
theorem layoutOf_ok (name : Label) : layoutOf ctx name = .ok () :=
  whenSome_ok fun e he =>
    key_ok (henums e (List.mem_reverse.1 (List.mem_of_find?_eq_some he)))

private theorem element_ok {d : Datum} (h : d.Usable) : element (some ctx) d = .ok () := by
  refine bind_ok (kind_ok h) ?_
  split
  · refine whenSome_ok fun enum henum => bind_ok (key_ok (h.enum? henum)) (when_ok fun _ => ?_)
    exact bind_ok (underlying_ok h.enumUnderlying) (layoutOf_ok henums enum)
  split
  · exact whenSome_ok fun name hname => key_ok (Label.eq_of_given? hname ▸ h.structName)
  · exact whenSome_ok fun name hname => key_ok (h.target? hname)

theorem parts_ok {p : Property} (h : p.Usable) : parts (some ctx) p = .ok () := by
  unfold parts
  split
  · refine upTo_eq_ok_of_all fun e he => whenSome_ok fun d hd => element_ok henums (h.elements d ?_)
    exact hd ▸ he
  · rfl

private theorem tableFunction_ok {f : Function} (h : ∀ p ∈ f.params, p.Usable) :
    tableFunction ctx f = .ok () :=
  bind_ok (upTo_eq_ok_of_all fun p hp => mapping_ok (h p hp).datum)
    (when_ok fun _ => upTo_eq_ok_of_all fun p hp => parts_ok henums (h p hp))

end Table

/-! ### All stages -/

/-- Entities that are named by texts can be grouped and sorted. -/
private theorem groups_ok {α : Type} {name : α → Label} {moduleOf : α → String} {entities : List α}
    (h : ∀ a ∈ entities, (name a).isText = true) :
    groups name (Groups.of moduleOf name entities) = .ok () := by
  refine forM_eq_ok_iff.2 fun g hg => ?_
  have htext : ∀ l ∈ g.2.map name, l.isText = true := by
    intro l hl
    obtain ⟨a, ha, rfl⟩ := List.mem_map.1 hl
    obtain ⟨m, -, rfl⟩ := List.mem_map.1 hg
    exact h a (List.mem_of_mem_filter ((List.mergeSort_perm _ _).mem_iff.1 ha))
  refine bind_ok (forM_eq_ok_iff.2 fun l hl => key_ok (Label.isKey_of_isText (htext l hl))) ?_
  refine require_eq_ok_iff.2 ?_
  rw [Label.comparable, List.all_eq_true.2 htext, Bool.or_true, Bool.true_or]

variable {schema : Schema} {config : Config} (hs : schema.Usable)

include hs

private theorem build_ok (hc : config.Usable) : build schema config = .ok () := by
  refine build_eq_ok_iff.2 ⟨forM_eq_ok_iff.2 fun m hm => ?_, ?_, groups_ok fun c hc => ?_,
    groups_ok fun s hs' => ?_, groups_ok fun e he => ?_, ?_⟩
  · exact bind_ok (key_ok (Label.isKey_of_isText (hc.modules m hm))) (key_ok (hc.features m hm))
  · exact require_eq_ok_iff.2 (List.all_eq_true.2 hs.packages)
  · exact hs.classNames c (List.mem_of_mem_filter hc)
  · exact hs.structNames s (List.mem_of_mem_filter hs')
  · exact hs.enumNames e (List.mem_of_mem_filter he)
  · refine require_eq_ok_iff.2 (List.all_eq_true.2 fun l hl => ?_)
    obtain ⟨m, hm, rfl⟩ := List.mem_map.1 hl
    exact hc.modules m (List.mem_of_mem_filter hm)

/-- Every class of the context is one of the schema. -/
private theorem filter_ok : filter (Context.build schema config) config.blocklist = .ok () := by
  refine forM_eq_ok_iff.2 fun g hg => forM_eq_ok_iff.2 fun c hc => ?_
  have hmem : (g.1, c) ∈ schema.enabledClasses config :=
    (Context.members_unblocked_perm schema config).mem_iff.1
      (Groups.mem_members.2 ⟨g, hg, rfl, hc⟩)
  have hclass := (Schema.mem_enabledClasses.1 hmem).1
  exact members_ok (hs.props c hclass) (hs.funcs c hclass)

private theorem table_ok :
    table ((Context.build schema config).filtered config.blocklist).1 = .ok () := by
  refine forM_eq_ok_iff.2 fun c hc => ?_
  split
  · rfl
  refine forM_eq_ok_iff.2 fun g hg => tableFunction_ok (fun e he => ?_) ?_
  · exact hs.underlying e (List.mem_of_mem_filter he)
  -- The functions of a filtered class are those of the class, renamed.
  have hmem := (Context.classesInOrder_perm _).mem_iff.1 hc
  rw [Context.members_filtered] at hmem
  obtain ⟨c', hc', rfl⟩ := List.mem_map.1 hmem
  have hclass := (Schema.mem_enabledClasses.1
    ((Context.members_unblocked_perm schema config).mem_iff.1 hc')).1
  obtain ⟨f, hf, hrenames⟩ := exists_of_mem_right (renameOverloads_renames _) hg
  rw [hrenames.params]
  exact (hs.funcs c'.2 hclass f (List.mem_of_mem_filter hf)).params

/-- A schema and a configuration that name things by texts can be prepared. -/
theorem prepare_of_usable (hc : config.Usable) : prepare schema config = .ok () :=
  bind_ok (build_ok hs hc) (bind_ok (filter_ok hs) (table_ok hs))

end Check

end Bindery
