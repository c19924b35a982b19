import Bindery.Proofs.FuncTable.Exportable
import Bindery.Proofs.FuncTable.Positions
import Bindery.Proofs.Reorder.Contexts

/-!
# Functions in another order

A schema whose classes declare their functions in another order. Whatever only asks for names and
packages of classes cannot tell it from the first one, so the same functions pass both filters and
the same checks succeed. Which overload got which name is another matter.

* `ClassInfo.Shuffled`, `Schema.Shuffled`: the classes, and the schemas.
* `Schema.Shuffled.agrees`: the contexts that both filters look names up in.
* `Schema.passed`, `Schema.Shuffled.passed`: what the first filter lets pass.
* `Check.prepare_shuffled`: one of the schemas can be prepared if the other one can.
* `Schema.Shuffled.table_perm`: both tables have slots for the same functions.
-/

namespace Bindery

/-! ## Lists that correspond -/

section Related

variable {α β γ δ : Type} {R : α → β → Prop} {xs : List α} {ys : List β}

/-- What related members have in common is the same of the whole lists. -/
theorem map_eq_of_forall₂ (h : List.Forall₂ R xs ys) {f : α → γ} {g : β → γ}
    (hfg : ∀ x y, R x y → f x = g y) : xs.map f = ys.map g := by
  rw [← List.forall₂_eq_eq_eq]
  exact List.rel_map (fun x y hxy => hfg x y hxy) h

private theorem forall₂_filter (h : List.Forall₂ R xs ys) {p : α → Bool} {q : β → Bool}
    (hpq : ∀ x y, R x y → p x = q y) : List.Forall₂ R (xs.filter p) (ys.filter q) :=
  List.rel_filter (fun x y hxy => by simp only [hpq x y hxy]) h

/-- Related members that give the same results, up to their order, do so together. -/
theorem perm_flatMap_of_forall₂ (h : List.Forall₂ R xs ys) {f : α → List γ} {g : β → List γ}
    (hfg : ∀ x ∈ xs, ∀ y ∈ ys, R x y → (f x).Perm (g y)) :
    (xs.flatMap f).Perm (ys.flatMap g) := by
  induction h with
  | nil => exact .nil
  | cons hxy _ ih =>
    rw [List.flatMap_cons, List.flatMap_cons]
    exact (hfg _ (.head _) _ (.head _) hxy).append
      (ih fun x hx y hy => hfg x (.tail _ hx) y (.tail _ hy))

end Related

/-! ## Inputs -/

/-- A class without its functions. -/
def ClassInfo.bare (c : ClassInfo) : ClassInfo := { c with funcs := [] }

/-- The same class with its functions in another order. -/
structure ClassInfo.Shuffled (c c' : ClassInfo) : Prop where
  bare : c.bare = c'.bare
  funcs : c.funcs.Perm c'.funcs

/-- The same schema with the functions of each class in another order. -/
structure Schema.Shuffled (s t : Schema) : Prop where
  classes : List.Forall₂ ClassInfo.Shuffled s.classes t.classes
  structs : s.structs = t.structs
  enums : s.enums = t.enums

/-! ## Classes -/

/-- A function is only left out for a name that its class declares, wherever it does. -/
private theorem functionSkip?_names {names names' : List Label} (hnames : names.Perm names')
    (ctx : Context) (blocklist : Blocklist) (owner : Label) :
    functionSkip? ctx blocklist owner names = functionSkip? ctx blocklist owner names' := by
  have hcontains (l : Label) : names.contains l = names'.contains l := hnames.contains_eq
  funext f
  simp only [functionSkip?, hcontains]

namespace ClassInfo.Shuffled

variable {c c' : ClassInfo} (h : c.Shuffled c')

theorem refl (c : ClassInfo) : c.Shuffled c := ⟨rfl, .refl _⟩

include h

theorem name : c.name = c'.name := congrArg (fun c => c.name) h.bare

theorem package : c.package = c'.package := congrArg (fun c => c.package) h.bare

theorem super : c.super = c'.super := congrArg (fun c => c.super) h.bare

theorem props : c.props = c'.props := congrArg (fun c => c.props) h.bare

theorem slot (module : String) (f : Function) : c.slot module f = c'.slot module f := by
  change c.bare.slot module f = c'.bare.slot module f
  rw [h.bare]

theorem names : (c.funcs.map (·.name)).Perm (c'.funcs.map (·.name)) := h.funcs.map _

/-- The first filter keeps the same functions. -/
theorem keeps {ctx ctx' : Context} (hctx : ctx.Agrees ctx') (blocklist : Blocklist) :
    c.keeps ctx blocklist = c'.keeps ctx' blocklist := by
  funext f
  rw [ClassInfo.keeps, ClassInfo.keeps, functionSkip?_names h.names, h.name, hctx.functionSkip?]

end ClassInfo.Shuffled

/-! ## Contexts -/

/-- Looking up a class finds the same one but for its functions. -/
theorem Context.map_bare_class? (ctx : Context) (name : Label) :
    (ctx.class? name).map ClassInfo.bare =
      (ctx.classIndex.map ClassInfo.bare).reverse.find? fun c => c.name.same name := by
  rw [← List.map_reverse, List.find?_map]
  rfl

/-- Contexts with the same classes but for their functions answer alike. -/
private theorem Context.agrees_of_bare {ctx ctx' : Context}
    (hclasses : ctx.classIndex.map ClassInfo.bare = ctx'.classIndex.map ClassInfo.bare)
    (hstructs : ctx.structIndex = ctx'.structIndex) (henums : ctx.enumIndex = ctx'.enumIndex)
    (hpackages : ctx.packages = ctx'.packages) : ctx.Agrees ctx' where
  class? name := by
    have hbare := (ctx.map_bare_class? name).trans (hclasses ▸ (ctx'.map_bare_class? name).symm)
    have hpackage := congrArg (Option.map fun c : ClassInfo => c.package) hbare
    rw [Option.map_map, Option.map_map] at hpackage
    exact hpackage
  struct? := by
    funext name
    rw [Context.struct?, Context.struct?, hstructs]
  enum? := by
    funext name
    rw [Context.enum?, Context.enum?, henums]
  moduleForPackage? := by
    funext package
    rw [Context.moduleForPackage?, Context.moduleForPackage?, hpackages]

/-- Grouping what entities are mapped to. -/
theorem Groups.of_map {α β : Type} (f : α → β) (moduleOf : β → String) (name : β → Label)
    (xs : List α) :
    Groups.of moduleOf name (xs.map f) =
      (Groups.of (fun a => moduleOf (f a)) (fun a => name (f a)) xs).map fun g =>
        (g.1, g.2.map f) := by
  simp only [Groups.of, List.map_map]
  refine List.map_congr_left fun m _ => Prod.ext rfl ?_
  dsimp only [Function.comp]
  rw [List.filter_map, Label.sortOn, Label.sortOn]
  exact (List.map_mergeSort (s := fun a b => (name a).le (name b)) fun _ _ _ _ => rfl).symm

/-- The functions of a class that the first filter lets pass. -/
def Schema.passed (schema : Schema) (config : Config) (c : ClassInfo) : List Function :=
  c.funcs.filter (c.keeps (schema.unblocked config) config.blocklist)

namespace Schema.Shuffled

variable {s t : Schema} (h : s.Shuffled t)

theorem refl (s : Schema) : s.Shuffled s := ⟨List.forall₂_same.2 fun c _ => .refl c, rfl, rfl⟩

include h

theorem packages : s.packages = t.packages := by
  have hclasses : s.classes.map (·.package) = t.classes.map (·.package) :=
    map_eq_of_forall₂ h.classes fun _ _ hc => hc.package
  rw [Schema.packages, Schema.packages, hclasses, h.structs, h.enums]

theorem packagesOf (config : Config) :
    Context.packagesOf s config = Context.packagesOf t config := by
  have hpackages : s.packages = t.packages := h.packages
  rw [Context.packagesOf, Context.packagesOf]
  exact congrArg _ hpackages

/-- Both filters look names up alike. -/
theorem agrees (config : Config) : (s.unblocked config).Agrees (t.unblocked config) := by
  have hclasses : (s.unblocked config).classIndex.map ClassInfo.bare =
      (t.unblocked config).classIndex.map ClassInfo.bare := by
    refine map_eq_of_forall₂ (R := ClassInfo.Shuffled) ?_ fun _ _ hc => hc.bare
    refine forall₂_filter (forall₂_filter h.classes fun _ _ hc => ?_) fun _ _ hc => ?_
    · rw [h.packagesOf, hc.package]
    · rw [hc.name]
  refine Context.agrees_of_bare hclasses ?_ ?_ (h.packagesOf config)
  · simp only [Schema.unblocked, Context.unblocked, Context.build, h.packagesOf, h.structs]
  · simp only [Schema.unblocked, Context.unblocked, Context.build, h.packagesOf, h.enums]

/-- The enabled classes correspond. -/
theorem enabledClasses (config : Config) :
    List.Forall₂ (fun a b => a.1 = b.1 ∧ a.2.Shuffled b.2) (s.enabledClasses config)
      (t.enabledClasses config) := by
  unfold Schema.enabledClasses
  rw [h.packagesOf]
  refine List.rel_filterMap (fun c c' hc => ?_)
    (forall₂_filter h.classes fun _ _ hc => by rw [hc.name])
  rw [hc.package]
  cases Context.enabledModule? (Context.packagesOf t config) (Context.enabledModules config)
    c'.package with
  | none => exact .none
  | some m => exact .some ⟨rfl, hc⟩

/-- The first filter lets the same functions of a class pass. -/
theorem passed {c c' : ClassInfo} (hc : c.Shuffled c') (config : Config) :
    (s.passed config c).Perm (t.passed config c') := by
  rw [Schema.passed, Schema.passed, hc.keeps (h.agrees config)]
  exact hc.funcs.filter _

end Schema.Shuffled

/-! ## Checks -/

namespace Check

/-- The class names of modules are checked without the functions. -/
private theorem groups_bare (moduleOf : Label → String) (xs : List ClassInfo) :
    groups (·.name) (Groups.of (fun c => moduleOf c.package) (·.name) (xs.map ClassInfo.bare)) =
      groups (·.name) (Groups.of (fun c => moduleOf c.package) (·.name) xs) := by
  rw [Groups.of_map]
  simp only [groups, List.forM_eq_forM, List.forM_map, List.map_map]
  rfl

/-- The filter passes just if it does so for each enabled class. -/
theorem filter_eq_ok_iff {schema : Schema} {config : Config} :
    filter (Context.build schema config) config.blocklist = .ok () ↔
      ∀ c ∈ schema.enabledClasses config,
        members (schema.unblocked config) config.blocklist c.2 = .ok () := by
  simp only [← (Context.members_unblocked_perm schema config).mem_iff, filter, forM_eq_ok_iff]
  constructor
  · intro h c hc
    obtain ⟨g, hg, -, hmem⟩ := Groups.mem_members.1 hc
    exact h g hg c.2 hmem
  · intro h g hg c hc
    exact h (g.1, c) (Groups.mem_members.2 ⟨g, hg, rfl, hc⟩)

/-- Renaming keeps parameters, so the functions that passed the first filter can be checked under
their declared names. -/
theorem table_eq_ok_iff {schema : Schema} {config : Config} :
    table (Prepared.of schema config).context = .ok () ↔
      ∀ c ∈ schema.enabledClasses config, c.2.super ≠ .text "Interface" →
        ∀ f ∈ schema.passed config c.2, tableFunction (schema.unblocked config) f = .ok () := by
  have hmembers : (Prepared.of schema config).context.classesInOrder.Perm _ :=
    (Context.classesInOrder_perm _).trans Schema.members_filtered_perm
  have hparams {f g : Function} (h : f.Renames g) :
      tableFunction (schema.unblocked config) g = tableFunction (schema.unblocked config) f := by
    simp only [tableFunction, h.params]
  rw [table, forM_eq_ok_iff, tableFunction_congr Schema.agrees_unblocked]
  simp only [hmembers.mem_iff, List.forall_mem_map]
  refine forall₂_congr fun c _ => ?_
  have hsuper : (filterClass (schema.unblocked config) config.blocklist c.2).1.super =
    c.2.super := rfl
  rw [hsuper]
  split
  · next hinterface => simp [hinterface]
  · next hinterface =>
    rw [forM_eq_ok_iff]
    have hrenames : List.Forall₂ Function.Renames (schema.passed config c.2)
        (filterClass (schema.unblocked config) config.blocklist c.2).1.funcs :=
      renameOverloads_renames _
    constructor
    · intro h _ f hf
      obtain ⟨g, hg, hfg⟩ := exists_of_mem_left hrenames hf
      exact hparams hfg ▸ h g hg
    · intro h g hg
      obtain ⟨f, hf, hfg⟩ := exists_of_mem_right hrenames hg
      exact hparams hfg ▸ h hinterface f hf

/-- The check of a class does not depend on the order of its functions. -/
private theorem members_shuffled {c c' : ClassInfo} (h : c.Shuffled c') {ctx : Context}
    {blocklist : Blocklist} (hc : members ctx blocklist c = .ok ()) :
    members ctx blocklist c' = .ok () := by
  have hfunction : function ctx blocklist c.name (c.funcs.map (·.name)) =
      function ctx blocklist c'.name (c'.funcs.map (·.name)) := by
    have hcontains (l : Label) : (c.funcs.map (·.name)).contains l =
        (c'.funcs.map (·.name)).contains l := h.names.contains_eq
    funext f
    simp only [function, h.name, hcontains]
  simp only [members, bind_eq_ok_iff, forM_eq_ok_iff] at hc ⊢
  rw [hfunction] at hc
  obtain ⟨hprops, hkeys, hfuncs⟩ := hc
  exact ⟨h.props ▸ hprops, fun l hl => hkeys l (h.names.mem_iff.2 hl),
    fun f hf => hfuncs f (h.funcs.mem_iff.2 hf)⟩

variable {s t : Schema} (h : s.Shuffled t) {config : Config}

include h

/-- The first check never looks at functions. -/
private theorem build_shuffled : build s config = build t config := by
  have hpackages : s.packages = t.packages := h.packages
  have hclasses : groups (·.name) (Context.build s config).classes =
      groups (·.name) (Context.build t config).classes := by
    simp only [Context.build, h.packagesOf]
    have hbare := groups_bare fun package => (Context.enabledModule?
      (Context.packagesOf t config) (Context.enabledModules config) package).getD ""
    refine (hbare _).symm.trans (.trans ?_ (hbare _))
    refine congrArg (fun cs => groups _ (Groups.of _ _ cs)) ?_
    refine map_eq_of_forall₂ (forall₂_filter h.classes fun _ _ hc => ?_) fun _ _ hc => hc.bare
    rw [hc.package]
  have hstructs : (Context.build s config).structs = (Context.build t config).structs := by
    simp only [Context.build, h.packagesOf, h.structs]
  have henums : (Context.build s config).enums = (Context.build t config).enums := by
    simp only [Context.build, h.packagesOf, h.enums]
  simp only [build, hclasses, hstructs, henums]
  rw [show s.classes.map (·.package) ++ s.structs.map (·.package) ++ s.enums.map (·.package) = _
    from hpackages]

/-- The order of functions decides nothing about what can be prepared. -/
theorem prepare_shuffled (hprepare : prepare s config = .ok ()) : prepare t config = .ok () := by
  rw [prepare_eq_ok_iff] at hprepare ⊢
  obtain ⟨hbuild, hfilter, htable⟩ := hprepare
  refine ⟨build_shuffled h ▸ hbuild, filter_eq_ok_iff.2 fun c' hc' => ?_,
    table_eq_ok_iff.2 fun c' hc' hsuper f hf => ?_⟩
  · obtain ⟨c, hc, -, hcc'⟩ := exists_of_mem_right (h.enabledClasses config) hc'
    rw [← members_congr (h.agrees config)]
    exact members_shuffled hcc' (filter_eq_ok_iff.1 hfilter c hc)
  · obtain ⟨c, hc, -, hcc'⟩ := exists_of_mem_right (h.enabledClasses config) hc'
    rw [← tableFunction_congr (h.agrees config)]
    refine table_eq_ok_iff.1 htable c hc (hcc'.super ▸ hsuper) f ?_
    exact (h.passed hcc' config).mem_iff.2 hf

end Check

/-! ## Slots -/

namespace Schema.Shuffled

variable {s t : Schema} (h : s.Shuffled t) {config : Config}

include h

/-- A function gets a slot in both tables or in neither. -/
theorem isListed {c c' : ClassInfo} (hc : c.Shuffled c') (module : String) (f : Function) :
    (Declaration.mk module c f).isListed s config =
      (Declaration.mk module c' f).isListed t config := by
  have hkeeps := congrFun (hc.keeps (h.agrees config) config.blocklist) f
  simp only [ClassInfo.keeps] at hkeeps
  simp only [Declaration.isListed, Declaration.skip?, hkeeps, (h.agrees config).tableSkip?]

/-- Both tables have slots for the same functions. -/
theorem table_perm :
    ((Prepared.of s config).table.map Entry.asDeclared).Perm
      ((Prepared.of t config).table.map Entry.asDeclared) := by
  refine Schema.table_perm.trans (.trans ?_ Schema.table_perm.symm)
  simp only [Schema.declarations, List.filter_flatMap, List.map_flatMap]
  refine perm_flatMap_of_forall₂ (h.enabledClasses config)
    fun ⟨m, c⟩ _ ⟨m', c'⟩ _ ⟨hm, hc⟩ => ?_
  obtain rfl : m = m' := hm
  dsimp only [classDeclarations]
  -- Interfaces get no slots, whichever functions they declare.
  rw [hc.super]
  split
  · exact .nil
  rw [List.filter_map, List.map_map, List.filter_map, List.map_map]
  have hlisted : (fun d => d.isListed s config) ∘ Declaration.mk m c =
      (fun d => d.isListed t config) ∘ Declaration.mk m c' := funext fun f => h.isListed hc m f
  have hslot : Declaration.slot ∘ Declaration.mk m c = Declaration.slot ∘ Declaration.mk m c' :=
    funext fun f => hc.slot m _
  rw [hlisted, hslot]
  exact (hc.funcs.filter _).map _

end Schema.Shuffled
end Bindery
