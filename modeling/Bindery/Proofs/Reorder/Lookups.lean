import Bindery.Default
import Bindery.FuncTable
import Bindery.Proofs.Context
import Bindery.Proofs.Schema.LabelOrder
import Mathlib.Data.List.Pairwise
import Mathlib.Data.List.Sort

/-!
# Contexts that answer alike

Entities come in the order of a schema, and what is made of them does not depend on that order:
sorting forgets it, and so does a look-up that only one entity answers. Filters, elements, defaults
and table entries see a context through its look-ups only: for two contexts that answer every
look-up alike they are the same. Blocklists are only asked whether they hold a name.

* `find?_perm`: the first member that a condition holds of, if it holds of one only.
* `sortOn_perm`, `sortTexts_perm`, `Label.sortOn_perm`: sorted lists.
* `Reordered`: two lists of the same entities, whose names tell them apart.
* `Reordered.find?_reverse`: looking up a name.
* `Reordered.groups`: the groups of modules.
* `Blocklist.Reordered`: two blocklists with the same entries.
* `Context.Agrees`: two contexts with the same look-ups.
* `Context.Agrees.filterClass`: what the filter leaves of a class.
* `Context.Agrees.classEntries`: the table entries of a class.
-/

namespace Bindery

variable {α β : Type} {xs ys : List α}

/-- The first member that a condition holds of, if it holds of no other one. -/
theorem find?_perm {p : α → Bool} (hperm : xs.Perm ys)
    (hone : ∀ a ∈ xs, ∀ b ∈ xs, p a → p b → a = b) : xs.find? p = ys.find? p := by
  cases hy : ys.find? p with
  | none =>
    rw [List.find?_eq_none] at hy ⊢
    exact fun a ha => hy a (hperm.mem_iff.1 ha)
  | some b =>
    have hb : b ∈ xs := hperm.mem_iff.2 (List.mem_of_find?_eq_some hy)
    obtain ⟨a, ha⟩ := Option.isSome_iff_exists.1
      (List.find?_isSome.2 ⟨b, hb, List.find?_some hy⟩)
    rw [ha, hone a (List.mem_of_find?_eq_some ha) b hb (List.find?_some ha) (List.find?_some hy)]

theorem eraseDups_perm [DecidableEq α] (hperm : xs.Perm ys) :
    xs.eraseDups.Perm ys.eraseDups := by
  rw [List.perm_ext_iff_of_nodup (nodup_eraseDups _) (nodup_eraseDups _)]
  intro a
  rw [List.mem_eraseDups, List.mem_eraseDups, hperm.mem_iff]

/-! ## Sorting -/

/-- Lists sorted by linearly ordered ranks that tell their members apart. -/
theorem mergeSort_perm_of_rank [LinearOrder β] {le : α → α → Bool} (rank : α → β)
    (hle : ∀ a b, le a b = true ↔ rank a ≤ rank b) (hperm : xs.Perm ys)
    (hrank : ∀ a ∈ xs, ∀ b ∈ xs, rank a = rank b → a = b) : xs.mergeSort le = ys.mergeSort le := by
  have hsorted (zs : List α) : (zs.mergeSort le).Pairwise fun a b => le a b :=
    List.pairwise_mergeSort
      (fun a b c hab hbc => (hle a c).2 (((hle a b).1 hab).trans ((hle b c).1 hbc)))
      (fun a b => by simpa [hle] using le_total (rank a) (rank b)) zs
  have hsame : (xs.mergeSort le).Perm (ys.mergeSort le) :=
    (List.mergeSort_perm xs le).trans (hperm.trans (List.mergeSort_perm ys le).symm)
  refine hsame.eq_of_pairwise (fun a b ha hb hab hba => ?_) (hsorted xs) (hsorted ys)
  exact hrank a ((List.mergeSort_perm xs le).mem_iff.1 ha)
    b (hperm.mem_iff.2 ((List.mergeSort_perm ys le).mem_iff.1 hb))
    (((hle a b).1 hab).antisymm ((hle b a).1 hba))

/-- Sorted by texts that tell the members apart. -/
theorem sortOn_perm {key : α → String} (hperm : xs.Perm ys)
    (hkey : ∀ a ∈ xs, ∀ b ∈ xs, key a = key b → a = b) : sortOn key xs = sortOn key ys :=
  mergeSort_perm_of_rank (fun a => Text.rank (key a)) (fun _ _ => Text.le_iff) hperm
    fun a ha b hb h => hkey a ha b hb (Text.rank_injective h)

/-- Sorted texts, which may repeat. -/
theorem sortTexts_perm {xs ys : List String} (hperm : xs.Perm ys) :
    sortTexts xs = sortTexts ys :=
  sortOn_perm hperm fun _ _ _ _ h => h

private theorem Label.sortOn_perm {key : α → Label} (hperm : xs.Perm ys)
    (hrank : ∀ a ∈ xs, ∀ b ∈ xs, (key a).rank = (key b).rank → a = b) :
    sortOn key xs = sortOn key ys :=
  mergeSort_perm_of_rank (fun a => (key a).rank) (fun _ _ => le_iff) hperm hrank

/-- Whether names can be put in order does not depend on the order they come in. -/
theorem Label.comparable_perm {ls ls' : List Label} (hperm : ls.Perm ls') :
    comparable ls = comparable ls' := by
  rw [comparable, comparable, hperm.length_eq, hperm.all_eq, hperm.all_eq]

/-- Labels are the same if they are equal, or numbers of one value. -/
theorem Label.same_iff {a b : Label} :
    a.same b = true ↔ a = b ∨ a.number?.isSome ∧ b.number?.isSome ∧ a.rank = b.rank := by
  constructor
  · intro h
    -- Only two numbers can be the same without being equal.
    by_cases hnumber : a.number?.isSome ∧ b.number?.isSome
    · obtain ⟨x, hx⟩ := Option.isSome_iff_exists.1 hnumber.1
      obtain ⟨y, hy⟩ := Option.isSome_iff_exists.1 hnumber.2
      refine .inr ⟨hnumber.1, hnumber.2, ?_⟩
      simp only [same, hx, hy, decide_eq_true_eq] at h
      simp only [rank, hx, hy, ratio_eq_iff.1 (by simpa using h)]
    · unfold same at h
      split at h
      · simp_all
      · exact .inl (of_decide_eq_true h)
  · rintro (rfl | ⟨ha, hb, hrank⟩)
    · exact same_self a
    · exact Alike.same (.inr (.inl ⟨ha, hb⟩)) hrank

/-- Numbers are the same across kinds, and nothing else is, so being the same is transitive. -/
theorem Label.same_trans {a b c : Label} (hab : a.same b = true) (hbc : b.same c = true) :
    a.same c = true := by
  rw [same_iff] at *
  rcases hab with rfl | ⟨ha, hb, hab⟩
  · exact hbc
  · rcases hbc with rfl | ⟨-, hc, hbc⟩
    · exact .inr ⟨ha, hb, hab⟩
    · exact .inr ⟨ha, hc, hab.trans hbc⟩

/-! ## Entities by name -/

/-- The same entities in another order, their names telling them apart. -/
structure Reordered (name : α → Label) (xs ys : List α) : Prop where
  perm : xs.Perm ys
  differ : xs.Pairwise fun a b => (name a).same (name b) = false

namespace Reordered

variable {name : α → Label}

theorem symm (h : Reordered name xs ys) : Reordered name ys xs where
  perm := h.perm.symm
  differ := (h.perm.pairwise_iff fun hab => Label.same_comm _ _ ▸ hab).1 h.differ

/-- Entities whose names are the same are one. -/
theorem eq_of_same (h : Reordered name xs ys) {a b : α} (ha : a ∈ xs) (hb : b ∈ xs)
    (hsame : (name a).same (name b) = true) : a = b := by
  -- Pairs of a list are ordered, and two members of it may come either way round.
  have hsymm : Std.Symm fun a b : α => (name a).same (name b) = false :=
    ⟨fun _ _ hab => Label.same_comm _ _ ▸ hab⟩
  by_contra hne
  have := h.differ.forall ha hb hne
  simp [hsame] at this

theorem filter (h : Reordered name xs ys) (keep : α → Bool) :
    Reordered name (xs.filter keep) (ys.filter keep) :=
  ⟨h.perm.filter keep, h.differ.filter keep⟩

/-- Looking up a name, the last entity counting. -/
theorem find?_reverse (h : Reordered name xs ys) (n : Label) :
    (xs.reverse.find? fun a => (name a).same n) = ys.reverse.find? fun a => (name a).same n := by
  refine find?_perm ((List.reverse_perm xs).trans (h.perm.trans (List.reverse_perm ys).symm)) ?_
  intro a ha b hb hna hnb
  rw [Label.same_comm] at hnb
  exact h.eq_of_same (List.mem_reverse.1 ha) (List.mem_reverse.1 hb) (Label.same_trans hna hnb)

/-- Entities whose names can be put in order, in that order. -/
theorem sortOn (h : Reordered name xs ys) (hcomparable : Label.comparable (xs.map name) = true) :
    Label.sortOn name xs = Label.sortOn name ys :=
  Label.sortOn_perm h.perm fun _ ha _ hb hrank =>
    h.eq_of_same ha hb <| (Label.alike_of_comparable hcomparable (List.mem_map_of_mem ha)
      (List.mem_map_of_mem hb)).same hrank

/-- The groups of modules, if the names of each can be put in order. -/
theorem groups (h : Reordered name xs ys) (moduleOf : α → String)
    (hcomparable : ∀ g ∈ Groups.of moduleOf name xs, Label.comparable (g.2.map name) = true) :
    (Groups.of moduleOf name xs).Perm (Groups.of moduleOf name ys) := by
  have hmodules : (xs.map moduleOf).eraseDups.Perm (ys.map moduleOf).eraseDups :=
    eraseDups_perm (h.perm.map moduleOf)
  have hgroup : ∀ m ∈ (xs.map moduleOf).eraseDups,
      (m, Label.sortOn name (xs.filter fun e => moduleOf e = m)) =
        (m, Label.sortOn name (ys.filter fun e => moduleOf e = m)) := by
    intro m hm
    rw [sortOn (h.filter _)]
    rw [Label.comparable_perm ((List.mergeSort_perm _ _).map name).symm]
    exact hcomparable _ (List.mem_map_of_mem hm)
  rw [Groups.of, Groups.of, List.map_congr_left hgroup]
  exact hmodules.map _

end Reordered

/-! ## Blocklists -/

/-- The same entries in another order. -/
structure Blocklist.Reordered (b b' : Blocklist) : Prop where
  classes : b.classes.Perm b'.classes
  structs : b.structs.Perm b'.structs
  functions : b.functions.Perm b'.functions

/-- A blocklist is only asked whether it holds a name. -/
theorem Label.isOneOf_perm {names names' : List String} (hperm : names.Perm names') (l : Label) :
    l.isOneOf names = l.isOneOf names' := by
  have hcontains : names.contains = names'.contains := funext fun _ => hperm.contains_eq
  simp only [isOneOf, hcontains]

namespace Blocklist.Reordered

variable {b b' : Blocklist} (h : b.Reordered b')

include h

theorem symm : b'.Reordered b := ⟨h.1.symm, h.2.symm, h.3.symm⟩

theorem blocks : b.blocks = b'.blocks := by
  funext owner name
  exact (h.functions.filterMap splitAtDot?).any_eq

theorem paramSkip? (ctx : Context) : paramSkip? ctx b.structs = paramSkip? ctx b'.structs := by
  funext p
  simp only [Bindery.paramSkip?, Label.isOneOf_perm h.structs]

theorem functionSkip? (ctx : Context) : functionSkip? ctx b = functionSkip? ctx b' := by
  funext owner names f
  simp only [Bindery.functionSkip?, h.blocks, h.paramSkip?]

/-- A class loses the same members under both blocklists. -/
theorem filterClass (ctx : Context) : filterClass ctx b = filterClass ctx b' := by
  funext c
  simp only [Bindery.filterClass, h.functionSkip?]

end Blocklist.Reordered

/-! ## Contexts -/

/-- Two contexts that answer every look-up alike. Of classes only the packages are asked for. -/
structure Context.Agrees (ctx ctx' : Context) : Prop where
  class? : ∀ name, (ctx.class? name).map (·.package) = (ctx'.class? name).map (·.package)
  struct? : ctx.struct? = ctx'.struct?
  enum? : ctx.enum? = ctx'.enum?
  moduleForPackage? : ctx.moduleForPackage? = ctx'.moduleForPackage?

namespace Context.Agrees

variable {ctx ctx' : Context} (h : ctx.Agrees ctx')

theorem refl (ctx : Context) : ctx.Agrees ctx := ⟨fun _ => rfl, rfl, rfl, rfl⟩

include h

/-! ### Names -/

/-- Whether a class is there at all can be told by its package. -/
theorem isSome_class? (name : Label) : (ctx.class? name).isSome = (ctx'.class? name).isSome := by
  have hsome := congrArg Option.isSome (h.class? name)
  rwa [Option.isSome_map, Option.isSome_map] at hsome

theorem isAvailable : ctx.isAvailable = ctx'.isAvailable := by
  funext name
  simp only [Context.isAvailable, h.isSome_class?, h.struct?, h.enum?]

theorem packageOf? : ctx.packageOf? = ctx'.packageOf? := by
  funext name
  simp only [Context.packageOf?, h.class?, h.struct?, h.enum?]

theorem moduleOf? : ctx.moduleOf? = ctx'.moduleOf? := by
  funext name
  simp only [Context.moduleOf?, h.packageOf?, h.moduleForPackage?]

theorem symbol? : ctx.symbol? = ctx'.symbol? := by
  funext name
  simp only [Context.symbol?, h.isSome_class?, h.struct?, h.enum?]

/-- How other files refer to an entity. -/
theorem binding? : ctx.binding? = ctx'.binding? := by
  funext name
  simp only [Context.binding?, h.symbol?, h.moduleOf?]

theorem enumRepr? : ctx.enumRepr? = ctx'.enumRepr? := by
  funext name
  simp only [Context.enumRepr?, h.enum?]

/-! ### Filters -/

theorem missing? (d : Datum) : d.missing? ctx = d.missing? ctx' := by
  simp only [Datum.missing?, h.isAvailable]

theorem delegateParamSkip? : delegateParamSkip? ctx = delegateParamSkip? ctx' := by
  funext p
  simp only [Bindery.delegateParamSkip?, h.isAvailable]

theorem delegateSkip? : delegateSkip? ctx = delegateSkip? ctx' := by
  funext p
  simp only [Bindery.delegateSkip?, h.delegateParamSkip?]

theorem propertySkip? : propertySkip? ctx = propertySkip? ctx' := by
  funext p
  simp only [Bindery.propertySkip?, h.delegateSkip?, h.missing?]

theorem elementExportable : elementExportable ctx = elementExportable ctx' := by
  funext element
  cases element <;> simp only [Bindery.elementExportable, h.missing?]

theorem paramSkip? : paramSkip? ctx = paramSkip? ctx' := by
  funext blockedStructs p
  simp only [Bindery.paramSkip?, h.elementExportable, h.missing?]

/-- Why a function is left out. -/
theorem functionSkip? : functionSkip? ctx = functionSkip? ctx' := by
  funext blocklist owner names f
  simp only [Bindery.functionSkip?, h.paramSkip?]

/-- What is left of a class, and every reason that was noted. -/
theorem filterClass : filterClass ctx = filterClass ctx' := by
  funext blocklist c
  simp only [Bindery.filterClass, h.propertySkip?, h.functionSkip?]

/-! ### Elements and defaults -/

theorem ofEnum (enum underlying : Label) :
    Element.ofEnum (some ctx) enum underlying = Element.ofEnum (some ctx') enum underlying := by
  simp only [Element.ofEnum, h.enumRepr?]

theorem ofObject : Element.ofObject (some ctx) = Element.ofObject (some ctx') := by
  funext target
  cases target <;> simp only [Element.ofObject, Option.all_some, h.isSome_class?]

theorem ofStruct : Element.ofStruct (some ctx) = Element.ofStruct (some ctx') := by
  funext struct
  simp only [Element.ofStruct, h.struct?]

/-- The element that a type gets as part of a container. -/
theorem element? (d : Datum) : d.element? (some ctx) = d.element? (some ctx') := by
  simp only [Datum.element?, h.ofEnum, h.ofObject, h.ofStruct]

theorem parts? (p : Property) : p.parts? (some ctx) = p.parts? (some ctx') := by
  simp only [Property.parts?, h.element?]

theorem valueDisplay? (p : Property) :
    p.valueDisplay? (some ctx) = p.valueDisplay? (some ctx') := by
  simp only [Property.valueDisplay?, h.parts?]

theorem enumLiteral? : enumLiteral? ctx = enumLiteral? ctx' := by
  funext enum d
  simp only [Bindery.enumLiteral?, h.enum?]

/-- The literal that a declared default is written as. -/
theorem defaultLiteral? (p : Property) : p.defaultLiteral? ctx = p.defaultLiteral? ctx' := by
  simp only [Property.defaultLiteral?, h.enumLiteral?]

/-! ### Table entries -/

theorem tableSkip? : tableSkip? ctx = tableSkip? ctx' := by
  funext f
  simp only [Bindery.tableSkip?, h.parts?]

/-- The entries of a class, and the reasons why functions get none. -/
theorem classEntries : classEntries ctx = classEntries ctx' := by
  funext module c
  simp only [Bindery.classEntries, h.tableSkip?]

end Context.Agrees
end Bindery
