import Bindery.Proofs.Filter.Availability
import Bindery.Proofs.Reorder.Lookups

/-!
# What the function table exports

Three filters decide about a function: the one of its class, the one of the table, and renaming in
between. Together they let pass what can be exported, said here without them.

* `Schema.ExportableElement`, `Schema.ExportableParam`: what can be in a container, and what can be
  a parameter.
* `Entry.Exportable`: a function that can be called through its slot.
* `Schema.paramSkips_eq_none_iff`: the filters of the class and of the table, for one parameter.
* `table_exportable`: the slots are those of exportable functions, and no others are left out but
  convenience wrappers and users of blocked structs.
-/

namespace Bindery

/-! ## Kinds that pass -/

theorem PropertyKind.of_intRow? {k : PropertyKind} (h : k.intRow?.isSome = true) :
    k.isSupported = true ∧ k.isContainer = false ∧ k.isDelegate = false := by
  cases k <;> first | exact ⟨rfl, rfl, rfl⟩ | cases h

/-- What has a representation has a kind that bindings are made for. -/
theorem Datum.isSupported_of_mapping {d : Datum} (h : d.mapping.supported = true) :
    d.kind.isSupported = true := by
  cases hkind : d.kind <;> first
    | rfl
    | simp [Datum.mapping, hkind, PropertyKind.intRow?, Mapping.ofUnsupported,
        Mapping.supported] at h

/-- What has a codec is neither a container nor a delegate. -/
theorem Datum.kind_of_element? {d : Datum} {ctx : Option Context}
    (h : (d.element? ctx).isSome = true) :
    d.kind.isSupported = true ∧ d.kind.isContainer = false ∧ d.kind.isDelegate = false := by
  revert h
  fun_cases Datum.element? d ctx with
  | case17 =>
    simp only [PropertyKind.intType?, Option.isSome_map]
    exact PropertyKind.of_intRow?
  | _ => simp_all [PropertyKind.isSupported, PropertyKind.isContainer, PropertyKind.isDelegate]

theorem isSome_mapM_iff {α β : Type} {f : α → Option β} {xs : List α} :
    (xs.mapM f).isSome = true ↔ ∀ x ∈ xs, (f x).isSome = true := by
  induction xs with
  | nil => simp
  | cons x rest ih =>
    rw [List.forall_mem_cons, ← ih, List.mapM_cons]
    cases f x <;> cases rest.mapM f <;> simp

theorem Property.isSome_parts?_iff {p : Property} {ctx : Option Context} :
    (p.parts? ctx).isSome = true ↔ p.kind.isContainer = true ∧
      ∀ element ∈ p.elements, ∃ d, element = some d ∧ (d.element? ctx).isSome = true := by
  unfold parts?
  split
  · next hkind =>
    rw [isSome_mapM_iff]
    simp only [hkind, true_and]
    refine forall₂_congr fun element _ => ?_
    cases element <;> simp
  · next hkind => simp [hkind]

theorem Property.isContainer_of_mem_elements {p : Property} {element : Option Datum}
    (h : element ∈ p.elements) : p.kind.isContainer = true := by
  unfold elements at h
  split at h
  · simp [*, PropertyKind.isContainer]
  · simp [*, PropertyKind.isContainer]
  · simp [*, PropertyKind.isContainer]
  · cases h

/-! ## What can be exported -/

namespace Schema

variable (schema : Schema) (config : Config)

/-- An element that a container can hold: it has a codec, it is neither a container nor a delegate
itself, and every name in its type is one of an enabled entity. -/
structure ExportableElement (d : Datum) : Prop where
  noContainer : d.kind.isContainer = false
  noDelegate : d.kind.isDelegate = false
  codec : (d.element? (some (Prepared.of schema config).context)).isSome = true
  references : ∀ name, d.RefersTo name → schema.Offers config name

/-- A parameter that can be passed: it is no delegate, its type has a representation, every name in
its type is one of an enabled entity, and it can hold its elements if it is a container. -/
structure ExportableParam (p : Property) : Prop where
  noDelegate : p.kind.isDelegate = false
  supported : p.mapping.supported = true
  references : ∀ name, p.RefersTo name → schema.Offers config name
  elements : ∀ element ∈ p.elements, ∃ d, element = some d ∧ schema.ExportableElement config d

variable {schema config}

/-- The filters and the finished context look names up alike. -/
theorem agrees_unblocked :
    (Prepared.of schema config).context.Agrees (schema.unblocked config) :=
  ⟨fun _ => rfl, rfl, rfl, rfl⟩

theorem exportableElement_iff {d : Datum} :
    schema.ExportableElement config d ↔
      (d.element? (some (schema.unblocked config))).isSome = true ∧
        d.missing? (schema.unblocked config) = none := by
  rw [missing?_eq_none_iff, ← agrees_unblocked.element?]
  constructor
  · intro h
    exact ⟨h.codec, h.references⟩
  · rintro ⟨hcodec, hreferences⟩
    obtain ⟨-, hcontainer, hdelegate⟩ := Datum.kind_of_element? hcodec
    exact ⟨hcontainer, hdelegate, hcodec, hreferences⟩

/-- What the filters of the class and of the table ask of one parameter. -/
theorem paramSkips_eq_none_iff {structs : List String} {p : Property} :
    (paramSkip? (schema.unblocked config) structs p = none ∧ p.mapping.supported = true ∧
      (p.kind.isContainer = true → (p.parts? (some (schema.unblocked config))).isSome = true)) ↔
    schema.ExportableParam config p ∧ p.structName.isOneOf structs = false := by
  rw [paramSkip?_eq_none_iff, missing?_eq_none_iff, Property.isSome_parts?_iff]
  constructor
  · rintro ⟨⟨-, hdelegate, helements, hreferences, hstruct⟩, hsupported, hparts⟩
    refine ⟨⟨hdelegate, hsupported, hreferences, fun element helement => ?_⟩, hstruct⟩
    have hcontainer : p.kind.isContainer = true := Property.isContainer_of_mem_elements helement
    obtain ⟨d, rfl, hcodec⟩ := (hparts hcontainer).2 element helement
    simp only [hcontainer, Bool.true_and, Bool.not_eq_false', List.all_eq_true] at helements
    have hmissing := helements _ helement
    simp only [elementExportable, Bool.and_eq_true, Option.isNone_iff_eq_none] at hmissing
    exact ⟨d, rfl, exportableElement_iff.2 ⟨hcodec, hmissing.2⟩⟩
  · rintro ⟨h, hstruct⟩
    -- The filter of the class asks for the kinds of elements, which follow from their codecs.
    have helement : ∀ element ∈ p.elements, ∃ d, element = some d ∧
        (d.element? (some (schema.unblocked config))).isSome = true ∧
        d.missing? (schema.unblocked config) = none := fun element hmem => by
      obtain ⟨d, hd, hexport⟩ := h.elements element hmem
      exact ⟨d, hd, exportableElement_iff.1 hexport⟩
    refine ⟨⟨Datum.isSupported_of_mapping h.supported, h.noDelegate, ?_, h.references, hstruct⟩,
      h.supported, fun hcontainer => ⟨hcontainer, fun element hmem => ?_⟩⟩
    · rw [Bool.and_eq_false_iff, Bool.not_eq_false', List.all_eq_true]
      refine .inr fun element hmem => ?_
      obtain ⟨d, rfl, hcodec, hmissing⟩ := helement element hmem
      obtain ⟨hkind, hcontainer, -⟩ := Datum.kind_of_element? hcodec
      simp [elementExportable, hkind, hcontainer, hmissing]
    · obtain ⟨d, hd, hcodec, -⟩ := helement element hmem
      exact ⟨d, hd, hcodec⟩

end Schema

/-- A function that can be called through its slot. Functions are blocked by their names in the
schema, which are those that the host looks them up by, unless they are empty. -/
structure Entry.Exportable (schema : Schema) (config : Config) (e : Entry) : Prop where
  native : e.func.isNative = true
  allowed : config.blocklist.blocks e.className e.func.declaredName = false
  lookup : e.func.declaredName.isEmpty = false →
    config.blocklist.blocks e.className e.func.lookupName = false
  params : ∀ p ∈ e.func.params, schema.ExportableParam config p

/-- A function may be renamed. -/
theorem Entry.Exportable.of_asDeclared {schema : Schema} {config : Config} {e : Entry}
    (h : e.asDeclared.Exportable schema config) : e.Exportable schema config where
  native := h.native
  allowed := h.allowed
  lookup hname := by
    have hlookup : e.func.lookupName = e.asDeclared.func.lookupName := by
      simp [Function.lookupName, asDeclared, hname]
    rw [hlookup]
    exact h.lookup hname
  params := h.params

namespace Declaration

/-- Whether a function is a convenience wrapper of another one of its class. -/
def WrapsSibling (d : Declaration) : Prop :=
  ∃ target, wrapped? d.func.name = some target ∧ .text target ∈ d.owner.funcs.map (·.name)

/-- Whether a parameter is itself of a blocked struct. -/
def TakesBlocked (config : Config) (d : Declaration) : Prop :=
  ∃ p ∈ d.func.params, p.structName.isOneOf config.blocklist.structs = true

variable {schema : Schema} {config : Config} {d : Declaration}

theorem siblings_eq_none_iff :
    ((wrapped? d.func.name).filter fun target =>
      (d.owner.funcs.map (·.name)).contains (.text target)) = none ↔ ¬ d.WrapsSibling := by
  simp only [Option.filter_eq_none_iff, List.contains_iff_mem, WrapsSibling, not_exists, not_and]

/-- A function that was not renamed is looked up by its name. -/
theorem slot_lookupName : d.slot.func.lookupName = d.func.name := by
  exact ite_self _

/-- What a declaration needs for a slot. -/
theorem isListed_iff :
    d.isListed schema config = true ↔
      d.slot.Exportable schema config ∧ ¬ d.WrapsSibling ∧ ¬ d.TakesBlocked config := by
  rw [isListed, Bool.and_eq_true, Option.isNone_iff_eq_none, Option.isNone_iff_eq_none, skip?,
    functionSkip?_eq_none_iff, tableSkip?_eq_none_iff, siblings_eq_none_iff]
  constructor
  · rintro ⟨⟨hblocks, hnative, hwraps, hparams⟩, hsupported, hparts⟩
    have hparam : ∀ p ∈ d.func.params, schema.ExportableParam config p ∧
        p.structName.isOneOf config.blocklist.structs = false := fun p hp =>
      Schema.paramSkips_eq_none_iff.1 ⟨hparams p hp, hsupported p hp, hparts p hp⟩
    refine ⟨⟨hnative, hblocks, fun hname => ?_, fun p hp => (hparam p hp).1⟩, hwraps, ?_⟩
    · rw [slot_lookupName]
      exact hblocks
    · rintro ⟨p, hp, hstruct⟩
      exact Bool.false_ne_true ((hparam p hp).2.symm.trans hstruct)
  · rintro ⟨h, hwraps, hblocked⟩
    have hparam : ∀ p ∈ d.func.params, _ := fun p hp =>
      Schema.paramSkips_eq_none_iff.2 ⟨h.params p hp,
        Bool.eq_false_of_not_eq_true fun hstruct => hblocked ⟨p, hp, hstruct⟩⟩
    exact ⟨⟨h.allowed, h.native, hwraps, fun p hp => (hparam p hp).1⟩,
      fun p hp => (hparam p hp).2.1, fun p hp => (hparam p hp).2.2⟩

end Declaration

/-- The function table exports what can be exported: every slot is that of a declared function and
can be called through. Of the declared functions that can, only convenience wrappers of others and
those with a parameter of a blocked struct have no slot. -/
theorem table_exportable (schema : Schema) (config : Config) :
    (∀ e ∈ (Prepared.of schema config).table, e.Exportable schema config ∧
      ∃ d ∈ schema.declarations config, e.asDeclared = d.slot) ∧
    ∀ d ∈ schema.declarations config, d.slot.Exportable schema config → ¬ d.WrapsSibling →
      ¬ d.TakesBlocked config → ∃ e ∈ (Prepared.of schema config).table, e.asDeclared = d.slot := by
  constructor
  · intro e he
    obtain ⟨d, hd, hlisted, hslot⟩ := Schema.exists_declaration he
    refine ⟨.of_asDeclared ?_, d, hd, hslot⟩
    rw [hslot]
    exact (Declaration.isListed_iff.1 hlisted).1
  · intro d hd hexport hwraps hblocked
    exact Schema.exists_slot hd (Declaration.isListed_iff.2 ⟨hexport, hwraps, hblocked⟩)

end Bindery
