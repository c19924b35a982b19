import Bindery.Proofs.Render.Lookups

/-!
# Enums in the files of classes

The code of a class file recovers members of enums: getters and calls from raw values, callbacks
from what they read, views from elements. Each of those enums is among the references that the file
has when it runs, provided that names which stand for enums find enums.

* `ClassModule.UsesEnum`: the enums that the code recovers members of.
* `Schema.NamesEnums`: available names that stand for enums are those of enums.
* `ClassModule.UsesEnum.mem_runtime`: a file refers to the enums that it uses.
-/

namespace Bindery

open Render

/-! ## References of types -/

theorem Mapping.ofInt_ne_enumCast (row : IntRow) : (ofInt row).conversion ≠ .enumCast := by
  unfold ofInt
  dsimp only
  split <;> decide

theorem Mapping.ofObject_ne_enumCast (target : Option Label) :
    (ofObject target).conversion ≠ .enumCast := by
  cases target with
  | none => decide
  | some name => exact fun h => Conversion.noConfusion h

/-- Values of an enum have its name as their type. -/
theorem Datum.enum?_of_enumCast {d : Datum} (h : d.mapping.conversion = .enumCast) :
    d.enum? = some d.mapping.display := by
  revert h
  fun_cases Datum.mapping d with
  | case2 _ enum henum => exact fun _ => henum
  | case9 _ enum henum => exact fun _ => henum
  | case3 | case25 => exact fun h => absurd h (Mapping.ofInt_ne_enumCast _)
  | case11 | case12 | case13 | case14 | case15 =>
    exact fun h => absurd h (Mapping.ofObject_ne_enumCast _)
  | _ => exact fun h => Conversion.noConfusion h

namespace References

variable {ctx : Context} {name : Label}

/-- A type refers at run time to its enum if that is found. -/
theorem mem_runtime_ofDatum {d : Datum} (hname : d.enum? = some name)
    (hfound : (ctx.enum? name).isSome = true) : name ∈ (ofDatum ctx d).runtime :=
  Option.mem_toList.2 (Option.filter_eq_some_iff.2 ⟨hname, hfound⟩)

/-- The elements of a container refer at run time to the enums that their codecs hold. -/
theorem mem_runtime_ofParts {d : Datum} {parts : Option (List Element)} {e : Element}
    {repr : IntType} (he : e ∈ parts.getD []) (hcodec : e.codec = .enum name repr) :
    name ∈ (ofParts ctx d parts).runtime := by
  have hname : e.enumRef = some name := by rw [Element.enumRef, hcodec]
  exact List.mem_append_right _ (mem_runtime_concat.2
    ⟨_, List.mem_map_of_mem he, Option.mem_toList.2 hname⟩)

end References

/-! ## References of files -/

namespace ClassModule

variable {c : ClassModule} {name : Label}

theorem mem_runtime_of_accessor {a : Accessor} (ha : a ∈ c.accessors)
    (h : name ∈ (References.ofParts c.context a.prop.toDatum a.parts).runtime) :
    name ∈ c.references.runtime :=
  References.mem_runtime_concat.2
    ⟨_, List.mem_append_left _ (List.mem_append_left _ (List.mem_map_of_mem ha)), h⟩

theorem mem_runtime_of_delegate {d : Delegate} {q : Datum} (hd : d ∈ c.delegates)
    (hq : q ∈ d.signature.params) (h : name ∈ (References.ofDatum c.context q).runtime) :
    name ∈ c.references.runtime :=
  References.mem_runtime_concat.2
    ⟨_, List.mem_append_left _ (List.mem_append_right _ (List.mem_map_of_mem hd)),
      References.mem_runtime_concat.2 ⟨_, List.mem_map_of_mem hq, h⟩⟩

theorem mem_runtime_of_method {f : Method} {q : ParamPlan} (hf : f ∈ c.methods)
    (hq : q ∈ f.plan.params)
    (h : name ∈ (References.ofParts c.context q.param.toDatum q.parts).runtime) :
    name ∈ c.references.runtime :=
  References.mem_runtime_concat.2
    ⟨_, List.mem_append_right _ (List.mem_map_of_mem hf),
      References.mem_runtime_concat.2 ⟨_, List.mem_map_of_mem hq, h⟩⟩

/-! ## Uses -/

/-- The code recovers members of an enum: a getter or a call from a raw value, a callback from what
it reads, a view or a call from the elements of a container. -/
inductive UsesEnum (c : ClassModule) : Label → Prop where
  | accessor {a : Accessor} : a ∈ c.accessors → a.mapping.conversion = .enumCast →
      UsesEnum c a.mapping.display
  | view {a : Accessor} {e : Element} {name : Label} {repr : IntType} : a ∈ c.accessors →
      e ∈ a.parts.getD [] → e.codec = .enum name repr → UsesEnum c name
  | callback {d : Delegate} {q : Datum} {name : Label} : d ∈ c.delegates →
      q ∈ d.signature.params → q.direction ≠ .result → q.kind = .byte ∨ q.kind = .enum →
      q.enum? = some name → UsesEnum c name
  | param {f : Method} {q : ParamPlan} : f ∈ c.methods → q ∈ f.plan.params →
      q.mapping.conversion = .enumCast → UsesEnum c q.mapping.display
  | element {f : Method} {q : ParamPlan} {e : Element} {name : Label} {repr : IntType} :
      f ∈ c.methods → q ∈ f.plan.params → e ∈ q.parts.getD [] → e.codec = .enum name repr →
      UsesEnum c name

end ClassModule

/-! ## Callbacks -/

section Callbacks

variable {ctx : Context} {q : Datum}

/-- All parameters of a signature that is read can be read, apart from its results. -/
theorem isSome_delegateParam?_of_readParams {data : List Datum} {params : List DelegateParam}
    (h : readParams ctx data = .ok params) (hq : q ∈ data) (hresult : q.direction ≠ .result) :
    (q.delegateParam? ctx).isSome = true := by
  induction data generalizing params with
  | nil => cases hq
  | cons p rest ih =>
    rw [readParams] at h
    split at h
    · next hp =>
      rcases List.mem_cons.1 hq with rfl | hq
      · exact absurd hp hresult
      · exact ih h hq
    · cases hparam : p.delegateParam? ctx with
      | none =>
        rw [hparam] at h
        cases h
      | some param =>
        rw [hparam] at h
        rcases List.mem_cons.1 hq with rfl | hq
        · rw [hparam]
          rfl
        · cases hrest : readParams ctx rest with
          | ok params => exact ih hrest hq
          | error reason =>
            rw [hrest] at h
            cases h

/-- An enum that callbacks receive was looked up. -/
theorem Datum.isSome_enum?_of_delegateParam? {name : Label}
    (hkind : q.kind = .byte ∨ q.kind = .enum) (hname : q.enum? = some name)
    (h : (q.delegateParam? ctx).isSome = true) : (ctx.enum? name).isSome = true := by
  rcases hkind with hkind | hkind <;>
    simpa [delegateParam?, hkind, hname, Context.enumRepr?] using h

end Callbacks

/-! ## Names of enums -/

/-- What a property with an accessor refers to is available. -/
theorem Accessor.IsOf.isAvailable {ctx : Context} {inClass : Bool} {p : Property} {a : Accessor}
    (h : a.IsOf ctx inClass p) {name : Label} (hname : p.RefersTo name) :
    ctx.isAvailable name = true := by
  have hkept := h.kept
  unfold propertySkip? at hkept
  rw [if_neg (c := p.kind.isDelegate = true) (by simp [h.noDelegate])] at hkept
  split_ifs at hkept
  exact Datum.missing?_eq_none_iff.1 (Option.map_eq_none_iff.1 hkept) name hname

namespace Schema

variable {schema : Schema} {config : Config} {m : String}

/-- What a parameter of the table refers to is available. -/
theorem isAvailable_of_mem_table {e : Entry} (he : e ∈ (Prepared.of schema config).table)
    {p : Property} (hp : p ∈ e.func.params) {name : Label} (hname : p.RefersTo name) :
    (Prepared.of schema config).context.isAvailable name = true := by
  obtain ⟨d, -, hlisted, hslot⟩ := exists_declaration he
  have hexport : e.Exportable schema config :=
    .of_asDeclared (hslot ▸ (Declaration.isListed_iff.1 hlisted).1)
  rw [agrees_unblocked.isAvailable]
  exact isAvailable_iff.2 ((hexport.params p hp).references name hname)

/-- A name that stands for an enum is that of an enum, unless nothing has it. -/
def NamesEnums (schema : Schema) (config : Config) : Prop :=
  ∀ p ∈ schema.properties, (Prepared.of schema config).context.isAvailable p.enumName = true →
    ((Prepared.of schema config).context.enum? p.enumName).isSome = true

/-- A type that was not filtered out has its enum. -/
theorem NamesEnums.isSome_enum? (h : schema.NamesEnums config) {p : Property}
    (hp : p ∈ schema.properties) {name : Label} (hname : p.enum? = some name)
    (hrefs : ∀ name, p.RefersTo name →
      (Prepared.of schema config).context.isAvailable name = true) :
    ((Prepared.of schema config).context.enum? name).isSome = true := by
  obtain ⟨hgiven, rfl⟩ := Label.given?_eq_some_iff.1 hname
  exact h p hp (hrefs _ (.enumName hgiven))

theorem mem_properties_of_prop {c : ClassInfo} (hc : c ∈ schema.classes) {p : Property}
    (hp : p ∈ c.props) : p ∈ schema.properties :=
  List.mem_append_left _ (List.mem_flatMap.2 ⟨c, hc, List.mem_append_left _ hp⟩)

theorem mem_properties_of_param {c : ClassInfo} (hc : c ∈ schema.classes) {f : Function}
    (hf : f ∈ c.funcs) {p : Property} (hp : p ∈ f.params) : p ∈ schema.properties :=
  List.mem_append_left _ (List.mem_flatMap.2
    ⟨c, hc, List.mem_append_right _ (List.mem_flatMap.2 ⟨f, hf, hp⟩)⟩)

section File

variable {c : ClassModule} (hc : c ∈ classModules (Prepared.of schema config) m)

include hc

theorem context_of_mem_classModules : c.context = (Prepared.of schema config).context := by
  obtain ⟨info, -, rfl⟩ := List.mem_map.1 hc
  rfl

theorem name_of_mem_classModules : c.info.name ∈ schema.classes.map (·.name) := by
  obtain ⟨info, hinfo, rfl⟩ := List.mem_map.1 hc
  obtain ⟨declared, hdeclared, rfl⟩ := mem_classes_at.1 hinfo
  exact List.mem_map_of_mem (f := (·.name)) (mem_enabledClasses.1 hdeclared).1

/-- An accessor of a file is that of a property of the schema. -/
theorem exists_property {a : Accessor} (ha : a ∈ c.accessors) :
    ∃ p ∈ schema.properties, a.IsOf (Prepared.of schema config).context true p := by
  obtain ⟨info, hinfo, rfl⟩ := List.mem_map.1 hc
  obtain ⟨declared, hdeclared, rfl⟩ := mem_classes_at.1 hinfo
  obtain ⟨p, hp, hof⟩ := ClassModule.accessor_of ha
  exact ⟨p, mem_properties_of_prop (mem_enabledClasses.1 hdeclared).1
    (List.mem_of_mem_filter hp), hof⟩

/-- The signature of a delegate of a file was read in the context of the file. -/
theorem readParams_of_mem_delegates {d : Delegate} (hd : d ∈ c.delegates) :
    readParams (Prepared.of schema config).context d.signature.params = .ok d.params := by
  obtain ⟨info, -, rfl⟩ := List.mem_map.1 hc
  obtain ⟨p, -, hof⟩ := ClassModule.delegate_of hd
  exact hof.params

/-- A method of a file is planned from a slot of the table. -/
theorem exists_entry {f : Method} (hf : f ∈ c.methods) :
    ∃ e ∈ (Prepared.of schema config).table,
      f.plan = CallPlan.of (Prepared.of schema config).context e := by
  obtain ⟨info, -, rfl⟩ := List.mem_map.1 hc
  obtain ⟨e, he, hplan⟩ := ClassModule.method_of hf
  exact ⟨e, List.mem_of_mem_filter he, hplan⟩

end File
end Schema

/-- The enums that a file uses are among its references. -/
theorem ClassModule.UsesEnum.mem_runtime {schema : Schema} {config : Config} {m : String}
    {c : ClassModule} {name : Label} (h : schema.NamesEnums config)
    (hc : c ∈ classModules (Prepared.of schema config) m) (huse : c.UsesEnum name) :
    name ∈ c.references.runtime := by
  have hctx := Schema.context_of_mem_classModules hc
  cases huse with
  | accessor ha hconversion =>
    obtain ⟨p, hp, hof⟩ := Schema.exists_property hc ha
    rw [hof.mapping] at hconversion ⊢
    have hname := Datum.enum?_of_enumCast hconversion
    refine ClassModule.mem_runtime_of_accessor ha (List.mem_append_left _ ?_)
    rw [hof.prop, hctx]
    exact References.mem_runtime_ofDatum hname
      (h.isSome_enum? hp hname fun _ => hof.isAvailable)
  | view ha he hcodec =>
    exact ClassModule.mem_runtime_of_accessor ha (References.mem_runtime_ofParts he hcodec)
  | callback hd hq hresult hkind hname =>
    have hparams := Schema.readParams_of_mem_delegates hc hd
    have hparam := isSome_delegateParam?_of_readParams hparams hq hresult
    refine ClassModule.mem_runtime_of_delegate hd hq ?_
    rw [hctx]
    exact References.mem_runtime_ofDatum hname
      (Datum.isSome_enum?_of_delegateParam? hkind hname hparam)
  | param hf hq hconversion =>
    obtain ⟨e, he, hplan⟩ := Schema.exists_entry hc hf
    obtain ⟨p, hp, hof⟩ := CallPlan.exists_param (hplan ▸ hq)
    obtain ⟨owner, howner, g, hg, -, hparams⟩ := Schema.exists_function he
    rw [hof.mapping] at hconversion ⊢
    have hname := Datum.enum?_of_enumCast hconversion
    refine ClassModule.mem_runtime_of_method hf hq (List.mem_append_left _ ?_)
    rw [hof.param, hctx]
    exact References.mem_runtime_ofDatum hname
      (h.isSome_enum? (Schema.mem_properties_of_param howner hg (hparams ▸ hp)) hname fun _ =>
        Schema.isAvailable_of_mem_table he hp)
  | element hf hq he hcodec =>
    exact ClassModule.mem_runtime_of_method hf hq (References.mem_runtime_ofParts he hcodec)

end Bindery
