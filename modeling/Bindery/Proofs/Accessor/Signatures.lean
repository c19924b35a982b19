import Bindery.Proofs.Render.BaseMembers

/-!
# What delegate signatures refer to

The parameters of a delegate's signature have a filter of their own. It asks for the classes,
structs and enums that a parameter refers to. The filter of properties and functions also asks for
meta classes and interfaces; this one lets them pass.

* `delegateParamSkip?_eq_none_iff`, `delegateSkip?_eq_none_iff`: the delegates that can be bound.
* `Datum.RefersUnasked`: the names in a type that this filter does not ask for.
* `bound_signatures_refer`: what a bound delegate refers to is available if it was asked for.
* `bound_signature_refers_to_missing`: a bound delegate that refers to an interface and to a meta
  class that are not available.
-/

namespace Bindery

open Render

/-! ## Conditions -/

section Conditions

variable {ctx : Context}

theorem delegateParamSkip?_eq_none_iff {p : Datum} :
    delegateParamSkip? ctx p = none ↔
      p.kind.isSupported = true ∧ p.kind.isDelegate = false ∧ p.kind.isContainer = false ∧
      ∀ name ∈ p.delegateReferences, ctx.isAvailable name = true := by
  unfold delegateParamSkip?
  dsimp only
  split
  · simp_all
  split
  · next hkind =>
    rw [Bool.or_eq_true] at hkind
    rcases hkind with h | h <;> simp [h]
  · next hsupported hkind => simp_all [List.find?_eq_none]

theorem delegateSkip?_eq_none_iff {p : Property} :
    delegateSkip? ctx p = none ↔
      ∃ s, p.signature = some s ∧ ∀ d ∈ s.params, delegateParamSkip? ctx d = none := by
  unfold delegateSkip?
  split
  · next hnone => simp [hnone]
  · next s hs => simp [hs, List.findSome?_eq_none_iff]

end Conditions

/-! ## References -/

/-- A name in a type that the filter of delegates does not ask for. -/
inductive Datum.RefersUnasked (d : Datum) : Label → Prop where
  | metaClassName : d.kind = .classRef → d.metaClassName.isEmpty = false →
      RefersUnasked d d.metaClassName
  | interfaceName : d.interfaceName.isEmpty = false → RefersUnasked d d.interfaceName

theorem Datum.mem_delegateReferences_iff {d : Datum} {name : Label} :
    name ∈ d.delegateReferences ↔
      name.isEmpty = false ∧ (name = d.className ∨ name = d.structName ∨ name = d.enumName) := by
  simp only [delegateReferences, List.mem_filterMap, Label.given?_eq_some_iff]
  constructor
  · rintro ⟨l, hl, hgiven, rfl⟩
    exact ⟨hgiven, by simpa using hl⟩
  · rintro ⟨hgiven, hname⟩
    exact ⟨name, by simpa using hname, hgiven, rfl⟩

/-- A name in a type is asked for or not. -/
theorem Datum.refersTo_iff {d : Datum} {name : Label} :
    d.RefersTo name ↔ name ∈ d.delegateReferences ∨ d.RefersUnasked name := by
  rw [mem_delegateReferences_iff]
  constructor
  · rintro (h | ⟨hkind, h⟩ | h | h | h)
    · exact .inl ⟨h, .inl rfl⟩
    · exact .inr (.metaClassName hkind h)
    · exact .inl ⟨h, .inr (.inl rfl)⟩
    · exact .inl ⟨h, .inr (.inr rfl)⟩
    · exact .inr (.interfaceName h)
  · rintro (⟨h, rfl | rfl | rfl⟩ | ⟨hkind, h⟩ | h)
    · exact .className h
    · exact .structName h
    · exact .enumName h
    · exact .metaClassName hkind h
    · exact .interfaceName h

variable {schema : Schema} {config : Config}

/-- What a delegate refers to is offered, as far as it was asked for. -/
theorem Delegate.IsOf.offers {p : Property} {d : Delegate}
    (h : d.IsOf (Prepared.of schema config).context p) {q : Datum} (hq : q ∈ d.signature.params)
    {name : Label} (hname : name ∈ q.delegateReferences) : schema.Offers config name := by
  obtain ⟨s, hs, hparams⟩ := delegateSkip?_eq_none_iff.1 h.kept
  obtain rfl : s = d.signature := Option.some.inj (hs.symm.trans h.signature)
  obtain ⟨-, -, -, havailable⟩ := delegateParamSkip?_eq_none_iff.1 (hparams q hq)
  rw [← Schema.isAvailable_iff, ← Schema.agrees_unblocked.isAvailable]
  exact havailable name hname

/-- What the parameters of a bound delegate refer to, whatever accessor names are taken: every name
in them is available, or it is a meta class or an interface, which nothing asks for. So all of them
are available exactly if those are. -/
theorem bound_signatures_refer (schema : Schema) (config : Config) (c : ClassInfo)
    (taken : List String) :
    ∀ d ∈ (collectDelegates (Prepared.of schema config).context c.name taken c.props).1,
      ∀ p ∈ d.signature.params,
        (∀ name, p.RefersTo name → schema.Offers config name ∨ p.RefersUnasked name) ∧
        ((∀ name, p.RefersTo name → schema.Offers config name) ↔
          ∀ name, p.RefersUnasked name → schema.Offers config name) := by
  intro d hd p hp
  obtain ⟨_, -, hof⟩ := exists_of_mem_delegates hd
  have hnames {name : Label} (hname : p.RefersTo name) :
      schema.Offers config name ∨ p.RefersUnasked name :=
    (Datum.refersTo_iff.1 hname).imp_left (hof.offers hp)
  refine ⟨fun _ => hnames, fun h name hname => h name (Datum.refersTo_iff.2 (.inr hname)),
    fun h name hname => ?_⟩
  exact (hnames hname).elim id (h name)

/-! ## References to what is missing -/

/-- An object of a class. -/
def touchToucher : Datum where
  name := .text "Toucher"
  kind := .object
  className := .text "Actor"

def touchProperty : Property where
  name := .text "OnTouch"
  kind := .multicastInline
  signature := some ⟨.text "OnTouch__DelegateSignature", [touchToucher]⟩

/-- An object that implements an interface. -/
def hitTarget : Datum where
  name := .text "Target"
  kind := .interface
  interfaceName := .text "Damageable"

/-- A subclass of a class. -/
def hitWeapon : Datum where
  name := .text "Weapon"
  kind := .classRef
  metaClassName := .text "Weapon"

def hitProperty : Property where
  name := .text "OnHit"
  kind := .multicastInline
  signature := some ⟨.text "OnHit__DelegateSignature", [hitTarget, hitWeapon]⟩

def hitClass : ClassInfo where
  name := .text "Actor"
  cppName := .text "AActor"
  package := .text "Engine"
  props := [touchProperty, hitProperty]

/-- A class with both delegates, and nothing else: no interface and no other class. -/
def hitSchema : Schema where
  classes := [hitClass]

/-- Both delegates are bound. -/
theorem bound_hitClass :
    (collectDelegates (Prepared.of hitSchema pacedConfig).context hitClass.name []
      hitClass.props).1.map (·.signature.params) = [[touchToucher], [hitTarget, hitWeapon]] := by
  decide +kernel

/-- The object is asked for, so its class is there. -/
theorem bound_signatures_refer_toucher :
    touchToucher.RefersTo (.text "Actor") ∧
    ∀ name, touchToucher.RefersTo name → hitSchema.Offers pacedConfig name := by
  obtain ⟨d, hd, hparams⟩ := List.mem_map.1 (bound_hitClass ▸ List.mem_cons_self)
  obtain ⟨-, hoffers⟩ := bound_signatures_refer hitSchema pacedConfig hitClass [] d hd
    touchToucher (hparams ▸ .head _)
  exact ⟨.className rfl, hoffers.2 nofun⟩

theorem named_hitSchema : hitSchema.Named where
  packages := by decide
  classes := by
    have htoucher : touchToucher.Named :=
      ⟨rfl, by decide, .inr rfl, .inl rfl, .inl rfl, .inl rfl, .inl rfl, .inl rfl, nofun⟩
    have htarget : hitTarget.Named :=
      ⟨rfl, by decide, .inl rfl, .inl rfl, .inl rfl, .inl rfl, .inr rfl, .inl rfl, nofun⟩
    have hweapon : hitWeapon.Named :=
      ⟨rfl, by decide, .inl rfl, .inr rfl, .inl rfl, .inl rfl, .inl rfl, .inl rfl, nofun⟩
    have hdelegate {s : String} : Datum.Named { name := .text s, kind := .multicastInline } :=
      ⟨rfl, ⟨nofun, nofun⟩, .inl rfl, .inl rfl, .inl rfl, .inl rfl, .inl rfl, .inl rfl, nofun⟩
    refine List.forall_mem_singleton.2 ⟨rfl, .inl rfl, .inr rfl, List.forall_mem_nil _,
      List.forall_mem_cons.2 ⟨⟨?_, .inl rfl⟩, List.forall_mem_singleton.2 ⟨?_, .inl rfl⟩⟩,
      List.forall_mem_nil _⟩
    · exact List.forall_mem_cons.2 ⟨hdelegate, List.forall_mem_singleton.2 htoucher⟩
    · exact List.forall_mem_cons.2
        ⟨hdelegate, List.forall_mem_cons.2 ⟨htarget, List.forall_mem_singleton.2 hweapon⟩⟩
  structs := List.forall_mem_nil _
  enums := List.forall_mem_nil _

/-- Files are made for the class with both delegates bound, and the second refers to an interface
and to a meta class that nothing in the schema has the names of. -/
theorem bound_signature_refers_to_missing :
    Check.generate hitSchema pacedConfig = .ok () ∧
    ∃ file ∈ classModules (Prepared.of hitSchema pacedConfig) "engine",
      ∃ d ∈ file.delegates, d.signature.params = [hitTarget, hitWeapon] ∧
        hitTarget.RefersTo (.text "Damageable") ∧
        ¬ hitSchema.Offers pacedConfig (.text "Damageable") ∧
        hitWeapon.RefersTo (.text "Weapon") ∧
        ¬ hitSchema.Offers pacedConfig (.text "Weapon") := by
  let p := Prepared.of hitSchema pacedConfig
  obtain ⟨kept, hkept, hprops, hname⟩ : ∃ c ∈ p.context.classes.at "engine",
      c.props = hitClass.props ∧ c.name = hitClass.name :=
    ⟨_, Schema.mem_classes_at.2 ⟨_, List.mem_singleton_self _, rfl⟩, rfl, rfl⟩
  let file := ClassModule.of p.context kept
    (p.table.filter fun e => e.module = "engine" && e.className = kept.name)
  have hdelegates : file.delegates =
      (collectDelegates p.context hitClass.name [] hitClass.props).1 := by
    simp only [file, ClassModule.of, hprops, hname]
    rfl
  obtain ⟨d, hd, hparams⟩ :=
    List.mem_map.1 (bound_hitClass ▸ List.mem_cons_of_mem _ (List.mem_singleton_self _))
  refine ⟨Check.generate_of_named named_hitSchema ⟨by decide, by decide⟩, file,
    List.mem_map_of_mem hkept, d, hdelegates ▸ hd, hparams, .interfaceName rfl, ?_,
    .metaClassName rfl rfl, ?_⟩ <;>
  · rw [← Schema.isAvailable_iff]
    decide +kernel

end Bindery
