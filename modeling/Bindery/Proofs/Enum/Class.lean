import Bindery.Enum.Class
import Bindery.Proofs.Enum.Layout
import Bindery.Proofs.Outcome

/-!
# Enum classes and their members

A class that was loaded has the members of its layout, unless the schema names them like something
that the class itself refers to. A variant can take such a name, and then the class cannot be
loaded.

* `Script.Scope.find_bind_self`, `find_bind_of_ne`: what names stand for behind a binding.
* `EnumClass.load_ne_ok`: variants that hide what the body of their class refers to.
* `EnumClass.Unshadowed`, `EnumClass.fromValue_int`: a class that answers by its layout.
* `EnumInfo.members_recovered`: the main statement.
-/

namespace Bindery

/-! ## Names in the body of a class -/

namespace Script.Scope

variable {scope scope' : Scope} {s t : String} {d : Datum}

/-- A name that was bound is bound here, or in the script around this one. -/
theorem of_bind (h : scope.bind s d = .ok scope') :
    scope'.shared = scope.shared ∧
      if scope.shared.contains s then
        scope'.outer = Assoc.set s d scope.outer ∧ scope'.inner = scope.inner
      else scope'.outer = scope.outer ∧ scope'.inner = Assoc.set s d scope.inner := by
  unfold bind at h
  split at h
  · cases h
    rw [if_pos ‹_›]
    exact ⟨rfl, rfl, rfl⟩
  · rw [if_neg ‹_›]
    repeat' (first | split at h | cases h)
    all_goals exact ⟨rfl, rfl, rfl⟩

theorem find_bind_self (h : scope.bind s d = .ok scope') : scope'.find s = .ok d := by
  obtain ⟨hshared, hbound⟩ := of_bind h
  unfold find
  rw [hshared]
  split at hbound
  · rename_i hs
    rw [if_pos hs, hbound.1, Assoc.get?_set_self]
    rfl
  · rename_i hs
    rw [if_neg hs, hbound.2, Assoc.get?_set_self]
    rfl

theorem find_bind_of_ne (h : scope.bind s d = .ok scope') (hne : t ≠ s) :
    scope'.find t = scope.find t := by
  obtain ⟨hshared, hbound⟩ := of_bind h
  unfold find
  rw [hshared]
  split at hbound
  · rw [hbound.1, hbound.2, Assoc.get?_set_of_ne hne]
  · rw [hbound.1, hbound.2, Assoc.get?_set_of_ne hne]

/-- Bindings of other names do not matter. -/
theorem find_binds_of_not_mem {variants : List Variant}
    (h : variants.foldlM (fun scope v => scope.bind v.name (.int v.value)) scope = .ok scope')
    (ht : t ∉ variants.map (·.name)) : scope'.find t = scope.find t := by
  induction variants generalizing scope with
  | nil =>
    cases h
    rfl
  | cons v rest ih =>
    rw [List.map_cons, List.mem_cons, not_or] at ht
    obtain ⟨next, hnext, hrest⟩ := Outcome.bind_eq_ok_iff.1 h
    rw [ih hrest ht.2, find_bind_of_ne hnext ht.1]

/-- Behind the members each of them is its integer. -/
theorem find_binds {variants : List Variant}
    (h : variants.foldlM (fun scope v => scope.bind v.name (.int v.value)) scope = .ok scope')
    (hnames : (variants.map (·.name)).Nodup) {v : Variant} (hv : v ∈ variants) :
    scope'.find v.name = .ok (.int v.value) := by
  induction variants generalizing scope with
  | nil => cases hv
  | cons u rest ih =>
    rw [List.map_cons, List.nodup_cons] at hnames
    obtain ⟨next, hnext, hrest⟩ := Outcome.bind_eq_ok_iff.1 h
    rcases List.mem_cons.mp hv with rfl | hv
    · rw [find_binds_of_not_mem hrest hnames.1, find_bind_self hnext]
    · exact ih hrest hnames.2 hv

end Script.Scope

/-! ## Loading -/

namespace EnumClass

variable {e : EnumInfo} {c : EnumClass}

/-- What is known of a class that was loaded. -/
theorem of_load (h : load e = .ok c) :
    c.name = e.name.spoken ∧ c.layout = e.layout ∧ ∃ parts module,
      define e e.layout.variants.isEmpty parts module = .ok c.extra := by
  unfold load at h
  obtain ⟨-, -, h⟩ := Outcome.bind_eq_ok_iff.1 h
  obtain ⟨-, -, h⟩ := Outcome.bind_eq_ok_iff.1 h
  obtain ⟨parts, -, h⟩ := Outcome.bind_eq_ok_iff.1 h
  obtain ⟨title, -, h⟩ := Outcome.bind_eq_ok_iff.1 h
  obtain ⟨module, -, h⟩ := Outcome.bind_eq_ok_iff.1 h
  obtain ⟨extra, hextra, h⟩ := Outcome.bind_eq_ok_iff.1 h
  split at h
  · cases h
  · obtain ⟨d, -, h⟩ := Outcome.bind_eq_ok_iff.1 h
    cases h
    exact ⟨rfl, rfl, parts, module, hextra⟩

/-- A class that was defined has run its body to the end. -/
theorem of_define {isPlain : Bool} {parts : Parts} {module : Script.Scope}
    {extra : List (String × Int)} (h : define e isPlain parts module = .ok extra) :
    ∃ scope scope', runBody e isPlain scope = .ok scope' := by
  unfold define at h
  obtain ⟨⟨bases, module⟩, -, h⟩ := Outcome.bind_eq_ok_iff.1 h
  obtain ⟨body, -, h⟩ := Outcome.bind_eq_ok_iff.1 h
  cases hafter : parts.doc.after with
  | some after =>
    -- What comes after the body ends it too early, and the class lacks its functions.
    simp only [hafter, Option.isSome_some, if_true] at h
    obtain ⟨body, -, h⟩ := Outcome.bind_eq_ok_iff.1 h
    split at h
    · obtain ⟨_, hthrow, -⟩ := Outcome.bind_eq_ok_iff.1 h
      cases hthrow
    · obtain ⟨-, -, h⟩ := Outcome.bind_eq_ok_iff.1 h
      obtain ⟨members, -, h⟩ := Outcome.bind_eq_ok_iff.1 h
      obtain ⟨bound, -, h⟩ := Outcome.bind_eq_ok_iff.1 h
      obtain ⟨-, -, h⟩ := Outcome.bind_eq_ok_iff.1 h
      obtain ⟨_, hthrow, -⟩ := Outcome.bind_eq_ok_iff.1 h
      cases hthrow
  | none =>
    simp only [hafter, Option.isSome_none, Bool.false_eq_true, if_false] at h
    obtain ⟨body', hbody, -⟩ := Outcome.bind_eq_ok_iff.1 h
    exact ⟨body, body', hbody⟩

/-- A variant hides what the body of its class refers to: the class cannot be loaded. -/
theorem load_ne_ok {v : Variant} (hv : v ∈ e.layout.variants)
    (hname : v.name = "Optional" ∨ v.name = "classmethod") : load e ≠ .ok c := by
  intro h
  obtain ⟨-, -, parts, module, hdefine⟩ := of_load h
  obtain ⟨scope, scope', hbody⟩ := of_define hdefine
  have hplain : e.layout.variants.isEmpty = false := by
    cases hvariants : e.layout.variants with
    | nil => rw [hvariants] at hv; cases hv
    | cons _ _ => rfl
  unfold runBody at hbody
  obtain ⟨bound, hbinds, hbody⟩ := Outcome.bind_eq_ok_iff.1 hbody
  have hfind := Script.Scope.find_binds hbinds e.layout_names hv
  obtain ⟨decorator, hdecorator, hbody⟩ := Outcome.bind_eq_ok_iff.1 hbody
  obtain ⟨-, -, hbody⟩ := Outcome.bind_eq_ok_iff.1 hbody
  simp only [hplain, Bool.not_false, if_true] at hbody
  obtain ⟨_, hannotation, hbody⟩ := Outcome.bind_eq_ok_iff.1 hbody
  obtain ⟨_, happly, -⟩ := Outcome.bind_eq_ok_iff.1 hbody
  rcases hname with hname | hname <;> rw [hname] at hfind
  · unfold checkAnnotation at hannotation
    rw [hfind] at hannotation
    cases hannotation
  · obtain rfl : decorator = .int v.value := by
      rw [hfind] at hdecorator
      exact (Except.ok.inj hdecorator).symm
    cases happly

/-! ## Members for integers -/

/-- A class whose name does not take the place of what its own file refers to, and that has no
members besides those of its layout. -/
structure Unshadowed (c : EnumClass) : Prop where
  extra : c.extra = []
  converts : c.converts = true
  name : c.name ∉ ["int", "wrap_int", "_REPR", "_DISPLAY_NAMES", "ValueError"]

theorem fromValue_int (hc : c.Unshadowed) (hne : c.layout.variants ≠ []) (raw : Int) :
    c.fromValue (.int raw) = .ok ((c.layout.fromValue c.name raw).map .member) := by
  have hplain : c.isPlain = false := by simpa [isPlain] using hne
  have hname := hc.name
  simp only [List.mem_cons, List.not_mem_nil, or_false, not_or] at hname
  obtain ⟨hint, hwrap, hrepr, hdisplay, herror⟩ := hname
  have hof : c.intOf (.int raw) = .ok raw := by simp [intOf, hc.converts, hint, Value.toInt]
  have hshadow : c.shadowed? = none := by
    unfold shadowed?
    split
    · exact absurd ‹_› hwrap
    · exact absurd ‹_› hrepr
    · rfl
  have hmember : c.memberOf raw = .ok ((c.layout.fromValue c.name raw).map .member) := by
    simp [memberOf, hc.extra]
  simp [fromValue, hdisplay, hof, hshadow, hplain, hmember, herror, bind, Except.bind, pure,
    Except.pure]

/-! ## Loading a given enum -/

theorem checkTexts_eq_ok {texts : List String} (hplain : texts.all Text.isPlain = true)
    (hzero : ∀ s ∈ texts, '\x00' ∉ s.toList) : checkTexts texts = .ok () := by
  have hcontains : (texts.any fun s => s.contains '\x00') = false := by
    rw [List.any_eq_false]
    intro s hs
    rw [String.contains_char_eq]
    simpa using hzero s hs
  rw [checkTexts, hplain, hcontains]
  rfl

/-- What the class of an enum with variants is defined with: the members that come before those of
the layout, and whether the name of the conversion to integers can be called. -/
def defined (e : EnumInfo) : Except Fault (List (String × Int) × Bool) := do
  let parts ← parts e false
  let module ← moduleScope e (← parts.title.run {})
  let extra ← define e false parts module
  return (extra, (← module.find "int").isCallable)

theorem ok_bind {α β ε : Type} (a : α) (f : α → Except ε β) : (Except.ok a >>= f) = f a := rfl

theorem load_eq (hvariants : e.layout.variants.isEmpty = false) (hlayout : Check.layout e = .ok ())
    (htexts : checkTexts [e.name.spoken, e.package.spoken, Render.enumTitle e] = .ok ())
    (hname : (!Text.isIdentifier e.name.spoken || !Text.isNormal e.name.spoken) = false) :
    load e = (fun d => ⟨e.name.spoken, e.layout, d.1, d.2⟩) <$> defined e := by
  simp only [load, hvariants, hlayout, htexts, hname, Bool.false_eq_true, if_false, defined,
    ok_bind, map_eq_pure_bind, bind_assoc, pure_bind]

end EnumClass

open EnumClass

/-- The members of an enum whose declared values have a place in its type are known by their names
and by their values, and the integer of the host, raw or already reduced, gives the member that is
congruent to it, or none. The class of the enum answers so too, if it can be loaded and its name
means nothing to itself, but it cannot be loaded if a variant hides what its body refers to. -/
theorem EnumInfo.members_recovered {e : EnumInfo} (h : e.Representable) :
    (∀ enum, ((e.layout.members enum).map (·.name)).Nodup ∧
      ((e.layout.members enum).map (·.value)).Nodup ∧
      ∀ raw v, e.layout.fromValue enum raw = some v ↔
        v ∈ e.layout.members enum ∧
          v.value % (enumType e.underlying).modulus = raw % (enumType e.underlying).modulus) ∧
    (e.layout.variants ≠ [] → ∀ c, load e = .ok c → c.Unshadowed → ∀ raw,
      c.fromValue (.int raw) = .ok ((e.layout.fromValue e.name.spoken raw).map .member)) ∧
    ∀ v ∈ e.layout.variants, v.name = "Optional" ∨ v.name = "classmethod" →
      ∀ c, load e ≠ .ok c := by
  have hl := EnumInfo.layout_lawful h
  refine ⟨fun enum => ⟨?_, ?_, fun raw v => ?_⟩, fun hne c hload hc raw => ?_,
    fun v hv hname c => load_ne_ok hv hname⟩
  · exact hl.names.sublist (List.filter_sublist.map _)
  · exact hl.values.sublist (List.filter_sublist.map _)
  · rw [hl.fromValue_eq_some_iff, EnumInfo.layout_modulus]
  · obtain ⟨hname, hlayout, -⟩ := of_load hload
    rw [fromValue_int hc (hlayout ▸ hne), hname, hlayout]

/-- An enum with a negative value, stored as signed bytes. -/
def signedEnum : EnumInfo where
  name := .text "ESigned"
  cppName := .text "ESigned"
  package := .text "Engine"
  pairs := [("ESigned::Zero", 0), ("ESigned::Invalid", -1), ("ESigned::All", 255)]

/-- The class of the enum answers for 255 the member that stands for -1. -/
theorem members_recovered_signed :
    signedEnum.Representable ∧ ∃ c, load signedEnum = .ok c ∧
      c.fromValue (.int 255) = .ok (some (.member ⟨"Invalid", "Invalid", -1⟩)) := by
  have hdefined : defined signedEnum = .ok ([], true) := by decide +kernel
  have hload : load signedEnum = .ok ⟨"ESigned", signedEnum.layout, [], true⟩ := by
    rw [load_eq rfl (by decide +kernel)
      (checkTexts_eq_ok (by decide +kernel) (by decide +kernel)) (by decide +kernel), hdefined]
    rfl
  have h : signedEnum.Representable := by decide
  have hmember : signedEnum.layout.fromValue "ESigned" 255 =
      some ⟨"Invalid", "Invalid", -1⟩ := by decide
  have hanswer := (EnumInfo.members_recovered h).2.1 (by decide) _ hload ⟨rfl, rfl, by decide⟩ 255
  change _ = Except.ok ((signedEnum.layout.fromValue "ESigned" 255).map _) at hanswer
  rw [hmember] at hanswer
  exact ⟨h, _, hload, hanswer⟩

/-- An enum with a variant that is named like what the annotations of its class refer to. -/
def optionalEnum : EnumInfo where
  name := .text "E"
  cppName := .text "EX"
  package := .text "P"
  pairs := [("Optional", 0), ("A", 1)]

/-- Both of its variants survive, but its class cannot be loaded. -/
theorem optionalEnum_not_loaded :
    optionalEnum.Representable ∧
      optionalEnum.layout.variants = [⟨"Optional", "Optional", 0⟩, ⟨"A", "A", 1⟩] ∧
      load optionalEnum = .error .wrongType := by
  have hdefined : defined optionalEnum = .error .wrongType := by decide +kernel
  refine ⟨by decide, by decide, ?_⟩
  rw [load_eq rfl (by decide +kernel)
    (checkTexts_eq_ok (by decide +kernel) (by decide +kernel)) (by decide +kernel), hdefined]
  rfl

end Bindery
