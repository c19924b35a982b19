import Bindery.Proofs.Filter.OverloadNames
import Bindery.Proofs.Preparation

/-!
# Wrappers and their counterparts

A function `K2_X` is left out as a duplicate if its class declares a function `X`. Whether that one
stays is not asked.

* `wrapped?_eq_some_iff`: the names of wrappers.
* `paramSkip?_ne_duplicate`, `propertySkip?_ne_duplicate`: nothing else is left out as a duplicate.
* `Function.RefusedFor`: why a function of a class is left out.
* `exists_lookupName`: renaming leaves every name with a function that is looked up by it.
* `counterpart_kept_or_refused`: a counterpart stays, or is left out for a reason of its own.
* `neither_is_kept`: a class of which neither function stays.
-/

namespace Bindery

/-! ## Names of wrappers -/

/-- Wrappers are the functions whose names start with `K2_`. -/
theorem wrapped?_eq_some_iff {name : Label} {target : String} :
    wrapped? name = some target ↔ name = .text ("K2_" ++ target) := by
  constructor
  · intro h
    obtain ⟨s, hs, hrest⟩ := Option.bind_eq_some_iff.1 h
    rw [Document.text?_eq_some_iff.1 hs]
    split at hrest
    · next hprefix =>
      obtain ⟨rest, hchars⟩ := List.isPrefixOf_iff_prefix.1 hprefix
      obtain rfl := Option.some.inj hrest
      refine congrArg _ (String.toList_inj.1 ?_)
      rw [String.toList_append, ← hchars]
      simp
    · cases hrest
  · rintro rfl
    simp [wrapped?, Document.text?]

/-! ## Reasons -/

section Reasons

variable {ctx : Context} {blocklist : Blocklist} {target : String}

/-- No parameter is left out as a duplicate. -/
theorem paramSkip?_ne_duplicate {structs : List String} {p : Property} :
    paramSkip? ctx structs p ≠ some ("duplicate of " ++ target) := by
  intro h
  -- Every reason is a fixed text, or starts with one, and none of them starts as `duplicate of`
  -- does.
  have hchars := congrArg (Option.map String.toList) h
  unfold paramSkip? at hchars
  dsimp only at hchars
  split at hchars
  · simp at hchars
  split at hchars
  · simp at hchars
  split at hchars
  · simp at hchars
  split at hchars
  · simp at hchars
  split at hchars
  · simp at hchars
  · cases hchars

theorem delegateSkip?_ne_duplicate {p : Property} :
    delegateSkip? ctx p ≠ some ("duplicate of " ++ target) := by
  intro h
  unfold delegateSkip? at h
  split at h
  · simpa using congrArg (Option.map String.toList) h
  · obtain ⟨d, -, h⟩ := List.exists_of_findSome?_eq_some h
    have hchars := congrArg (Option.map String.toList) h
    unfold delegateParamSkip? at hchars
    dsimp only at hchars
    split at hchars
    · simp at hchars
    split at hchars
    · simp at hchars
    · simp at hchars

theorem propertySkip?_ne_duplicate {p : Property} :
    propertySkip? ctx p ≠ some ("duplicate of " ++ target) := by
  intro h
  have hchars := congrArg (Option.map String.toList) h
  unfold propertySkip? at h hchars
  split_ifs at h hchars
  · simp at hchars
  · simp at hchars
  · simp at hchars
  · simp at hchars
  · exact delegateSkip?_ne_duplicate h
  · simp at hchars

/-- A reason to leave a function out of its class. -/
inductive Function.RefusedFor (ctx : Context) (blocklist : Blocklist) (c : ClassInfo)
    (f : Function) : String → Prop where
  | blocked : blocklist.blocks c.name f.name = true → RefusedFor ctx blocklist c f "blocked"
  | notNative : f.isNative = false → RefusedFor ctx blocklist c f "not native"
  | duplicate (target : String) : f.name = .text ("K2_" ++ target) →
      .text target ∈ c.funcs.map (·.name) → RefusedFor ctx blocklist c f ("duplicate of " ++ target)
  | param {p : Property} {reason : String} : p ∈ f.params →
      paramSkip? ctx blocklist.structs p = some reason → RefusedFor ctx blocklist c f reason

variable {c : ClassInfo} {f : Function}

/-- The first filter gives a reason only where that reason applies. -/
theorem Function.refusedFor_of_skip {reason : String}
    (h : functionSkip? ctx blocklist c.name (c.funcs.map (·.name)) f = some reason) :
    f.RefusedFor ctx blocklist c reason := by
  unfold functionSkip? at h
  split at h
  · next hblocks =>
    obtain rfl := Option.some.inj h
    exact .blocked hblocks
  split at h
  · next hnative =>
    obtain rfl := Option.some.inj h
    exact .notNative (by simpa using hnative)
  split at h
  · next target htarget =>
    obtain rfl := Option.some.inj h
    obtain ⟨hwrapped, hdeclared⟩ := Option.filter_eq_some_iff.1 htarget
    exact .duplicate target (wrapped?_eq_some_iff.1 hwrapped) (List.contains_iff_mem.1 hdeclared)
  · obtain ⟨p, hp, hreason⟩ := List.exists_of_findSome?_eq_some h
    exact .param hp hreason

/-- What is left out as a duplicate is a wrapper of a declared function. -/
theorem Function.RefusedFor.wraps (h : f.RefusedFor ctx blocklist c ("duplicate of " ++ target)) :
    f.name = .text ("K2_" ++ target) ∧ .text target ∈ c.funcs.map (·.name) := by
  generalize hreason : "duplicate of " ++ target = reason at h
  cases h with
  | blocked | notNative => simpa using congrArg String.toList hreason
  | duplicate target' hname hdeclared =>
    obtain rfl := (String.append_right_inj _).1 hreason
    exact ⟨hname, hdeclared⟩
  | param hp hskip => exact absurd (hreason ▸ hskip) paramSkip?_ne_duplicate

end Reasons

/-! ## Names that stay -/

/-- The first function with a name keeps it, so some function is looked up by it. -/
theorem exists_lookupName {fs : List Function} {s : String} (h : .text s ∈ fs.map (·.name)) :
    ∃ g ∈ renameOverloads fs, g.lookupName = .text s := by
  let isNamed := fun f : Function => decide (f.name = .text s)
  let i := fs.findIdx isNamed
  have hi : i < fs.length := by
    obtain ⟨f, hf, hname⟩ := List.mem_map.1 h
    exact List.findIdx_lt_length_of_exists ⟨f, hf, decide_eq_true hname⟩
  have hname : fs[i].name = .text s := of_decide_eq_true (@List.findIdx_getElem _ isNamed fs hi)
  -- No function before the first one with the name needs the name.
  have hfirst : (fs.take i).countP (fun e => fs[i].name.same e.name) = 0 := by
    refine List.countP_eq_zero.2 fun e he hsame => ?_
    obtain ⟨j, hj, rfl⟩ := List.mem_take_iff_getElem.1 he
    rw [hname, Label.same_iff_eq rfl] at hsame
    have hother : isNamed fs[j] = false :=
      List.not_of_lt_findIdx (lt_of_lt_of_le hj (Nat.min_le_left _ _))
    exact of_decide_eq_false hother hsame.symm
  have hi' : i < (renameOverloads fs).length := by rwa [length_renameOverloads]
  have hrenames : fs[i].Renames (renameOverloads fs)[i] :=
    (List.forall₂_iff_get.1 (renameOverloads_renames fs)).2 i hi hi'
  refine ⟨_, List.getElem_mem hi', ?_⟩
  rw [← hname, hrenames.lookupName_iff]
  exact fun _ => (renameOverloads_numberedAs (List.getElem?_eq_getElem hi)
    (List.getElem?_eq_getElem hi')).first hfirst

/-! ## Records -/

/-- The records of a pass are those of the members that it gives a reason for. -/
theorem mem_skipsOf_iff {α : Type} {owner : Label} {name : α → Label} {reason : α → Option String}
    {members : List α} {s : Skip} :
    s ∈ skipsOf owner name reason members ↔
      ∃ m ∈ members, reason m = some s.reason ∧ s.owner = owner ∧ s.member = name m := by
  obtain ⟨owner', member, text⟩ := s
  simp only [skipsOf, List.mem_filterMap, Option.map_eq_some_iff, Skip.mk.injEq]
  refine exists_congr fun m => and_congr_right fun _ => ?_
  constructor
  · rintro ⟨text', hreason, rfl, rfl, rfl⟩
    exact ⟨hreason, rfl, rfl⟩
  · rintro ⟨hreason, rfl, rfl⟩
    exact ⟨text, hreason, rfl, rfl, rfl⟩

/-- Only functions are left out as duplicates. -/
theorem duplicate_mem_filterClass_iff {ctx : Context} {blocklist : Blocklist} {c : ClassInfo}
    {name : Label} {target : String} :
    ⟨c.name, name, "duplicate of " ++ target⟩ ∈ (filterClass ctx blocklist c).2 ↔
      ∃ f ∈ c.funcs, functionSkip? ctx blocklist c.name (c.funcs.map (·.name)) f =
        some ("duplicate of " ++ target) ∧ f.name = name := by
  simp only [filterClass, List.mem_append, mem_skipsOf_iff, propertySkip?_ne_duplicate, false_and,
    and_false, exists_false, false_or, true_and, eq_comm]

/-! ## Counterparts -/

/-- What is left out as a duplicate is a wrapper `K2_X` of a declared function `X`. Some function is
looked up as `X` afterwards, or every function declared as `X` was left out, too, with a record of
its own. -/
theorem counterpart_kept_or_refused (ctx : Context) (blocklist : Blocklist) (c : ClassInfo)
    {name : Label} {target : String}
    (h : ⟨c.name, name, "duplicate of " ++ target⟩ ∈ (filterClass ctx blocklist c).2) :
    name = .text ("K2_" ++ target) ∧ (∃ f ∈ c.funcs, f.name = .text target) ∧
    ((∃ g ∈ (filterClass ctx blocklist c).1.funcs, g.lookupName = .text target) ∨
      ∀ f ∈ c.funcs, f.name = .text target → ∃ reason, f.RefusedFor ctx blocklist c reason ∧
        ⟨c.name, .text target, reason⟩ ∈ (filterClass ctx blocklist c).2) := by
  let reasonOf := functionSkip? ctx blocklist c.name (c.funcs.map (·.name))
  obtain ⟨f, hf, hreason, rfl⟩ := duplicate_mem_filterClass_iff.1 h
  obtain ⟨hname, hdeclared⟩ := (Function.refusedFor_of_skip hreason).wraps
  refine ⟨hname, List.mem_map.1 hdeclared, or_iff_not_imp_left.2 fun hnone g hg hgname => ?_⟩
  cases hgreason : reasonOf g with
  | none =>
    have hkept : g ∈ c.funcs.filter fun f => (reasonOf f).isNone :=
      List.mem_filter.2 ⟨hg, by rw [hgreason]; rfl⟩
    exact absurd (exists_lookupName (List.mem_map.2 ⟨g, hkept, hgname⟩)) hnone
  | some reason =>
    refine ⟨reason, Function.refusedFor_of_skip hgreason, List.mem_append_right _ ?_⟩
    exact mem_skipsOf_iff.2 ⟨g, hg, hgreason, rfl, hgname.symm⟩

/-- A class with a function and its wrapper, which is native. -/
def teleportClass (flags : Int) : ClassInfo where
  name := .text "Actor"
  cppName := .text "AActor"
  package := .text "Engine"
  funcs := [{ name := .text "Teleport", flags }, { name := .text "K2_Teleport", flags := 1024 }]

def teleportContext (flags : Int) : Context where
  packages := [("Engine", .text "engine")]
  features := [(.text "engine", .text "core")]
  enabled := ["engine"]
  classes := [("engine", [teleportClass flags])]
  classIndex := [teleportClass flags]

/-- Of two native functions the wrapper gives way to the other. -/
theorem counterpart_kept_teleport :
    ⟨.text "Actor", .text "K2_Teleport", "duplicate of " ++ "Teleport"⟩ ∈
      (filterClass (teleportContext 1024) {} (teleportClass 1024)).2 ∧
    ∃ g ∈ (filterClass (teleportContext 1024) {} (teleportClass 1024)).1.funcs,
      g.lookupName = .text "Teleport" := by
  have hrecord : ⟨.text "Actor", .text "K2_Teleport", "duplicate of " ++ "Teleport"⟩ ∈
      (filterClass (teleportContext 1024) {} (teleportClass 1024)).2 := by
    decide +kernel
  obtain ⟨-, -, hkept | hrefused⟩ :=
    counterpart_kept_or_refused (teleportContext 1024) {} (teleportClass 1024) hrecord
  · exact ⟨hrecord, hkept⟩
  · obtain ⟨reason, hreason, -⟩ := hrefused _ (.head _) rfl
    cases hreason with
    | blocked h => exact absurd h (by decide)
    | notNative h => exact absurd h (by decide)
    | duplicate target h =>
      exact absurd (congrArg (fun l : Label => l.spoken.toList.head?) h) (by simp [Document.spoken])
    | param hp => cases hp

/-- The function is left out since it is not native, and its wrapper is left out as its duplicate.
So no function of the class is left. -/
theorem neither_is_kept :
    ((teleportContext 0).filtered {}).2 =
      [⟨.text "Actor", .text "Teleport", "not native"⟩,
        ⟨.text "Actor", .text "K2_Teleport", "duplicate of Teleport"⟩] ∧
    ∀ c ∈ ((teleportContext 0).filtered {}).1.classes.members, c.2.funcs = [] := by
  decide +kernel

end Bindery
