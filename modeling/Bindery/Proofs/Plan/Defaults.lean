import Bindery.Plan.Body
import Bindery.Proofs.Plan.Alignment

/-!
# Optional parameters

An input may be left out by callers if it and every input behind it are passed in only, are no
containers and have a default that can be written down. What is not passed in stands anywhere among
them and does not count.

* `ParamPlan.MayBeOptional`: the conditions on one input.
* `TrailingRun`: inputs that end in a run of optional ones, which reaches as far as it can.
* `TrailingRun.isSome_default_iff`: which inputs belong to the run.
* `exists_trailingRun`: giving defaults makes such a run.
* `optional_inputs_trail`: the main statement.
-/

namespace Bindery

open Script (linesOf)

/-! ## One input -/

namespace ParamPlan

/-- Whether an input can be optional, as far as the input itself decides. -/
def MayBeOptional (ctx : Context) (p : ParamPlan) : Prop :=
  p.direction = .input ∧ p.isContainer = false ∧ (p.param.defaultLiteral? ctx).isSome = true

instance (ctx : Context) (p : ParamPlan) : Decidable (p.MayBeOptional ctx) :=
  inferInstanceAs (Decidable (_ ∧ _ ∧ _))

variable {ctx : Context} {p : ParamPlan}

/-- Such an input is given the default that it declares. -/
private theorem MayBeOptional.defaultable?_eq (h : p.MayBeOptional ctx) :
    p.defaultable? ctx = p.param.defaultLiteral? ctx := by
  obtain ⟨hdirection, hcontainer, -⟩ := h
  simp [defaultable?, hdirection, hcontainer]

/-- Only such an input is given a default. -/
private theorem mayBeOptional_of_defaultable? {literal : String}
    (h : p.defaultable? ctx = some literal) : p.MayBeOptional ctx := by
  unfold defaultable? at h
  split at h
  · next hpure =>
    obtain ⟨hdirection, hcontainer⟩ : p.direction = .input ∧ p.isContainer = false := by
      simpa using hpure
    exact ⟨hdirection, hcontainer, by rw [h]; rfl⟩
  · cases h

theorem IsPlanOf.direction {param : Property} (h : p.IsPlanOf ctx param) :
    p.direction = param.direction := congrArg ParamPlan.direction h

end ParamPlan

/-! ## Runs of optional inputs -/

/-- Inputs that end in a run of optional ones. The run reaches as far as it can: the last one that
is required cannot be optional. -/
structure TrailingRun (ctx : Context) (inputs required optional : List ParamPlan) : Prop where
  split : inputs = required ++ optional
  noDefault : ∀ p ∈ required, p.default = none
  mayBeOptional : ∀ p ∈ optional, p.MayBeOptional ctx
  default : ∀ p ∈ optional, p.default = p.param.defaultLiteral? ctx
  reaches : ∀ p, required.getLast? = some p → ¬ p.MayBeOptional ctx

namespace TrailingRun

variable {ctx : Context} {inputs required optional before after : List ParamPlan} {p : ParamPlan}

theorem nil : TrailingRun ctx [] [] [] :=
  ⟨rfl, by simp, by simp, by simp, by simp⟩

/-- An input that can be optional prolongs a run that has reached the front. -/
theorem cons_optional (h : TrailingRun ctx inputs [] optional) (hp : p.MayBeOptional ctx)
    (hdefault : p.default = p.param.defaultLiteral? ctx) :
    TrailingRun ctx (p :: inputs) [] (p :: optional) where
  split := congrArg (p :: ·) h.split
  noDefault := h.noDefault
  mayBeOptional := List.forall_mem_cons.2 ⟨hp, h.mayBeOptional⟩
  default := List.forall_mem_cons.2 ⟨hdefault, h.default⟩
  reaches := h.reaches

/-- Any other input stands before the run. -/
theorem cons_required (h : TrailingRun ctx inputs required optional)
    (hdefault : p.default = none) (hp : required = [] → ¬ p.MayBeOptional ctx) :
    TrailingRun ctx (p :: inputs) (p :: required) optional where
  split := congrArg (p :: ·) h.split
  noDefault := List.forall_mem_cons.2 ⟨hdefault, h.noDefault⟩
  mayBeOptional := h.mayBeOptional
  default := h.default
  reaches := by
    intro last hlast
    cases required with
    | nil =>
      cases hlast
      exact hp rfl
    | cons r rest => exact h.reaches last (by rwa [List.getLast?_cons_cons] at hlast)

theorem isSome_default (h : TrailingRun ctx inputs required optional) (hp : p ∈ optional) :
    p.default.isSome = true := by
  rw [h.default p hp]
  exact (h.mayBeOptional p hp).2.2

/-- An input belongs to the run just when it and all inputs behind it can be optional. -/
theorem isSome_default_iff (h : TrailingRun ctx inputs required optional)
    (hinputs : inputs = before ++ p :: after) :
    p.default.isSome = true ↔ ∀ q ∈ p :: after, q.MayBeOptional ctx := by
  have hrun : (∀ q ∈ p :: after, q ∈ optional) →
      (p.default.isSome = true ↔ ∀ q ∈ p :: after, q.MayBeOptional ctx) := fun hmem =>
    ⟨fun _ q hq => h.mayBeOptional q (hmem q hq),
      fun _ => h.isSome_default (hmem p List.mem_cons_self)⟩
  rcases List.append_eq_append_iff.1 (h.split.symm.trans hinputs) with
    ⟨front, -, hoptional⟩ | ⟨back, hrequired, hback⟩
  · exact hrun fun q hq => hoptional ▸ List.mem_append_right _ hq
  · cases back with
    | nil => exact hrun fun q hq => by rwa [hback, List.nil_append] at hq
    | cons r rest =>
      -- The input is required, and the last required one stands in its place or behind it.
      obtain ⟨rfl, rfl⟩ := List.cons.inj hback
      have hnone : p.default = none := h.noDefault p (hrequired ▸ by simp)
      obtain ⟨last, hlast⟩ : ∃ last, (p :: rest).getLast? = some last :=
        Option.isSome_iff_exists.1 (by simp)
      have hstops : ¬ last.MayBeOptional ctx :=
        h.reaches last (by rw [hrequired, List.getLast?_append, hlast]; rfl)
      have hmem : last ∈ p :: (rest ++ optional) :=
        List.mem_append_left optional (List.mem_of_getLast? hlast)
      simp only [hnone, Option.isSome_none, Bool.false_eq_true, false_iff]
      exact fun hall => hstops (hall last hmem)

end TrailingRun

/-! ## Giving defaults -/

section Giving

variable {ctx : Context} {ps : List ParamPlan}

/-- The run goes on to the front just when no input behind is required. -/
theorem exists_trailingRun (h : ∀ p ∈ ps, p.default = none) :
    ∃ required optional,
      TrailingRun ctx ((assignDefaults ctx ps).1.filter (·.isInput)) required optional ∧
      ((assignDefaults ctx ps).2 = true ↔ required = []) := by
  induction ps with
  -- Defaults are given from the back, so what is known of the rest decides whether the run can
  -- grow.
  | nil => exact ⟨[], [], .nil, iff_of_true rfl rfl⟩
  | cons p rest ih =>
    obtain ⟨required, optional, hrun, hgoes⟩ := ih fun q hq => h q (List.mem_cons_of_mem p hq)
    have hp : p.default = none := h p List.mem_cons_self
    rw [assignDefaults]
    generalize assignDefaults ctx rest = behind at hrun hgoes
    obtain ⟨behind, goesOn⟩ := behind
    dsimp only at hrun hgoes ⊢
    cases hinput : p.isInput with
    | false =>
      rw [Bool.not_false, if_pos rfl, List.filter_cons_of_neg (by simp [hinput])]
      exact ⟨required, optional, hrun, hgoes⟩
    | true =>
      rw [Bool.not_true, if_neg Bool.false_ne_true]
      cases goesOn with
      | false =>
        have hne : required ≠ [] := fun hnil => Bool.false_ne_true (hgoes.2 hnil)
        rw [List.filter_cons_of_pos hinput]
        exact ⟨_, _, hrun.cons_required hp fun hnil => absurd hnil hne, by simp⟩
      | true =>
        obtain rfl : required = [] := hgoes.1 rfl
        cases hliteral : p.defaultable? ctx with
        | none =>
          rw [List.filter_cons_of_pos hinput]
          refine ⟨_, _, hrun.cons_required hp fun _ hoptional => ?_, by simp⟩
          have hsome := hoptional.2.2
          rw [← hoptional.defaultable?_eq, hliteral] at hsome
          cases hsome
        | some literal =>
          have hoptional := ParamPlan.mayBeOptional_of_defaultable? hliteral
          rw [List.filter_cons_of_pos (by exact hinput)]
          refine ⟨_, _, hrun.cons_optional hoptional ?_, iff_of_true rfl rfl⟩
          exact hliteral.symm.trans hoptional.defaultable?_eq

/-- What is not passed in keeps its lack of a default. -/
private theorem default_eq_none_of_assignDefaults (h : ∀ p ∈ ps, p.default = none) {q : ParamPlan}
    (hq : q ∈ (assignDefaults ctx ps).1) (hinput : q.isInput = false) : q.default = none := by
  induction ps with
  | nil => cases hq
  | cons p rest ih =>
    have hrest := ih fun r hr => h r (List.mem_cons_of_mem p hr)
    rw [assignDefaults] at hq
    generalize assignDefaults ctx rest = behind at hq hrest
    dsimp only at hq
    split at hq
    · rcases List.mem_cons.1 hq with rfl | hq
      · exact h q List.mem_cons_self
      · exact hrest hq
    · next hpassed =>
      split at hq <;> rcases List.mem_cons.1 hq with rfl | hq
      · exact absurd (show p.isInput = false from hinput) (by simpa using hpassed)
      · exact hrest hq
      · exact h q List.mem_cons_self
      · exact hrest hq

end Giving

/-- No parameter has a default before defaults are given. -/
private theorem default_eq_none_of_numberContainers {ctx : Context} {n : Nat}
    {params : List Property}
    {p : ParamPlan} (hp : p ∈ numberContainers n (params.map (ParamPlan.of ctx))) :
    p.default = none := by
  induction params generalizing n with
  | nil => cases hp
  | cons param rest ih =>
    rw [List.map_cons, numberContainers] at hp
    split at hp <;> rcases List.mem_cons.1 hp with rfl | hp
    · rfl
    · exact ih hp
    · rfl
    · exact ih hp

namespace CallPlan

variable {ctx : Context} {e : Entry}

/-- The inputs are those of the declaration, in its order. -/
theorem inputs_params : (CallPlan.of ctx e).inputs.map (·.param) =
    e.func.params.filter fun p => p.direction = .input || p.direction = .inOut := by
  have hplans := of_params ctx e
  unfold inputs
  generalize e.func.params = params at hplans ⊢
  generalize (CallPlan.of ctx e).params = plans at hplans ⊢
  induction hplans with
  | nil => rfl
  | @cons p q _ _ hplan _ ih =>
    have hinput : q.isInput = (p.direction = .input || p.direction = .inOut : Bool) := by
      rw [ParamPlan.isInput, hplan.direction]
    rw [List.filter_cons, List.filter_cons, hinput]
    split
    · rw [List.map_cons, ih, hplan.param]
    · exact ih

variable {required optional : List ParamPlan}
  (h : TrailingRun ctx (CallPlan.of ctx e).inputs required optional)

include h

/-- The signature lists the required inputs before the optional ones. -/
theorem signature_of_trailingRun : (CallPlan.of ctx e).signature = ", ".intercalate (
    (if (CallPlan.of ctx e).isStatic then [] else ["self"]) ++
      required.map (fun p => p.name ++ ": " ++ p.inputHint ctx) ++
      optional.map fun p => p.name ++ ": " ++ p.inputHint ctx ++ " | None = None") := by
  have hrequired : required.map (CallPlan.of ctx e).inputText =
      required.map fun p => p.name ++ ": " ++ p.inputHint ctx :=
    List.map_congr_left fun p hp => by
      simp [inputText, h.noDefault p hp, CallPlan.of]
  have hoptional : optional.map (CallPlan.of ctx e).inputText =
      optional.map fun p => p.name ++ ": " ++ p.inputHint ctx ++ " | None = None" :=
    List.map_congr_left fun p hp => by
      simp [inputText, h.isSome_default hp, CallPlan.of]
  rw [signature, h.split, List.map_append, hrequired, hoptional, List.append_assoc]

/-- A missing argument is replaced for those optional inputs whose default is not null itself. -/
theorem defaultFills_of_trailingRun : linesOf (CallPlan.of ctx e).defaultFills =
    (optional.filter fun p => p.param.defaultLiteral? ctx ≠ some "None").flatMap fun p =>
      ["if " ++ p.name ++ " is None:",
        "    " ++ p.name ++ " = " ++ (p.param.defaultLiteral? ctx).getD ""] := by
  have hrequired : (required.filterMap fun p => (p.default.filter (· ≠ "None")).map fun literal =>
      Script.Statement.fill p.name (.literal literal)) = [] :=
    List.filterMap_eq_nil_iff.2 fun p hp => by simp [h.noDefault p hp]
  rw [defaultFills, h.split, List.filterMap_append, hrequired, List.nil_append]
  have hliteral : ∀ p ∈ optional, ∃ literal,
      p.default = some literal ∧ p.param.defaultLiteral? ctx = some literal := fun p hp => by
    obtain ⟨literal, hsome⟩ := Option.isSome_iff_exists.1 (h.isSome_default hp)
    exact ⟨literal, hsome, (h.default p hp).symm.trans hsome⟩
  clear h
  induction optional with
  | nil => rfl
  | cons p rest ih =>
    obtain ⟨literal, hdefault, hliteral'⟩ := hliteral p List.mem_cons_self
    have hrest := ih fun q hq => hliteral q (List.mem_cons_of_mem p hq)
    by_cases hnull : literal = "None"
    · rw [List.filterMap_cons_none (by simp [hdefault, hnull]), hrest,
        List.filter_cons_of_neg (by simp [hliteral', hnull])]
    · rw [List.filterMap_cons_some (by simp [hdefault, hnull]; rfl),
        List.filter_cons_of_pos (by simp [hliteral', hnull]), List.flatMap_cons, ← hrest, hliteral']
      rfl

end CallPlan

/-! ## Call plans -/

/-- The inputs of a plan are those of the declaration. An input is optional, with its own default,
just when it and every input behind it are passed in only, are no containers and have a default that
can be written down, and nothing else has a default. So the signature lists no required input behind
an optional one, and the body replaces exactly those missing arguments whose default is not null
itself. -/
theorem optional_inputs_trail (ctx : Context) (e : Entry) :
    let plan := CallPlan.of ctx e
    plan.inputs.map (·.param) =
        e.func.params.filter (fun p => p.direction = .input || p.direction = .inOut) ∧
    (∀ p ∈ plan.params, p.isInput = false → p.default = none) ∧
    (∀ before p after, plan.inputs = before ++ p :: after →
      (p.default.isSome = true ↔ ∀ q ∈ p :: after, q.MayBeOptional ctx) ∧
      (p.default.isSome = true → p.default = p.param.defaultLiteral? ctx)) ∧
    ∃ required optional, plan.inputs = required ++ optional ∧
      (∀ p ∈ required, p.default = none) ∧ (∀ p ∈ optional, p.default.isSome = true) ∧
      plan.signature = ", ".intercalate ((if plan.isStatic then [] else ["self"]) ++
        required.map (fun p => p.name ++ ": " ++ p.inputHint ctx) ++
        optional.map fun p => p.name ++ ": " ++ p.inputHint ctx ++ " | None = None") ∧
      linesOf plan.defaultFills =
        (optional.filter fun p => p.param.defaultLiteral? ctx ≠ some "None").flatMap fun p =>
          ["if " ++ p.name ++ " is None:",
            "    " ++ p.name ++ " = " ++ (p.param.defaultLiteral? ctx).getD ""] := by
  have hnone : ∀ p ∈ numberContainers 0 (e.func.params.map (ParamPlan.of ctx)), p.default = none :=
    fun p hp => default_eq_none_of_numberContainers hp
  obtain ⟨required, optional, hrun⟩ : ∃ required optional,
      TrailingRun ctx (CallPlan.of ctx e).inputs required optional := by
    obtain ⟨required, optional, hrun, -⟩ := exists_trailingRun hnone
    exact ⟨required, optional, hrun⟩
  refine ⟨CallPlan.inputs_params, fun p hp => default_eq_none_of_assignDefaults hnone hp,
    fun before p after hinputs => ⟨hrun.isSome_default_iff hinputs, fun hsome => ?_⟩,
    required, optional, hrun.split, hrun.noDefault, fun p hp => hrun.isSome_default hp,
    CallPlan.signature_of_trailingRun hrun, CallPlan.defaultFills_of_trailingRun hrun⟩
  have hmem : p ∈ required ++ optional :=
    hrun.split ▸ hinputs ▸ List.mem_append_right before List.mem_cons_self
  rcases List.mem_append.1 hmem with hp | hp
  · rw [hrun.noDefault p hp] at hsome
    cases hsome
  · exact hrun.default p hp

/-- A function with a default before a parameter that has none, and with a result between two
parameters that can be left out. -/
def launchEntry : Entry where
  id := 0
  module := "engine"
  className := .text "Actor"
  cppClass := .text "AActor"
  header := .text ""
  func := {
    name := .text "Launch"
    params := [
      { name := .text "Force", kind := .float, default := .text "2" },
      { name := .text "Target", kind := .object, className := .text "Actor" },
      { name := .text "Count", kind := .int32, default := .text "3" },
      { name := .text "bHit", kind := .bool, flags := 0x100, default := .text "true" },
      { name := .text "Cause", kind := .object, className := .text "Actor",
        default := .text "None" }] }

/-- The count and the cause are optional, and only the count is replaced. -/
theorem optional_inputs_trail_launch :
    let plan := CallPlan.of {} launchEntry
    plan.inputs.map (fun p => (p.name, p.default)) =
      [("force", none), ("target", none), ("count", some "3"), ("cause", some "None")] ∧
    ∃ before p after, plan.inputs = before ++ p :: after ∧ p.name = "count" ∧
      (∀ q ∈ p :: after, q.MayBeOptional {}) ∧ p.default.isSome = true := by
  intro plan
  have hoptional : ∀ q ∈ plan.inputs.drop 2, q.MayBeOptional {} := by decide +kernel
  refine ⟨by decide +kernel, plan.inputs.take 2, (plan.inputs.drop 2).head (by decide +kernel),
    plan.inputs.drop 3, rfl, by decide +kernel, hoptional, ?_⟩
  exact ((optional_inputs_trail {} launchEntry).2.2.1 (plan.inputs.take 2) _ (plan.inputs.drop 3)
    rfl).1.2 hoptional

end Bindery
