import Bindery.Container.Temporary
import Bindery.Proofs.Effect

/-!
# Temporaries are given back

A scope with temporaries gives back what it was handed out, however it is left. The host is under
observation (`recordingDispatch`): it may hand out a base, hand out null or fail, for any property,
and giving back may fail too. The body may do anything, open further scopes among it.

* `ScopeBody`, `ScopeBody.run`: what stands inside of a scope.
* `Takes`, `Refuses`: hosts that hand out bases for some properties, and one that does not.
* `Unwound`: a run of a scope, from its own bases around the run of its body to its outcome.
* `Nested`: calls in which every base that was handed out is given back for its own property, in
  the reverse order, and nothing else is. `Nested.perm` counts them.
* `withTemporaries_unwinds`: a scope leaves such calls behind.
-/

namespace Bindery

open Host

variable {σ α : Type}

/-! ## Bodies of scopes -/

/-- What stands inside of a scope: other work on the state and further scopes, one after the other.
What comes next depends on the outcome so far, so a failure may be caught or passed on. -/
inductive ScopeBody (σ : Type) : Type 1 where
  | leave (outcome : Except Fault Unit)
  | work {α : Type} (act : Act σ α) (next : Except Fault α → ScopeBody σ)
  | scope (props : List Value) (inner : List Value → ScopeBody σ)
    (next : Except Fault Unit → ScopeBody σ)

/-- Runs a body under observation. -/
def ScopeBody.run (dispatch : Act σ (Primitives σ)) : ScopeBody σ → Act (Recorded σ TempCall) Unit
  | leave outcome => Act.ofExcept outcome
  | work act next => do
    let outcome ← (Recorded.statePart.within act).attempt
    (next outcome).run dispatch
  | scope props inner next => do
    let outcome ← (withTemporaries (recordingDispatch dispatch) props fun bases =>
      (inner bases).run dispatch).attempt
    (next outcome).run dispatch

/-! ## Calls for temporaries -/

/-- A base that was handed out for a property, with the host that did so. -/
structure Grant (σ : Type) where
  host : Primitives σ
  prop : Value
  base : Value

namespace Grant

/-- The call that handed out the base. -/
def out (g : Grant σ) : TempCall := .handedOut g.prop g.base

/-- The call that gives the base back for its property. -/
def back (g : Grant σ) : TempCall := .givenBack g.prop g.base

/-- The host may fail so when it is given the base back. -/
def FailsBack (g : Grant σ) (e : Fault) : Prop :=
  ∃ s, ((g.host.freeTemp g.prop g.base).runOn s).1 = .error e

end Grant

namespace TempCall

/-- What was handed out and is not null, with its properties. -/
def bases (calls : List TempCall) : List (Value × Value) :=
  calls.filterMap fun
    | handedOut prop base => if base.isTruthy then some (prop, base) else none
    | givenBack _ _ => none

/-- What was given back, with its properties. -/
def returned (calls : List TempCall) : List (Value × Value) :=
  calls.filterMap fun
    | handedOut _ _ => none
    | givenBack prop base => some (prop, base)

end TempCall

/-- From one state to another, the hosts in use hand out bases that are not null. -/
inductive Takes (dispatch : Act σ (Primitives σ)) : List (Grant σ) → σ → σ → Prop where
  | nil {s : σ} : Takes dispatch [] s s
  | cons {g : Grant σ} {rest : List (Grant σ)} {s t u v : σ} :
    dispatch.runOn s = (.ok g.host, t) → (g.host.allocTemp g.prop).runOn t = (.ok g.base, u) →
    g.base.isTruthy → Takes dispatch rest u v → Takes dispatch (g :: rest) s v

/-- In a state no base is to be had for a property: there is no host, it fails or hands out null.
With the fault that this leads to, and the calls on the record. -/
inductive Refuses (dispatch : Act σ (Primitives σ)) (prop : Value) (s : σ) :
    Fault → List TempCall → Prop where
  | missing {e : Fault} {t : σ} : dispatch.runOn s = (.error e, t) → Refuses dispatch prop s e []
  | failed {host : Primitives σ} {e : Fault} {t u : σ} : dispatch.runOn s = (.ok host, t) →
    (host.allocTemp prop).runOn t = (.error e, u) → Refuses dispatch prop s e []
  | null {host : Primitives σ} {base : Value} {t u : σ} : dispatch.runOn s = (.ok host, t) →
    (host.allocTemp prop).runOn t = (.ok base, u) → base.isTruthy = false →
    Refuses dispatch prop s (.ofKind .internal "alloc_temp returned null") [.handedOut prop base]

/-- A run from a state with a record, with its outcome and the calls that it adds to the record. -/
def Act.Adds (act : Act (Recorded σ TempCall) α) (r : Recorded σ TempCall)
    (outcome : Except Fault α) (calls : List TempCall) : Prop :=
  (act.runOn r).1 = outcome ∧ (act.runOn r).2.trace = r.trace ++ calls

theorem Act.Adds.of_runOn {act : Act (Recorded σ TempCall) α} {r : Recorded σ TempCall}
    {outcome : Except Fault α} {t : σ} {calls : List TempCall}
    (h : act.runOn r = (outcome, ⟨t, r.trace ++ calls⟩)) : act.Adds r outcome calls :=
  ⟨congrArg Prod.fst h, congrArg (·.2.trace) h⟩

/-- A run of a scope over `props` from `r`. It takes bases for some of the properties, the first
ones. If these are all, it goes on with the body, given the bases; if not, the next property is
refused one. It ends with giving the bases back in the reverse order, and its outcome is that of the
body, or the fault of the refusal, unless giving a base back fails. -/
def Unwound (dispatch : Act σ (Primitives σ)) (props : List Value)
    (body : List Value → Recorded σ TempCall → Except Fault α → List TempCall → Prop)
    (r : Recorded σ TempCall) (outcome : Except Fault α) (calls : List TempCall) : Prop :=
  ∃ (taken : List (Grant σ)) (t : σ) (inner : Except Fault α) (between : List TempCall),
    Takes dispatch taken r.state t ∧
    calls = taken.map (·.out) ++ between ++ taken.reverse.map (·.back) ∧
    (props = taken.map (·.prop) ∧
        body (taken.map (·.base)) ⟨t, r.trace ++ taken.map (·.out)⟩ inner between ∨
      ∃ prop rest e, props = taken.map (·.prop) ++ prop :: rest ∧ inner = .error e ∧
        Refuses dispatch prop t e between) ∧
    (outcome = inner ∨ ∃ g ∈ taken, ∃ e, g.FailsBack e ∧ outcome = .error e)

/-- Calls that give back just what they hand out, the last base first. -/
inductive Nested : List TempCall → Prop where
  | nil : Nested []
  | refused {prop base : Value} : base.isTruthy = false → Nested [.handedOut prop base]
  | around {prop base : Value} {calls : List TempCall} : base.isTruthy → Nested calls →
    Nested (.handedOut prop base :: calls ++ [.givenBack prop base])
  | append {calls more : List TempCall} : Nested calls → Nested more → Nested (calls ++ more)

/-- Every base is given back exactly once, and nothing but these. -/
theorem Nested.perm {calls : List TempCall} (h : Nested calls) :
    (TempCall.returned calls).Perm (TempCall.bases calls) := by
  induction h with
  | nil => exact .refl _
  | refused hb => simp [TempCall.returned, TempCall.bases, hb]
  | @around prop base calls hb _ ih =>
    -- The base is handed out first and given back last, so its place is another one on each side.
    have hret : TempCall.returned (.handedOut prop base :: calls ++ [.givenBack prop base]) =
        TempCall.returned calls ++ [(prop, base)] := by
      simp [TempCall.returned]
    have hbases : TempCall.bases (.handedOut prop base :: calls ++ [.givenBack prop base]) =
        (prop, base) :: TempCall.bases calls := by
      simp [TempCall.bases, hb]
    rw [hret, hbases]
    exact (List.perm_append_singleton _ _).trans (ih.cons (prop, base))
  | append _ _ ih ih' =>
    simp only [TempCall.returned, TempCall.bases, List.filterMap_append] at *
    exact ih.append ih'

/-- Bases that are taken one after the other and given back from the last one on. -/
private theorem Nested.around_all {taken : List (Grant σ)} {between : List TempCall}
    (ht : ∀ g ∈ taken, g.base.isTruthy) (h : Nested between) :
    Nested (taken.map (·.out) ++ between ++ taken.reverse.map (·.back)) := by
  induction taken with
  | nil => simpa using h
  | cons g rest ih =>
    have hrest := ih fun g' hg => ht g' (.tail _ hg)
    have hnested : Nested (g.out :: (rest.map (·.out) ++ between ++ rest.reverse.map (·.back)) ++
        [g.back]) := .around (ht g (.head _)) hrest
    simpa using hnested

section Scopes

variable {dispatch : Act σ (Primitives σ)}

/-- What is taken is not null. -/
private theorem Takes.isTruthy {taken : List (Grant σ)} {s t : σ} (h : Takes dispatch taken s t) :
    ∀ g ∈ taken, g.base.isTruthy := by
  induction h with
  | nil => exact List.forall_mem_nil _
  | cons _ _ hbase _ ih => exact List.forall_mem_cons.2 ⟨hbase, ih⟩

/-- A property without a base makes one call, which hands out null, or none. -/
private theorem Refuses.nested {prop : Value} {s : σ} {e : Fault} {calls : List TempCall}
    (h : Refuses dispatch prop s e calls) : Nested calls := by
  cases h with
  | missing => exact .nil
  | failed => exact .nil
  | null _ _ hbase => exact .refused hbase

namespace Unwound

variable {props : List Value} {outcome : Except Fault α} {calls : List TempCall}
  {body : List Value → Recorded σ TempCall → Except Fault α → List TempCall → Prop}
  {r : Recorded σ TempCall}

/-- A scope without properties is its body. -/
theorem of_body (h : body [] r outcome calls) : Unwound dispatch [] body r outcome calls :=
  ⟨[], r.state, outcome, calls, .nil, by simp, .inl ⟨rfl, by simpa using h⟩, .inl rfl⟩

/-- A scope whose first property gets no base is left at once. -/
theorem of_refusal {prop : Value} {e : Fault} (h : Refuses dispatch prop r.state e calls) :
    Unwound dispatch (prop :: props) body r (.error e) calls :=
  ⟨[], r.state, .error e, calls, .nil, by simp, .inr ⟨prop, props, e, rfl, rfl, h⟩, .inl rfl⟩

/-- One more base, around a scope over the other properties. -/
theorem around {g : Grant σ} {t u : σ} {inner : Except Fault α}
    (hhost : dispatch.runOn r.state = (.ok g.host, t))
    (halloc : (g.host.allocTemp g.prop).runOn t = (.ok g.base, u)) (hbase : g.base.isTruthy)
    (h : Unwound dispatch props (fun bases => body (g.base :: bases)) ⟨u, r.trace ++ [g.out]⟩
      inner calls)
    (houtcome : outcome = inner ∨ ∃ e, g.FailsBack e ∧ outcome = .error e) :
    Unwound dispatch (g.prop :: props) body r outcome (g.out :: calls ++ [g.back]) := by
  -- The scope inside has taken its bases after `g`, so they stand behind it.
  obtain ⟨taken, v, deepest, between, htakes, rfl, hcases, hinner⟩ := h
  refine ⟨g :: taken, v, deepest, between, .cons hhost halloc hbase htakes, by simp, ?_, ?_⟩
  · rcases hcases with ⟨rfl, hbody⟩ | ⟨prop, rest, e, rfl, herror, hrefuses⟩
    · exact .inl ⟨rfl, by simpa using hbody⟩
    · exact .inr ⟨prop, rest, e, rfl, herror, hrefuses⟩
  · -- A base that is given back later than others may fail in their place.
    rcases houtcome with rfl | ⟨e, hfails, rfl⟩
    · exact hinner.imp_right fun ⟨g', hg, hfails⟩ => ⟨g', .tail _ hg, hfails⟩
    · exact .inr ⟨g, .head _, e, hfails, rfl⟩

/-- All calls of a scope are nested if those of its body are. -/
theorem nested (h : Unwound dispatch props body r outcome calls)
    (hbody : ∀ bases r outcome calls, body bases r outcome calls → Nested calls) :
    Nested calls := by
  obtain ⟨taken, t, inner, between, htakes, rfl, hcases, -⟩ := h
  refine Nested.around_all htakes.isTruthy ?_
  rcases hcases with ⟨-, hrun⟩ | ⟨prop, rest, e, -, -, hrefuses⟩
  · exact hbody _ _ _ _ hrun
  · exact hrefuses.nested

end Unwound

end Scopes

/-! ## Single calls -/

theorem runOn_recordingDispatch (dispatch : Act σ (Primitives σ)) (r : Recorded σ TempCall) :
    (recordingDispatch dispatch).runOn r =
      ((dispatch.runOn r.state).1.map (·.recording),
        { r with state := (dispatch.runOn r.state).2 }) := by
  simp only [recordingDispatch, Act.runOn_bind, Part.runOn_within, Recorded.statePart_get]
  rcases (dispatch.runOn r.state).1 with _ | host <;> rfl

private theorem runOn_allocTemp (host : Primitives σ) (prop : Value) (r : Recorded σ TempCall) :
    (host.recording.allocTemp prop).runOn r =
      match (host.allocTemp prop).runOn r.state with
      | (.ok base, t) => (.ok base, ⟨t, r.trace ++ [.handedOut prop base]⟩)
      | (.error e, t) => (.error e, ⟨t, r.trace⟩) := by
  simp only [Primitives.recording, Act.runOn_bind, Part.runOn_within, Recorded.statePart_get]
  rcases (host.allocTemp prop).runOn r.state with ⟨_ | base, t⟩ <;> rfl

/-- Giving a base back is on the record even if it fails. -/
private theorem runOn_freeTemp (host : Primitives σ) (prop base : Value) (r : Recorded σ TempCall) :
    (host.recording.freeTemp prop base).runOn r =
      (((host.freeTemp prop base).runOn r.state).1,
        ⟨((host.freeTemp prop base).runOn r.state).2, r.trace ++ [.givenBack prop base]⟩) := by
  simp only [Primitives.recording, Act.runOn_bind, Recorded.runOn_note, Part.runOn_within,
    Recorded.statePart_get, Recorded.statePart_set]

/-- A scope with one property more: the property gets no base, or the rest of the scope runs with
the base and gives it back. -/
private theorem runOn_withTemporaries_cons (dispatch : Act σ (Primitives σ)) (prop : Value)
    (props : List Value) (body : List Value → Act (Recorded σ TempCall) α)
    (r : Recorded σ TempCall) :
    (withTemporaries (recordingDispatch dispatch) (prop :: props) body).runOn r =
      match dispatch.runOn r.state with
      | (.error e, t) => (.error e, ⟨t, r.trace⟩)
      | (.ok host, t) =>
        match (host.allocTemp prop).runOn t with
        | (.error e, u) => (.error e, ⟨u, r.trace⟩)
        | (.ok base, u) =>
          let inside := ⟨u, r.trace ++ [.handedOut prop base]⟩
          if base.isTruthy then
            (Act.ensuring (withTemporaries (recordingDispatch dispatch) props fun bases =>
              body (base :: bases)) (host.recording.freeTemp prop base)).runOn inside
          else (.error (.ofKind .internal "alloc_temp returned null"), inside) := by
  rw [withTemporaries, Act.runOn_bind, runOn_recordingDispatch]
  rcases dispatch.runOn r.state with ⟨e | host, t⟩
  · rfl
  simp only [Except.map, withTemporary, Act.runOn_bind, runOn_allocTemp]
  rcases (host.allocTemp prop).runOn t with ⟨e | base, u⟩
  · rfl
  · cases hbase : base.isTruthy <;> simp [hbase]

/-! ## Scopes -/

/-- A scope over a body that adds calls like `inner` to the record, from every state. -/
theorem unwound_withTemporaries (dispatch : Act σ (Primitives σ)) {inner : List TempCall → Prop}
    (props : List Value) (body : List Value → Act (Recorded σ TempCall) α)
    (hbody : ∀ bases r, ∃ calls, inner calls ∧
      ((body bases).runOn r).2.trace = r.trace ++ calls) (r : Recorded σ TempCall) :
    let scope := withTemporaries (recordingDispatch dispatch) props body
    ∃ outcome calls, scope.Adds r outcome calls ∧
      Unwound dispatch props
        (fun bases r outcome calls => inner calls ∧ (body bases).Adds r outcome calls)
        r outcome calls := by
  -- By induction on the properties, for every body: with a base more, the body is another one.
  induction props generalizing body r with
  | nil =>
    obtain ⟨calls, hinner, htrace⟩ := hbody [] r
    exact ⟨_, calls, ⟨rfl, htrace⟩, .of_body ⟨hinner, rfl, htrace⟩⟩
  | cons prop props ih =>
    have hrun := runOn_withTemporaries_cons dispatch prop props body r
    rcases hhost : dispatch.runOn r.state with ⟨e | host, t⟩
    · rw [hhost] at hrun
      exact ⟨.error e, [], .of_runOn (by simpa using hrun), .of_refusal (.missing hhost)⟩
    rcases halloc : (host.allocTemp prop).runOn t with ⟨e | base, u⟩
    · simp only [hhost, halloc] at hrun
      exact ⟨.error e, [], .of_runOn (by simpa using hrun), .of_refusal (.failed hhost halloc)⟩
    cases hbase : base.isTruthy with
    | false =>
      simp only [hhost, halloc, hbase] at hrun
      exact ⟨_, [.handedOut prop base], .of_runOn hrun, .of_refusal (.null hhost halloc hbase)⟩
    | true =>
      -- The rest of the scope is a scope of its own, whose body gets one base more.
      let g : Grant σ := ⟨host, prop, base⟩
      obtain ⟨_, calls, ⟨rfl, htrace⟩, hrest⟩ := ih (fun bases => body (base :: bases))
        (fun bases => hbody (base :: bases)) ⟨u, r.trace ++ [g.out]⟩
      simp only [hhost, halloc, hbase, ↓reduceIte] at hrun
      refine ⟨_, g.out :: calls ++ [g.back], ⟨congrArg Prod.fst hrun, ?_⟩,
        Unwound.around (g := g) hhost halloc hbase hrest ?_⟩
      · rw [hrun, Act.runOn_ensuring, runOn_freeTemp]
        simp only [Grant.out, g] at htrace
        simp [htrace, g, Grant.out, Grant.back]
      · refine (Act.outcome_ensuring ..).imp_right fun ⟨e, hfree, houtcome⟩ => ⟨e, ?_, houtcome⟩
        rw [runOn_freeTemp] at hfree
        exact ⟨_, hfree⟩

/-- A body makes nested calls only. -/
theorem ScopeBody.trace_run (dispatch : Act σ (Primitives σ)) (body : ScopeBody σ)
    (r : Recorded σ TempCall) :
    ∃ calls, Nested calls ∧ ((body.run dispatch).runOn r).2.trace = r.trace ++ calls := by
  induction body generalizing r with
  | leave outcome => exact ⟨[], .nil, by simp [run, Act.runOn_ofExcept]⟩
  | work act next ih =>
    obtain ⟨calls, hn, hc⟩ := ih (act.runOn r.state).1 { r with state := (act.runOn r.state).2 }
    exact ⟨calls, hn, by simpa [run, Act.runOn_bind] using hc⟩
  | scope props inner next ihInner ihNext =>
    simp only [run, Act.runOn_bind, Act.runOn_attempt]
    obtain ⟨outcome, calls, ⟨-, hc⟩, hu⟩ := unwound_withTemporaries dispatch props
      (fun bases => (inner bases).run dispatch) ihInner r
    generalize (withTemporaries (recordingDispatch dispatch) props fun bases =>
      (inner bases).run dispatch).runOn r = after at hc
    obtain ⟨more, hn, hm⟩ := ihNext after.1 after.2
    have hcalls : Nested calls := hu.nested fun _ _ _ _ h => h.1
    exact ⟨calls ++ more, hcalls.append hn, by rw [hm, hc, List.append_assoc]⟩

/-- However a scope is left, each base that it was handed out and that is not null has been given
back once, with its own property, the last one first, and no other base has: the calls of the scope
stand around those of its body, which are nested in the same way. The body runs if every property
gets a base, and the scope ends like it; otherwise a host has refused one. -/
theorem withTemporaries_unwinds (dispatch : Act σ (Primitives σ)) (props : List Value)
    (body : List Value → ScopeBody σ) (r : Recorded σ TempCall) :
    let scope := withTemporaries (recordingDispatch dispatch) props fun bases =>
      (body bases).run dispatch
    ∃ outcome calls, scope.Adds r outcome calls ∧
      Unwound dispatch props
        (fun bases r outcome calls =>
          Nested calls ∧ ((body bases).run dispatch).Adds r outcome calls) r outcome calls ∧
      (TempCall.returned calls).Perm (TempCall.bases calls) := by
  obtain ⟨outcome, calls, hadds, hu⟩ := unwound_withTemporaries dispatch props
    (fun bases => (body bases).run dispatch) (fun bases => (body bases).trace_run dispatch) r
  exact ⟨outcome, calls, hadds, hu, (hu.nested fun _ _ _ _ h => h.1).perm⟩

end Bindery
