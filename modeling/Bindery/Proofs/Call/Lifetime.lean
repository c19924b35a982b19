import Bindery.DynamicCall
import Bindery.Proofs.Call.Observation

/-!
# The block of a call by name

A call by name gets a block of memory from the host and gives it back once. The host and the memory
are under observation (`watchedDispatch`, `watchedMemory`).

* `CallUse`: what can be done with a call apart from closing it.
* `CallScript`, `CallScript.run`: what a program does with a call, however it goes on after a
  failure.
* `DynamicCall.Lives`: how a call goes on. It stays as it is, or its block is given back and
  nothing happens any more.
* `Grants`: what it takes for a call to be opened.
* `Opens`: a computation that gets a block for the call that it answers, and none if it fails.
* `block_given_back_once`: from the opening of a call to the end of any program.
-/

namespace Bindery

open Host

open BlockEvent (Quiet blocks returned)

variable {σ α β : Type}

/-! ## Programs -/

/-- What can be done with a call apart from closing it, by the result. -/
inductive CallUse : Type → Type 1 where
  | set (param v tag : Value) : CallUse Unit
  | get (param tag : Value) : CallUse Value
  | perform : CallUse Unit

/-- Does something with a call. -/
def CallUse.run (dispatch : Act σ (Primitives σ)) (memory : Part σ Cells) (c : DynamicCall) :
    CallUse α → Act σ α
  | set param v tag => c.setParam dispatch memory param v tag
  | get param tag => c.getParam dispatch memory param tag
  | perform => c.perform dispatch

/-- A call and the rest of the state, under observation. -/
structure CallState (σ : Type) where
  call : DynamicCall
  rest : Recorded σ BlockEvent

namespace CallState

/-- The call. -/
def callPart : Part (CallState σ) DynamicCall := ⟨call, fun c s => { s with call := c }⟩

/-- All but the call. -/
def restPart : Part (CallState σ) (Recorded σ BlockEvent) := ⟨rest, fun r s => { s with rest := r }⟩

@[simp] theorem callPart_get (s : CallState σ) : callPart.get s = s.call := rfl

@[simp] theorem callPart_set (c : DynamicCall) (s : CallState σ) :
    callPart.set c s = { s with call := c } := rfl

@[simp] theorem restPart_get (s : CallState σ) : restPart.get s = s.rest := rfl

@[simp] theorem restPart_set (r : Recorded σ BlockEvent) (s : CallState σ) :
    restPart.set r s = { s with rest := r } := rfl

variable (dispatch : Act σ (Primitives σ)) (memory : Part σ Cells)

/-- Does something with the call. -/
def use (u : CallUse α) : Act (CallState σ) α := do
  restPart.within (u.run (watchedDispatch dispatch) (watchedMemory memory) (← callPart.read))

/-- Closes the call. -/
def close : Act (CallState σ) Unit :=
  DynamicCall.close (do return (← restPart.within (watchedDispatch dispatch)).within restPart)
    callPart

end CallState

/-- What a program does with a call: uses of it, closing it, blocks that close it when they are left
and other work on the state, one after the other. What comes next depends on the outcome so far, so
a failure may be caught or passed on. -/
inductive CallScript (σ : Type) : Type 1 where
  | leave (outcome : Except Fault Unit)
  | work {α : Type} (act : Act σ α) (next : Except Fault α → CallScript σ)
  | use {α : Type} (u : CallUse α) (next : Except Fault α → CallScript σ)
  | close (next : Except Fault Unit → CallScript σ)
  | scope (inner : CallScript σ) (next : Except Fault Unit → CallScript σ)

/-- Runs a program under observation. -/
def CallScript.run (dispatch : Act σ (Primitives σ)) (memory : Part σ Cells) :
    CallScript σ → Act (CallState σ) Unit
  | leave outcome => Act.ofExcept outcome
  | work act next => do
    let outcome ← (CallState.restPart.within (Recorded.statePart.within act)).attempt
    (next outcome).run dispatch memory
  | use u next => do
    let outcome ← (CallState.use dispatch memory u).attempt
    (next outcome).run dispatch memory
  | close next => do
    let outcome ← (CallState.close dispatch).attempt
    (next outcome).run dispatch memory
  | scope inner next => do
    let outcome ← (Act.ensuring (inner.run dispatch memory) (CallState.close dispatch)).attempt
    (next outcome).run dispatch memory

/-! ## Single operations -/

namespace DynamicCall

variable (dispatch : Act σ (Primitives σ)) (memory : Part σ Cells) (c : DynamicCall)

/-- Whether the call still has its block. -/
abbrev IsOpen : Prop := c.params.isTruthy

/-- Asking for the address of the block makes no block. -/
private theorem gentle_block : Gentle (c.block : Act (Recorded σ BlockEvent) Value) := by
  unfold block
  split
  · exact .pure _
  · exact .bind (.liftM _) fun _ => .throw _

private theorem gentle_address (param : Value) :
    Gentle (c.address (watchedDispatch dispatch) param) := by
  refine .bind c.gentle_block fun base => .dispatch_bind fun host => ?_
  refine .bind (.asked _) fun prop => ?_
  have hplus : Gentle (do base.plus (← host.watched.measure .propertyOffset prop)) :=
    .bind (.asked _) fun _ => .liftM _
  split
  · exact .bind (.liftM _) fun _ => .bind (.liftM _) fun _ => .bind (.throw _) fun _ => hplus
  · exact hplus

/-- No use of a call gets a block or gives one back. -/
theorem gentle_use (u : CallUse α) :
    Gentle (u.run (watchedDispatch dispatch) (watchedMemory memory) c) := by
  cases u with
  | set param v tag =>
    refine .bind (.liftM _) fun data => .bind (c.gentle_address dispatch param) fun _ => ?_
    exact .bind (.liftM _) fun _ => .wrote memory _
  | get param tag =>
    refine .bind (c.gentle_address dispatch param) fun _ => .bind (.liftM _) fun _ => ?_
    exact .bind (.read memory) fun _ => .bind (.liftM _) fun _ => .liftM _
  | perform =>
    refine .bind c.gentle_block fun _ => .dispatch_bind fun host => ?_
    exact .bind (.asked _) fun _ => .liftM _

/-- A closed call has no block to work with. -/
private theorem runOn_block_of_closed {c : DynamicCall} (h : ¬ c.IsOpen) :
    ∃ e, ∀ s : σ, c.block.runOn s = (.error e, s) := by
  simp only [block, if_neg h]
  cases c.name.spoken with
  | error e => exact ⟨e, fun _ => rfl⟩
  | ok name => exact ⟨_, fun _ => rfl⟩

/-- A use of a closed call fails before it gets to the host or to memory. -/
theorem runOn_use_of_closed {c : DynamicCall} (h : ¬ c.IsOpen) (u : CallUse α) :
    ∃ e, ∀ (dispatch : Act σ (Primitives σ)) (memory : Part σ Cells) (s : σ),
      (u.run dispatch memory c).runOn s = (.error e, s) := by
  obtain ⟨e, he⟩ := runOn_block_of_closed (σ := σ) h
  cases u with
  | set param v tag =>
    cases hd : argument tag v with
    | error e => exact ⟨e, fun _ _ _ => by simp [CallUse.run, setParam, Act.runOn_bind, hd]⟩
    | ok data =>
      exact ⟨e, fun _ _ _ => by simp [CallUse.run, setParam, address, Act.runOn_bind, hd, he]⟩
  | get param tag =>
    exact ⟨e, fun _ _ _ => by simp [CallUse.run, getParam, address, Act.runOn_bind, he]⟩
  | perform => exact ⟨e, fun _ _ _ => by simp [CallUse.run, perform, Act.runOn_bind, he]⟩

/-- The call after it was closed. -/
def closed (c : DynamicCall) : DynamicCall := { c with params := .null }

theorem not_isOpen_closed : ¬ c.closed.IsOpen := by simp [closed, Value.isTruthy]

end DynamicCall

/-- A closed call is closed again for nothing. -/
theorem CallState.runOn_close_of_closed (dispatch : Act σ (Primitives σ)) {s : CallState σ}
    (h : ¬ s.call.IsOpen) : (close dispatch).runOn s = (.ok (), s) := by
  simp only [close, DynamicCall.close, Act.runOn_bind, Part.runOn_read, callPart_get]
  rw [if_neg h]
  rfl

/-- Closing an open call gives its block back, unless there is no host. -/
theorem CallState.runOn_close_of_open (dispatch : Act σ (Primitives σ)) {s : CallState σ}
    (h : s.call.IsOpen) :
    let after := ((close dispatch).runOn s).2
    after.call = s.call.closed ∧ ∃ e, after.rest.trace = s.rest.trace ++ [e] ∧
      (e = .givenBack s.call.func s.call.params ∨ e = .missing) := by
  simp only [close, DynamicCall.close, Act.runOn_bind, Part.runOn_read, callPart_get]
  rw [if_pos h]
  simp only [Act.runOn_bind, Part.runOn_modify, Part.runOn_within, runOn_watchedDispatch,
    callPart_set, restPart_get]
  rcases dispatch.runOn s.rest.state with ⟨_ | host, t⟩
  · exact ⟨rfl, _, rfl, .inr rfl⟩
  · exact ⟨rfl, _, rfl, .inl rfl⟩

/-! ## Whole programs -/

/-- How a call goes on with the events of a run: it stays as it is, or its block is given back last
of all. Nothing happens with a closed call any more. -/
inductive DynamicCall.Lives (c : DynamicCall) : DynamicCall → List BlockEvent → Prop where
  | on {events : List BlockEvent} : Quiet events → (¬ c.IsOpen → events = []) → Lives c c events
  | ended {events : List BlockEvent} {e : BlockEvent} : c.IsOpen → Quiet events →
    (e = .givenBack c.func c.params ∨ e = .missing) → Lives c c.closed (events ++ [e])

namespace DynamicCall.Lives

variable {c d e : DynamicCall} {events more : List BlockEvent}

theorem refl (c : DynamicCall) : c.Lives c [] := .on .nil fun _ => rfl

theorem trans (h : c.Lives d events) (h' : d.Lives e more) : c.Lives e (events ++ more) := by
  cases h with
  -- What follows the life of an open call is its own life, which a closed call ends.
  | on hq hc =>
    cases h' with
    | on hm hd => exact .on (hq.append hm) fun h => by rw [hc h, hd h, List.append_nil]
    | ended ho hm he => rw [← List.append_assoc]; exact .ended ho (hq.append hm) he
  | ended ho hq he =>
    cases h' with
    | on _ hd => rw [hd c.not_isOpen_closed, List.append_nil]; exact .ended ho hq he
    | ended hd => exact (c.not_isOpen_closed hd).elim

/-- The block of a call that is closed in the end was given back exactly once, and that of one that
is open was not. -/
theorem returned_eq (h : c.Lives d events) (hc : c.IsOpen) (hm : .missing ∉ events) :
    returned events = if d.IsOpen then [] else [(c.func, c.params)] := by
  cases h with
  | on hq => rw [if_pos hc, hq.returned_eq]
  | ended _ hq he =>
    obtain rfl | rfl := he
    · rw [if_neg c.not_isOpen_closed, BlockEvent.returned_append, hq.returned_eq]
      rfl
    · simp at hm

end DynamicCall.Lives

/-- A computation on a call and its surroundings, as one step in the life of the call. -/
def Advances (act : Act (CallState σ) α) : Prop :=
  ∀ s, ∃ events, (act.runOn s).2.rest.trace = s.rest.trace ++ events ∧
    s.call.Lives (act.runOn s).2.call events

section Script

variable (dispatch : Act σ (Primitives σ)) (memory : Part σ Cells)

/-- A use is at most some quiet events, and nothing at all if the call is closed. -/
theorem advances_use (u : CallUse α) : Advances (CallState.use dispatch memory u) := by
  intro s
  by_cases ho : s.call.IsOpen
  · obtain ⟨events, hq, ht⟩ := s.call.gentle_use dispatch memory u s.rest
    exact ⟨events, ht, .on hq fun h => (h ho).elim⟩
  · obtain ⟨e, he⟩ := DynamicCall.runOn_use_of_closed (σ := Recorded σ BlockEvent) ho u
    refine ⟨[], ?_, ?_⟩
    · simp [CallState.use, Act.runOn_bind, he]
    · simpa [CallState.use, Act.runOn_bind] using .refl _

/-- Closing ends the life of an open call. -/
theorem advances_close : Advances (CallState.close dispatch) := by
  intro s
  by_cases ho : s.call.IsOpen
  · obtain ⟨hcall, e, ht, he⟩ := CallState.runOn_close_of_open dispatch ho
    rw [hcall]
    exact ⟨[e], ht, .ended ho .nil he⟩
  · rw [CallState.runOn_close_of_closed dispatch ho]
    exact ⟨[], by simp, .refl _⟩

/-- What goes on after a failure goes on from the state that the failure left. -/
theorem Advances.attempt_bind {act : Act (CallState σ) α}
    {next : Except Fault α → Act (CallState σ) β} (h : Advances act)
    (hn : ∀ r, Advances (next r)) : Advances (do next (← act.attempt)) := by
  intro s
  obtain ⟨events, ht, hl⟩ := h s
  obtain ⟨more, hu, hm⟩ := hn (act.runOn s).1 (act.runOn s).2
  refine ⟨events ++ more, ?_, ?_⟩
  · simp only [Act.runOn_bind, Act.runOn_attempt, hu, ht, List.append_assoc]
  · simpa only [Act.runOn_bind, Act.runOn_attempt] using hl.trans hm

theorem Advances.ensuring {body : Act (CallState σ) α} {cleanup : Act (CallState σ) Unit}
    (h : Advances body) (hc : Advances cleanup) : Advances (Act.ensuring body cleanup) := by
  intro s
  obtain ⟨events, ht, hl⟩ := h s
  obtain ⟨more, hu, hm⟩ := hc (body.runOn s).2
  rw [Act.runOn_ensuring]
  exact ⟨events ++ more, by rw [hu, ht, List.append_assoc], hl.trans hm⟩

/-- A whole program is one step in the life of its call. -/
theorem CallScript.advances_run (script : CallScript σ) :
    Advances (script.run dispatch memory) := by
  -- By induction on the program; its continuations start from whatever came before.
  induction script with
  | leave outcome =>
    intro s
    simp only [run, Act.runOn_ofExcept]
    exact ⟨[], by simp, .refl _⟩
  | work act next ih =>
    -- Other work does not have the call, so what it does is not seen.
    exact .attempt_bind (fun s => ⟨[], by simp, .refl s.call⟩) ih
  | use u next ih => exact .attempt_bind (advances_use dispatch memory u) ih
  | close next ih => exact .attempt_bind (advances_close dispatch) ih
  | scope inner next ihInner ihNext =>
    exact .attempt_bind (ihInner.ensuring (advances_close dispatch)) ihNext

/-- A closed call, whatever it was before. -/
theorem CallState.not_isOpen_close (s : CallState σ) :
    ¬ ((close dispatch).runOn s).2.call.IsOpen := by
  by_cases ho : s.call.IsOpen
  · rw [(runOn_close_of_open dispatch ho).1]
    exact s.call.not_isOpen_closed
  · rwa [runOn_close_of_closed dispatch ho]

end Script

/-! ## Opening a call -/

/-- From a state a call by name is granted a block: the object is valid, the host finds a function
with the name on it, and the block that it hands out for the function is not null. Every question is
for the host that is in use when it is asked. -/
inductive Grants (dispatch : Act σ (Primitives σ)) (obj name : Value) (s : σ) :
    DynamicCall → Prop where
  | intro {reference valid func block : Value} {first host : Primitives σ} {s₁ s₂ s₃ s₄ t : σ} :
    obj.rawHandle = .ok reference → reference.orNull.isNull = false →
    dispatch.runOn s = (.ok first, s₁) →
    (first.isValid reference.orNull).runOn s₁ = (.ok valid, s₂) → valid.isTruthy →
    dispatch.runOn s₂ = (.ok host, s₃) →
    (host.findIn .function reference.orNull name).runOn s₃ = (.ok func, s₄) → func.isTruthy →
    (host.allocParams func).runOn s₄ = (.ok block, t) → block.isTruthy →
    Grants dispatch obj name s ⟨reference.orNull, func, name, block⟩

/-- What goes on only under a condition, and otherwise complains of something with a name. -/
private theorem runOn_guard_eq_ok_iff {p : Bool} {name : Except Fault String}
    {complaint : String → Fault}
    {rest : Act σ α} {after : Unit → Act σ α} {s t : σ} {a : α} :
    (if (!p) = true then do
        let text ← (liftM name : Act σ String)
        throw (complaint text) >>= after
      else rest).runOn s = (.ok a, t) ↔ p = true ∧ rest.runOn s = (.ok a, t) := by
  cases p with
  | true => simp
  | false => cases name <;> simp [Act.runOn_bind]

/-- With a granted block nothing fails on the way to the call that owns it. -/
private theorem Grants.openCall_eq_ok {dispatch : Act σ (Primitives σ)} {obj name : Value}
    {s : Recorded σ BlockEvent} {c : DynamicCall} (h : Grants dispatch obj name s.state c) :
    ((DynamicCall.openCall (watchedDispatch dispatch) obj name).runOn s).1 = .ok c := by
  cases h with
  | @intro reference valid func block first host s₁ s₂ s₃ s₄ t hobj hnull hfirst hvalid htrue hhost
      hfind hfunc halloc hblock =>
    have hchecked : (Reference.checked (watchedDispatch dispatch) reference.orNull).runOn s =
        (.ok (), ⟨s₂, s.trace ++ [.asked]⟩) :=
      runOn_checked_eq_ok_iff.2 ⟨hnull, first, valid, s₁, s₂, hfirst, hvalid, htrue, rfl⟩
    have hasked : (host.watched.findIn .function reference.orNull name).runOn
        ⟨s₃, s.trace ++ [.asked]⟩ = (.ok func, ⟨s₄, s.trace ++ [.asked] ++ [.asked]⟩) :=
      runOn_asked_eq_ok_iff.2 ⟨s₄, hfind, rfl⟩
    simp [DynamicCall.openCall, Act.runOn_bind, hobj, hchecked, runOn_watchedDispatch, hhost,
      hasked, hfunc, runOn_allocParams, halloc, hblock]

/-- A call is opened exactly if it is granted a block, which it owns then. -/
theorem DynamicCall.openCall_eq_ok_iff {dispatch : Act σ (Primitives σ)} {obj name : Value}
    {s : Recorded σ BlockEvent} {c : DynamicCall} :
    ((openCall (watchedDispatch dispatch) obj name).runOn s).1 = .ok c ↔
      Grants dispatch obj name s.state c := by
  refine ⟨fun h => ?_, Grants.openCall_eq_ok⟩
  have hrun := Prod.ext (x := (openCall (watchedDispatch dispatch) obj name).runOn s)
    (y := (.ok c, _)) h rfl
  -- What ends well has done so at every step, so the run falls into the questions one by one.
  unfold openCall at hrun
  simp only [Act.runOn_bind_eq_ok_iff, Act.runOn_liftM, runOn_checked_eq_ok_iff,
    runOn_watchedDispatch_eq_ok_iff, runOn_guard_eq_ok_iff] at hrun
  obtain ⟨reference, _, hreference, _, _, ⟨hnull, first, valid, _, _, hfirst, hvalid, htrue, rfl⟩,
    _, _, ⟨host, _, hhost, rfl, rfl⟩, func, _, hasked, hfunc, block, _, halloc, hblock,
    hcall⟩ := hrun
  obtain ⟨hreference, rfl⟩ := Prod.ext_iff.1 hreference
  obtain ⟨_, hfind, rfl⟩ := runOn_asked_eq_ok_iff.1 hasked
  rw [runOn_allocParams] at halloc
  split at halloc
  · next b u hgranted =>
    obtain rfl : b = block := Except.ok.inj (congrArg Prod.fst halloc)
    obtain rfl : _ = c := Except.ok.inj (congrArg Prod.fst hcall)
    exact .intro hreference hnull hfirst hvalid htrue hhost hfind hfunc hgranted hblock
  · cases halloc

/-- A computation that gets a block exactly if it answers a call, which is open and owns it. -/
def Opens (act : Act (Recorded σ BlockEvent) DynamicCall) : Prop :=
  ∀ s, ∃ events, (act.runOn s).2.trace = s.trace ++ events ∧ returned events = [] ∧
    match (act.runOn s).1 with
    | .ok c => c.IsOpen ∧ blocks events = [(c.func, c.params)]
    | .error _ => blocks events = []

namespace Opens

/-- What is done before a block is asked for makes no difference to it. -/
private theorem gentle_bind {act : Act (Recorded σ BlockEvent) α}
    {next : α → Act (Recorded σ BlockEvent) DynamicCall} (h : Gentle act)
    (hn : ∀ a, Opens (next a)) : Opens (act >>= next) := by
  intro s
  obtain ⟨events, hq, ht⟩ := h s
  rw [Act.runOn_bind]
  rcases hr : act.runOn s with ⟨_ | a, t⟩
  · exact ⟨events, by simpa [hr] using ht, hq.returned_eq, hq.blocks_eq⟩
  · obtain ⟨more, hu, hret, hm⟩ := hn a t
    refine ⟨events ++ more, by simp_all, ?_, ?_⟩
    · rw [BlockEvent.returned_append, hq.returned_eq, hret, List.nil_append]
    · rw [BlockEvent.blocks_append, hq.blocks_eq, List.nil_append]
      exact hm

private theorem dispatch_bind {dispatch : Act σ (Primitives σ)}
    {next : Primitives (Recorded σ BlockEvent) → Act (Recorded σ BlockEvent) DynamicCall}
    (h : ∀ host : Primitives σ, Opens (next host.watched)) :
    Opens (watchedDispatch dispatch >>= next) := by
  intro s
  rw [Act.runOn_bind, runOn_watchedDispatch]
  rcases dispatch.runOn s.state with ⟨e | host, t⟩
  · exact ⟨[.missing], rfl, rfl, rfl⟩
  · exact h host { s with state := t }

/-- Null is refused, and anything else is the block of the call. -/
theorem allocParams_bind (host : Primitives σ) (obj func name : Value) :
    Opens (do
      let params ← host.watched.allocParams func
      if !params.isTruthy then
        throw (.ofKind .internal ("alloc_params returned null for " ++ (← name.spoken)))
      return ⟨obj, func, name, params⟩) := by
  intro s
  rw [Act.runOn_bind, runOn_allocParams]
  rcases (host.allocParams func).runOn s.state with ⟨e | block, t⟩
  · -- The host was asked and failed, so it has handed out nothing.
    exact ⟨[.asked], rfl, rfl, rfl⟩
  by_cases hb : block.isTruthy
  · -- Nothing stands between the answer of the host and the call that owns the block.
    refine ⟨[.asked, .handedOut func block], ?_, rfl, ?_⟩
    · simp [hb]
    · simp [hb, blocks, DynamicCall.IsOpen]
  · refine ⟨[.asked, .handedOut func block], ?_, rfl, ?_⟩
    all_goals cases name.spoken <;> simp [hb, Act.runOn_bind, blocks]

end Opens

/-- Every way through the opening of a call gets a block or none. -/
theorem DynamicCall.opens_openCall (dispatch : Act σ (Primitives σ)) (obj name : Value) :
    Opens (openCall (watchedDispatch dispatch) obj name) := by
  unfold openCall
  refine .gentle_bind (.liftM _) fun raw => .gentle_bind (gentle_checked dispatch _) fun _ => ?_
  refine .dispatch_bind fun host => .gentle_bind (.asked _) fun func => ?_
  split
  · exact .gentle_bind (.liftM _) fun _ => .gentle_bind (.throw _) fun _ =>
      .allocParams_bind host _ func name
  · exact .allocParams_bind host _ func name

/-- However a program goes on with a call by name and however it leaves it, the block of the call is
handed out once by the host and given back exactly once, by the time the call is closed.

A call is opened exactly if its object is valid, the function is found and the block is not null.
One that could not be opened leaves no block behind; one that was opened owns the only block that
was handed out for it. After that it stays as it is or is closed, with its block given back last of
all (unless there was no host to take it). Closing always closes, also when a block is left by a
failure; a closed call is closed again for nothing and refuses every use without a look at the host
or at memory. -/
theorem block_given_back_once (dispatch : Act σ (Primitives σ)) (memory : Part σ Cells)
    (obj name : Value) (s : Recorded σ BlockEvent) :
    let opened := (DynamicCall.openCall (watchedDispatch dispatch) obj name).runOn s
    (∀ c, opened.1 = .ok c ↔ Grants dispatch obj name s.state c) ∧
    (∃ events, opened.2.trace = s.trace ++ events ∧ returned events = [] ∧
      match opened.1 with
      | .error _ => blocks events = []
      | .ok c => blocks events = [(c.func, c.params)] ∧
        ∀ script : CallScript σ,
          let after := ((script.run dispatch memory).runOn ⟨c, opened.2⟩).2
          ∃ later, after.rest.trace = opened.2.trace ++ later ∧ c.Lives after.call later ∧
            (.missing ∉ later →
              returned later = if after.call.IsOpen then [] else [(c.func, c.params)])) ∧
    (∀ t : CallState σ,
      ¬ ((CallState.close dispatch).runOn t).2.call.IsOpen ∧
      (∀ script : CallScript σ,
        ¬ (((CallScript.scope script .leave).run dispatch memory).runOn t).2.call.IsOpen) ∧
      (¬ t.call.IsOpen → (CallState.close dispatch).runOn t = (.ok (), t))) ∧
    ∀ c : DynamicCall, ¬ c.IsOpen → ∀ {α : Type} (u : CallUse α),
      ∃ e, ∀ (dispatch : Act σ (Primitives σ)) (memory : Part σ Cells) (t : σ),
        (u.run dispatch memory c).runOn t = (.error e, t) := by
  intro opened
  refine ⟨fun c => DynamicCall.openCall_eq_ok_iff, ?_,
    fun t => ⟨t.not_isOpen_close dispatch, fun script => ?_, ?_⟩, ?_⟩
  · obtain ⟨events, ht, hr, hb⟩ := DynamicCall.opens_openCall dispatch obj name s
    refine ⟨events, ht, hr, ?_⟩
    change match opened.1 with
      | .ok c => c.IsOpen ∧ blocks events = [(c.func, c.params)]
      | .error _ => blocks events = [] at hb
    cases hc : opened.1 with
    | error e => simpa [hc] using hb
    | ok c =>
      rw [hc] at hb
      refine ⟨hb.2, fun script => ?_⟩
      obtain ⟨later, hl, hlives⟩ := script.advances_run dispatch memory ⟨c, opened.2⟩
      exact ⟨later, hl, hlives, hlives.returned_eq hb.1⟩
  · simp only [CallScript.run, Act.runOn_bind, Act.runOn_attempt, Act.runOn_ofExcept,
      Act.runOn_ensuring]
    exact CallState.not_isOpen_close dispatch _
  · exact CallState.runOn_close_of_closed dispatch
  · intro c hc α u
    exact DynamicCall.runOn_use_of_closed hc u

end Bindery
