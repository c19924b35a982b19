import Bindery.Handle.Reference
import Bindery.Memory
import Bindery.Proofs.Effect

/-!
# Blocks under observation

A host whose blocks for parameters are recorded, together with whatever else is asked of it and with
the writes to memory. Nothing is assumed of the host: it may answer anything, each of its primitives
may fail, and it may not be there at all.

* `BlockEvent`: what can be seen. `Quiet` events are about no block as such.
* `watchedDispatch`, `watchedMemory`: the host and the memory under observation.
* `Gentle`: a computation that neither gets a block nor gives one back.
-/

namespace Bindery

open Host

/-- What a call does to the host and to memory. -/
inductive BlockEvent where
  /-- The host handed out a block for a function, which may be null. -/
  | handedOut (func block : Value)
  /-- The host was given the block of a function back. -/
  | givenBack (func block : Value)
  /-- The host was asked for something else. -/
  | asked
  /-- There was no host. -/
  | missing
  /-- Memory was written. -/
  | wrote

namespace BlockEvent

/-- Whether an event is about no block as such. -/
def IsQuiet : BlockEvent → Prop
  | handedOut _ _ | givenBack _ _ => False
  | asked | missing | wrote => True

/-- Events that are about no block as such. -/
def Quiet (events : List BlockEvent) : Prop := ∀ e ∈ events, e.IsQuiet

/-- The blocks that were handed out and are not null, with their functions. -/
def blocks (events : List BlockEvent) : List (Value × Value) :=
  events.filterMap fun
    | handedOut func block => if block.isTruthy then some (func, block) else none
    | _ => none

/-- The blocks that were given back, with their functions. -/
def returned (events : List BlockEvent) : List (Value × Value) :=
  events.filterMap fun
    | givenBack func block => some (func, block)
    | _ => none

theorem Quiet.nil : Quiet [] := fun _ h => nomatch h

theorem Quiet.singleton {e : BlockEvent} (h : e.IsQuiet) : Quiet [e] := by
  simpa [Quiet] using h

theorem Quiet.append {events more : List BlockEvent} (h : Quiet events) (hm : Quiet more) :
    Quiet (events ++ more) := by
  intro e he
  exact (List.mem_append.mp he).elim (h e) (hm e)

/-- Quiet events hand out nothing. -/
theorem Quiet.blocks_eq {events : List BlockEvent} (h : Quiet events) : blocks events = [] := by
  simp only [blocks, List.filterMap_eq_nil_iff]
  intro e he
  cases e with
  | handedOut => exact (h _ he).elim
  | _ => rfl

/-- Quiet events give nothing back. -/
theorem Quiet.returned_eq {events : List BlockEvent} (h : Quiet events) : returned events = [] := by
  simp only [returned, List.filterMap_eq_nil_iff]
  intro e he
  cases e with
  | givenBack => exact (h _ he).elim
  | _ => rfl

theorem blocks_append (events more : List BlockEvent) :
    blocks (events ++ more) = blocks events ++ blocks more := List.filterMap_append

theorem returned_append (events more : List BlockEvent) :
    returned (events ++ more) = returned events ++ returned more := List.filterMap_append

end BlockEvent

open BlockEvent (Quiet blocks returned)

/-! ## Under observation -/

/-- The state apart from its record; every change of it leaves a note. -/
def Recorded.marking {σ ε : Type} (e : ε) : Part (Recorded σ ε) σ :=
  ⟨state, fun s r => ⟨s, r.trace ++ [e]⟩⟩

variable {σ α β : Type}

/-- The host with every call of it recorded. A block counts as given back once the host was called
with it, even if the call fails. -/
def Host.Primitives.watched (host : Primitives σ) : Primitives (Recorded σ BlockEvent) :=
  { host.within (Recorded.marking .asked) with
    allocParams := fun func => do
      let block ← (Recorded.marking .asked).within (host.allocParams func)
      Recorded.note (.handedOut func block)
      return block
    freeParams := fun func block => do
      Recorded.note (.givenBack func block)
      Recorded.statePart.within (host.freeParams func block) }

/-- The host in use, under observation. -/
def watchedDispatch (dispatch : Act σ (Primitives σ)) :
    Act (Recorded σ BlockEvent) (Primitives (Recorded σ BlockEvent)) := do
  match ← (Recorded.statePart.within dispatch).attempt with
  | .ok host => return host.watched
  | .error e =>
    Recorded.note .missing
    throw e

/-- Memory with every write to it recorded. -/
def watchedMemory (memory : Part σ Cells) : Part (Recorded σ BlockEvent) Cells :=
  (Recorded.marking .wrote).comp memory

/-! ## Gentle computations -/

/-- A computation that neither gets a block nor gives one back. -/
def Gentle (act : Act (Recorded σ BlockEvent) α) : Prop :=
  ∀ s, ∃ events, Quiet events ∧ (act.runOn s).2.trace = s.trace ++ events

namespace Gentle

/-- What leaves the state as it is leaves no event. -/
theorem of_state_eq {act : Act (Recorded σ BlockEvent) α} (h : ∀ s, (act.runOn s).2 = s) :
    Gentle act := fun s => ⟨[], .nil, by rw [h, List.append_nil]⟩

protected theorem pure (a : α) : Gentle (pure a : Act (Recorded σ BlockEvent) α) :=
  .of_state_eq fun _ => rfl

protected theorem throw (e : Fault) : Gentle (throw e : Act (Recorded σ BlockEvent) α) :=
  .of_state_eq fun _ => rfl

protected theorem liftM (r : Except Fault α) :
    Gentle (liftM r : Act (Recorded σ BlockEvent) α) := .of_state_eq fun _ => rfl

protected theorem bind {act : Act (Recorded σ BlockEvent) α}
    {next : α → Act (Recorded σ BlockEvent) β} (h : Gentle act) (hn : ∀ a, Gentle (next a)) :
    Gentle (act >>= next) := by
  intro s
  obtain ⟨events, hq, ht⟩ := h s
  rw [Act.runOn_bind]
  rcases hr : act.runOn s with ⟨_ | a, t⟩
  · exact ⟨events, hq, by simpa [hr] using ht⟩
  · obtain ⟨more, hm, hu⟩ := hn a t
    exact ⟨events ++ more, hq.append hm, by simp_all⟩

/-- Every primitive but those for blocks is gentle. -/
theorem asked (act : Act σ α) :
    Gentle ((Recorded.marking .asked).within act : Act (Recorded σ BlockEvent) α) :=
  fun _ => ⟨[.asked], .singleton trivial, rfl⟩

theorem wrote (memory : Part σ Cells) (f : Cells → Cells) :
    Gentle ((watchedMemory memory).modify f) :=
  fun _ => ⟨[.wrote], .singleton trivial, rfl⟩

theorem read (memory : Part σ Cells) : Gentle (watchedMemory memory).read :=
  .of_state_eq fun _ => rfl

end Gentle

/-- A block is on the record once it was handed out. -/
theorem runOn_allocParams (host : Primitives σ) (func : Value) (s : Recorded σ BlockEvent) :
    (host.watched.allocParams func).runOn s =
      match (host.allocParams func).runOn s.state with
      | (.ok block, t) => (.ok block, ⟨t, s.trace ++ [.asked, .handedOut func block]⟩)
      | (.error e, t) => (.error e, ⟨t, s.trace ++ [.asked]⟩) := by
  simp only [Host.Primitives.watched, Act.runOn_bind, Part.runOn_within, Recorded.marking]
  rcases (host.allocParams func).runOn s.state with ⟨_ | block, t⟩ <;> simp

/-- A host that is missing is on the record. -/
theorem runOn_watchedDispatch (dispatch : Act σ (Primitives σ)) (s : Recorded σ BlockEvent) :
    (watchedDispatch dispatch).runOn s =
      match dispatch.runOn s.state with
      | (.ok host, t) => (.ok host.watched, { s with state := t })
      | (.error e, t) => (.error e, ⟨t, s.trace ++ [.missing]⟩) := by
  simp only [watchedDispatch, Act.runOn_bind, Act.runOn_attempt, Part.runOn_within,
    Recorded.statePart_get, Recorded.statePart_set]
  rcases dispatch.runOn s.state with ⟨_ | host, t⟩ <;> rfl

/-- The host under observation is the one in use. -/
theorem runOn_watchedDispatch_eq_ok_iff {dispatch : Act σ (Primitives σ)}
    {s t : Recorded σ BlockEvent} {watched : Primitives (Recorded σ BlockEvent)} :
    (watchedDispatch dispatch).runOn s = (.ok watched, t) ↔
      ∃ host u, dispatch.runOn s.state = (.ok host, u) ∧ watched = host.watched ∧
        t = { s with state := u } := by
  rw [runOn_watchedDispatch]
  rcases dispatch.runOn s.state with ⟨_ | host, u⟩ <;> simp [eq_comm]

/-- A question is answered as the host answers it, and leaves a note. -/
theorem runOn_asked_eq_ok_iff {act : Act σ α} {s t : Recorded σ BlockEvent} {a : α} :
    ((Recorded.marking .asked).within act : Act (Recorded σ BlockEvent) α).runOn s = (.ok a, t) ↔
      ∃ u, act.runOn s.state = (.ok a, u) ∧ t = ⟨u, s.trace ++ [.asked]⟩ := by
  simp only [Part.runOn_within, Recorded.marking]
  rcases act.runOn s.state with ⟨_ | b, u⟩ <;> simp [eq_comm]

/-- To go on with the host in use, it is enough to do so with any host. -/
theorem Gentle.dispatch_bind {dispatch : Act σ (Primitives σ)}
    {next : Primitives (Recorded σ BlockEvent) → Act (Recorded σ BlockEvent) α}
    (h : ∀ host : Primitives σ, Gentle (next host.watched)) :
    Gentle (watchedDispatch dispatch >>= next) := by
  intro s
  rw [Act.runOn_bind, runOn_watchedDispatch]
  rcases dispatch.runOn s.state with ⟨e | host, t⟩
  · exact ⟨[.missing], .singleton trivial, rfl⟩
  · exact h host { s with state := t }

/-- Looking whether an object is there makes no block. -/
theorem gentle_checked (dispatch : Act σ (Primitives σ)) (h : Value) :
    Gentle (Reference.checked (watchedDispatch dispatch) h) := by
  have hvalid : Gentle (Reference.isValid (watchedDispatch dispatch) h) := by
    unfold Reference.isValid
    split
    · exact .pure _
    · -- Only an object that is not null is asked about.
      exact .dispatch_bind fun _ => .asked _
  refine .bind hvalid fun valid => ?_
  split
  · exact .throw _
  · exact .pure _

/-- An object passes the check if its handle is not null and the host answers that it is valid. -/
theorem runOn_checked_eq_ok_iff {dispatch : Act σ (Primitives σ)} {h : Value} {checked : Unit}
    {s t : Recorded σ BlockEvent} :
    (Reference.checked (watchedDispatch dispatch) h).runOn s = (.ok checked, t) ↔
      h.isNull = false ∧ ∃ host valid u v, dispatch.runOn s.state = (.ok host, u) ∧
        (host.isValid h).runOn u = (.ok valid, v) ∧ valid.isTruthy ∧
        t = ⟨v, s.trace ++ [.asked]⟩ := by
  unfold Reference.checked Reference.isValid
  cases hnull : h.isNull with
  | true => simp [Value.isTruthy]
  | false =>
    simp only [Act.runOn_bind_eq_ok_iff, runOn_watchedDispatch_eq_ok_iff, Bool.false_eq_true,
      if_false, true_and]
    constructor
    · rintro ⟨valid, _, ⟨_, _, ⟨host, u, hhost, rfl, rfl⟩, hasked⟩, hpassed⟩
      obtain ⟨v, hvalid, rfl⟩ := runOn_asked_eq_ok_iff.1 hasked
      cases htruthy : valid.isTruthy with
      | true =>
        exact ⟨host, valid, u, v, hhost, hvalid, htruthy, by simpa [htruthy] using hpassed.symm⟩
      | false => simp [htruthy] at hpassed
    · rintro ⟨host, valid, u, v, hhost, hvalid, htruthy, rfl⟩
      have hasked := runOn_asked_eq_ok_iff (s := { s with state := u }) |>.2 ⟨v, hvalid, rfl⟩
      exact ⟨valid, _, ⟨_, _, ⟨host, u, hhost, rfl, rfl⟩, hasked⟩, by simp [htruthy]⟩

end Bindery
