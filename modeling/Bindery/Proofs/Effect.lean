import Bindery.Cache
import Bindery.Effect
import Bindery.Host.Primitives
import Bindery.Proofs.Association
import Mathlib.Data.List.DropRight

/-!
# Runs of effects

What `Act.runOn` makes of each way to build a computation, and states that keep a record of what
happened.

* `Act.runOn_bind`, `runOn_tryCatch`, `runOn_ensuring`: a run goes on from the state in which its
  first part ended, however that ended.
* `Act.attempt`: a computation with its outcome as its result.
* `Act.Leaves`: a computation that leaves a component of the state as it is.
* `Recorded`: a state and the events so far. `Recorded.statePart` runs a computation on the state
  and leaves the events as they are; `Recorded.note` adds one.
* `sinceLast`: the events after the last one of a kind.
* `Cache.runOn_getOrInit_of_some`, `runOn_getOrInit_of_error`, `runOn_getOrInit_of_ok`: the value
  of a write-once cache is there, or its initialisation fails, or it ends.
* `Host.Primitives.within`: the primitives of a host that is a component of the state.
* `TempCall`: a temporary that the host handed out, or one that it was given back.
* `Host.Primitives.recording`, `recordingDispatch`: the host with its calls for temporaries
  recorded in the order in which they are made. Nothing is assumed of the host: it may answer
  anything, and each of its primitives may fail.
-/

namespace Bindery

namespace Act

variable {σ α β : Type}

@[simp] theorem runOn_pure (a : α) (s : σ) : (pure a : Act σ α).runOn s = (.ok a, s) := rfl

@[simp] theorem runOn_throw (e : Fault) (s : σ) : (throw e : Act σ α).runOn s = (.error e, s) := rfl

@[simp] theorem runOn_ofRun (f : σ → Except Fault α × σ) (s : σ) : (ofRun f).runOn s = f s := rfl

/-- What comes next starts from the state that the first part left, and does not run after a
failure. -/
theorem runOn_bind (act : Act σ α) (next : α → Act σ β) (s : σ) :
    (act >>= next).runOn s =
      match act.runOn s with
      | (.ok a, t) => (next a).runOn t
      | (.error e, t) => (.error e, t) := by
  show (ExceptT.bind act next) s = _
  simp only [ExceptT.bind, ExceptT.mk, runOn, ExceptT.run, StateT.run, bind, StateT.bind]
  rcases act s with ⟨_ | _, t⟩ <;> rfl

/-- What ends well has ended well at every step. -/
theorem runOn_bind_eq_ok_iff {act : Act σ α} {next : α → Act σ β} {s t : σ} {b : β} :
    (act >>= next).runOn s = (.ok b, t) ↔
      ∃ a u, act.runOn s = (.ok a, u) ∧ (next a).runOn u = (.ok b, t) := by
  rw [runOn_bind]
  rcases act.runOn s with ⟨_ | a, u⟩ <;> simp

theorem runOn_map (f : α → β) {act : Act σ α} {a : α} {s t : σ} (h : act.runOn s = (.ok a, t)) :
    (f <$> act).runOn s = (.ok (f a), t) := by
  rw [map_eq_pure_bind, runOn_bind, h]
  rfl

/-- The handler starts from the state in which the failure was reached. -/
theorem runOn_tryCatch (act : Act σ α) (handle : Fault → Act σ α) (s : σ) :
    (tryCatch act handle).runOn s =
      match act.runOn s with
      | (.ok a, t) => (.ok a, t)
      | (.error e, t) => (handle e).runOn t := by
  show (ExceptT.tryCatch act handle) s = _
  simp only [ExceptT.tryCatch, ExceptT.mk, runOn, ExceptT.run, StateT.run, bind, StateT.bind]
  rcases act s with ⟨_ | _, t⟩ <;> rfl

/-- Whatever `body` did, the state after it is the one that `cleanup` starts from. -/
theorem runOn_ensuring (body : Act σ α) (cleanup : Act σ Unit) (s : σ) :
    ((ensuring body cleanup).runOn s).2 = (cleanup.runOn (body.runOn s).2).2 := by
  simp only [ensuring, runOn_ofRun]
  rcases cleanup.runOn (body.runOn s).2 with ⟨_ | _, t⟩ <;> rfl

/-- A clean-up that does not fail leaves the outcome of the body. -/
theorem outcome_ensuring (body : Act σ α) (cleanup : Act σ Unit) (s : σ) :
    ((ensuring body cleanup).runOn s).1 = (body.runOn s).1 ∨
      ∃ e, (cleanup.runOn (body.runOn s).2).1 = .error e ∧
        ((ensuring body cleanup).runOn s).1 = .error e := by
  simp only [ensuring, runOn_ofRun]
  rcases cleanup.runOn (body.runOn s).2 with ⟨e | _, t⟩
  · exact .inr ⟨e, rfl, rfl⟩
  · exact .inl rfl

@[simp] theorem runOn_update (f : σ → σ) (s : σ) : (update f).runOn s = (.ok (), f s) := rfl

/-- A result that was there before changes nothing. -/
theorem runOn_ofExcept (r : Except Fault α) (s : σ) : (ofExcept r).runOn s = (r, s) := by
  cases r <;> rfl

@[simp] theorem runOn_liftM (r : Except Fault α) (s : σ) :
    (liftM r : Act σ α).runOn s = (r, s) := rfl

/-- A pass over a list whose steps leave the state as it is. -/
theorem runOn_mapM {f : α → Act σ β} {g : α → Except Fault β} {xs : List α} {s : σ}
    (h : ∀ x ∈ xs, (f x).runOn s = (g x, s)) : (xs.mapM f).runOn s = (xs.mapM g, s) := by
  induction xs with
  | nil => rfl
  | cons x xs ih =>
    have hrest := ih fun y hy => h y (.tail _ hy)
    simp only [List.mapM_cons, runOn_bind, h x (.head _)]
    cases g x with
    | error e => rfl
    | ok b =>
      simp only [hrest]
      cases xs.mapM g <;> rfl

/-- A computation with its outcome as its result, for what goes on after a failure too. -/
def attempt (act : Act σ α) : Act σ (Except Fault α) :=
  ofRun fun s => (.ok (act.runOn s).1, (act.runOn s).2)

@[simp] theorem runOn_attempt (act : Act σ α) (s : σ) :
    act.attempt.runOn s = (.ok (act.runOn s).1, (act.runOn s).2) := rfl

end Act

namespace Part

variable {σ α β : Type}

@[simp] theorem whole_get (s : σ) : whole.get s = s := rfl

@[simp] theorem runOn_read (p : Part σ α) (s : σ) : p.read.runOn s = (.ok (p.get s), s) := rfl

@[simp] theorem runOn_modify (p : Part σ α) (f : α → α) (s : σ) :
    (p.modify f).runOn s = (.ok (), p.set (f (p.get s)) s) := rfl

@[simp] theorem runOn_within (p : Part σ α) (act : Act α β) (s : σ) :
    (p.within act).runOn s = ((act.runOn (p.get s)).1, p.set (act.runOn (p.get s)).2 s) := rfl

end Part

/-! ## Components that stay -/

/-- A computation that leaves a component of the state as it is, however it ends. -/
def Act.Leaves {σ α ρ : Type} (p : Part σ ρ) (act : Act σ α) : Prop :=
  ∀ s, p.get (act.runOn s).2 = p.get s

namespace Act.Leaves

variable {σ α β ρ : Type} {p : Part σ ρ}

theorem pure (a : α) : Leaves p (Pure.pure a) := fun _ => rfl

theorem throw (e : Fault) : Leaves p (MonadExcept.throw e : Act σ α) := fun _ => rfl

theorem ofExcept (r : Except Fault α) : Leaves p (Act.ofExcept r) := fun s => by
  rw [runOn_ofExcept]

theorem read {γ : Type} (q : Part σ γ) : Leaves p q.read := fun _ => rfl

theorem bind {act : Act σ α} {next : α → Act σ β} (h : Leaves p act)
    (hnext : ∀ a, Leaves p (next a)) : Leaves p (act >>= next) := by
  intro s
  have hact := h s
  rw [runOn_bind]
  generalize act.runOn s = r at hact ⊢
  rcases r with ⟨_ | a, t⟩
  · exact hact
  · exact (hnext a t).trans hact

theorem map {act : Act σ α} (h : Leaves p act) (f : α → β) : Leaves p (f <$> act) := by
  rw [map_eq_pure_bind]
  exact h.bind fun a => .pure (f a)

theorem tryCatch {act : Act σ α} {handle : Fault → Act σ α} (h : Leaves p act)
    (hhandle : ∀ e, Leaves p (handle e)) : Leaves p (MonadExcept.tryCatch act handle) := by
  intro s
  have hact := h s
  rw [runOn_tryCatch]
  generalize act.runOn s = r at hact ⊢
  rcases r with ⟨e | _, t⟩
  · exact (hhandle e t).trans hact
  · exact hact

/-- A change of another component. -/
theorem within {γ : Type} {q : Part σ γ} (h : ∀ c s, p.get (q.set c s) = p.get s) (act : Act γ α) :
    Leaves p (q.within act) := fun s => h _ s

end Act.Leaves

/-! ## Records -/

/-- A state and the events so far, the first one first. -/
structure Recorded (σ ε : Type) where
  state : σ
  trace : List ε := []

namespace Recorded

variable {σ ε : Type}

/-- The state apart from its record. -/
def statePart : Part (Recorded σ ε) σ := ⟨state, fun s r => { r with state := s }⟩

/-- Adds an event to the record. -/
def note (e : ε) : Act (Recorded σ ε) Unit := Act.update fun r => { r with trace := r.trace ++ [e] }

@[simp] theorem statePart_get (r : Recorded σ ε) : statePart.get r = r.state := rfl

@[simp] theorem statePart_set (s : σ) (r : Recorded σ ε) :
    statePart.set s r = { r with state := s } := rfl

@[simp] theorem runOn_note (e : ε) (r : Recorded σ ε) :
    (note e).runOn r = (.ok (), { r with trace := r.trace ++ [e] }) := rfl

end Recorded

/-! ## Events -/

/-- An event among others is the last one, or one of those before. -/
theorem cases_of_concat_eq {ε : Type} {events before after : List ε} {e x : ε}
    (h : events ++ [e] = before ++ x :: after) :
    (before = events ∧ x = e ∧ after = []) ∨
      ∃ rest, after = rest ++ [e] ∧ events = before ++ x :: rest := by
  rcases List.eq_nil_or_concat after with rfl | ⟨rest, last, rfl⟩
  · obtain ⟨hbefore, hlast⟩ := List.append_inj' h rfl
    exact .inl ⟨hbefore.symm, (List.singleton_inj.mp hlast).symm, rfl⟩
  · -- Both lists end, so their last events are the same.
    have hsplit : events ++ [e] = (before ++ x :: rest) ++ [last] := by
      rw [h, List.concat_eq_append, List.append_assoc, List.cons_append]
    obtain ⟨hbefore, hlast⟩ := List.append_inj' hsplit rfl
    exact .inr ⟨rest, by rw [List.concat_eq_append, ← List.singleton_inj.mp hlast], hbefore⟩

/-- The events after the last one of a kind. -/
def sinceLast {ε : Type} (kind : ε → Bool) (trace : List ε) : List ε :=
  trace.rtakeWhile fun e => !kind e

section SinceLast

variable {ε : Type} {kind : ε → Bool} {e : ε}

theorem sinceLast_concat_of_not (h : kind e = false) (trace : List ε) :
    sinceLast kind (trace ++ [e]) = sinceLast kind trace ++ [e] :=
  List.rtakeWhile_concat_pos _ _ _ (by simp [h])

/-- An event of the kind starts anew. -/
theorem sinceLast_concat_of (h : kind e = true) (trace : List ε) :
    sinceLast kind (trace ++ [e]) = [] := List.rtakeWhile_concat_neg _ _ _ (by simp [h])

/-- Events of no such kind are all kept. -/
theorem sinceLast_append {new : List ε} (h : ∀ e ∈ new, kind e = false) (trace : List ε) :
    sinceLast kind (trace ++ new) = sinceLast kind trace ++ new := by
  induction new using List.reverseRecOn with
  | nil => simp
  | append_singleton new e ih =>
    have hlast : kind e = false := h e (by simp)
    rw [← List.append_assoc, sinceLast_concat_of_not hlast,
      ih fun e he => h e (List.mem_append_left _ he), List.append_assoc]

/-- What was before an event of the kind is not among them. -/
theorem sinceLast_suffix (h : kind e = true) (trace new : List ε) :
    sinceLast kind (trace ++ e :: new) <:+ new := by
  induction new using List.reverseRecOn with
  | nil =>
    have hnil : sinceLast kind (trace ++ [e]) = [] := sinceLast_concat_of h trace
    simp only [hnil, List.nil_suffix]
  | append_singleton new last ih =>
    rw [← List.cons_append, ← List.append_assoc]
    cases hl : kind last with
    | true => simp only [sinceLast_concat_of hl, List.nil_suffix]
    | false =>
      rw [sinceLast_concat_of_not hl]
      obtain ⟨before, hbefore⟩ := ih
      exact ⟨before, by rw [← List.append_assoc, hbefore]⟩

end SinceLast

/-! ## Write-once caches -/

namespace Cache

variable {σ κ α : Type} [BEq κ] {cache : Part σ (Cache κ α)} {key : κ} {init : Act σ α} {s t : σ}
  {a : α} {e : Fault}

/-- A value that is there is not made again. -/
theorem runOn_getOrInit_of_some (h : (cache.get s).get? key = some a) :
    (getOrInit cache key init).runOn s = (.ok a, s) := by
  simp only [getOrInit, Act.runOn_bind, Part.runOn_read, h, Act.runOn_pure]

/-- If its initialisation fails there is no value, but what that did has happened. -/
theorem runOn_getOrInit_of_error (h : (cache.get s).get? key = none)
    (hinit : init.runOn s = (.error e, t)) :
    (getOrInit cache key init).runOn s = (.error e, t) := by
  simp only [getOrInit, Act.runOn_bind, Part.runOn_read, h, hinit]

/-- The initialisation may have stored a value itself, which then stays. -/
theorem runOn_getOrInit_of_ok (h : (cache.get s).get? key = none)
    (hinit : init.runOn s = (.ok a, t)) :
    (getOrInit cache key init).runOn s =
      match (cache.get t).get? key with
      | some b => (.ok b, t)
      | none => (.ok a, cache.set (Assoc.set key a (cache.get t)) t) := by
  simp only [getOrInit, Act.runOn_bind, Part.runOn_read, h, hinit]
  cases (cache.get t).get? key <;> rfl

end Cache

/-! ## Hosts under observation -/

namespace Host

variable {σ τ : Type}

/-- The primitives of a host that is a component of the state. -/
def Primitives.within (p : Part τ σ) (host : Primitives σ) : Primitives τ where
  isValid v := p.within (host.isValid v)
  objectName v := p.within (host.objectName v)
  makeName v := p.within (host.makeName v)
  nameText v := p.within (host.nameText v)
  makeWeak v := p.within (host.makeWeak v)
  resolveWeak v := p.within (host.resolveWeak v)
  isWeakValid v := p.within (host.isWeakValid v)
  find g v := p.within (host.find g v)
  findIn m v w := p.within (host.findIn m v w)
  measure m v := p.within (host.measure m v)
  allocParams v := p.within (host.allocParams v)
  freeParams v w := p.within (host.freeParams v w)
  callFunction u v w := p.within (host.callFunction u v w)
  getScalar k v w := p.within (host.getScalar k v w)
  setScalar k v w x := p.within (host.setScalar k v w x)
  getText v w n := p.within (host.getText v w n)
  setText v w d := p.within (host.setText v w d)
  getStruct v w n := p.within (host.getStruct v w n)
  setStruct v w d := p.within (host.setStruct v w d)
  getElement u v w n := p.within (host.getElement u v w n)
  setElement u v w d := p.within (host.setElement u v w d)
  count s v w := p.within (host.count s v w)
  clear s v w := p.within (host.clear s v w)
  copyAll s v w := p.within (host.copyAll s v w)
  arrayGet u v w n := p.within (host.arrayGet u v w n)
  arraySet u v w d := p.within (host.arraySet u v w d)
  arrayAdd v w d := p.within (host.arrayAdd v w d)
  arrayRemove u v w := p.within (host.arrayRemove u v w)
  arraySetAll v w d n := p.within (host.arraySetAll v w d n)
  mapFind v w d n := p.within (host.mapFind v w d n)
  mapAdd v w d e := p.within (host.mapAdd v w d e)
  mapRemove v w d := p.within (host.mapRemove v w d)
  mapPair u v w m n := p.within (host.mapPair u v w m n)
  setContains v w d := p.within (host.setContains v w d)
  setAdd v w d := p.within (host.setAdd v w d)
  setRemove v w d := p.within (host.setRemove v w d)
  setGet u v w n := p.within (host.setGet u v w n)
  allocTemp v := p.within (host.allocTemp v)
  freeTemp v w := p.within (host.freeTemp v w)
  bind v w n := p.within (host.bind v w n)
  unbind v w := p.within (host.unbind v w)
  addMulticast v w n := p.within (host.addMulticast v w n)
  removeMulticast v w n := p.within (host.removeMulticast v w n)
  broadcast u v w := p.within (host.broadcast u v w)

end Host

/-- A call for a temporary: what the host handed out for a property, which may be null, or what it
was given back for one. -/
inductive TempCall where
  | handedOut (prop base : Value)
  | givenBack (prop base : Value)

namespace Host

variable {σ : Type}

/-- The host with its calls for temporaries recorded. A base counts as given back once the host was
called with it, even if the call fails. -/
def Primitives.recording (host : Primitives σ) : Primitives (Recorded σ TempCall) :=
  { host.within Recorded.statePart with
    allocTemp := fun prop => do
      let base ← Recorded.statePart.within (host.allocTemp prop)
      Recorded.note (.handedOut prop base)
      return base
    freeTemp := fun prop base => do
      Recorded.note (.givenBack prop base)
      Recorded.statePart.within (host.freeTemp prop base) }

/-- The host in use, under observation. -/
def recordingDispatch (dispatch : Act σ (Primitives σ)) :
    Act (Recorded σ TempCall) (Primitives (Recorded σ TempCall)) := do
  return (← Recorded.statePart.within dispatch).recording

end Host

end Bindery
