import Bindery.Proofs.Callback.Ledger
import Bindery.Proofs.Effect

/-!
# Callbacks that use their own registry

Callbacks run while the registry that they are registered in is in use: they may register, remove
and start callbacks, themselves among them, and fail. However deeply that nests, a callback starts
only for a registration that has not been removed and that it is not already running for, and once
no callback is running the registry has exactly the registrations that were not removed.

* `Routine`, `Routine.run`: what a callback does, and who uses the registry from outside.
* `Observed`: a registry, whatever else routines work on, and the events so far.
* `Observed.start`: runs the callback at an id, with callbacks nested up to a depth.
* `Observed.Sound`: the registry reflects the ledger of its events, and no callback started that
  might not.
* `Observed.Leads`: soundness is kept, and the callbacks that run afterwards are those that ran
  before. Every routine minds that (`minds_run`), since every operation does (`leads_register`, …,
  `minds_invoke`).
* `invoke_disciplined`: the main statement.
-/

namespace Bindery

variable {β τ α γ : Type}

/-- What a callback or its surroundings do, one thing after the other: work on a state of their own,
and use the registry. What comes next depends on the outcome, so a failure of a callback may be
caught or passed on. -/
inductive Routine (β τ : Type) : Type 1 where
  | leave (outcome : Except Fault Unit)
  | work {α : Type} (act : Act τ α) (next : Except Fault α → Routine β τ)
  | register (callback : β) (next : Int → Routine β τ)
  | unregister (id : Int) (next : Routine β τ)
  | clear (next : Routine β τ)
  | invoke (id : Int) (next : Except Fault Unit → Routine β τ)

/-- A registry and a state of the callbacks, with the events so far. -/
abbrev Observed (β τ : Type) := Recorded (Registry β × τ) (RegistryEvent β)

namespace Observed

/-- The registry. -/
def registryPart : Part (Observed β τ) (Registry β) :=
  Recorded.statePart.comp ⟨Prod.fst, fun registry s => (registry, s.2)⟩

/-- The state of the callbacks. -/
def ownPart : Part (Observed β τ) τ := Recorded.statePart.comp ⟨Prod.snd, fun own s => (s.1, own)⟩

/-- The registry and the events before anything happened. -/
def fresh (own : τ) : Observed β τ := { state := ({}, own) }

/-- The registrations and the running callbacks by now. -/
def ledger (s : Observed β τ) : Ledger β := Ledger.of s.trace

/-- The registry by now. -/
def registry (s : Observed β τ) : Registry β := s.state.1

end Observed

open Observed Recorded

/-- Runs a routine, where `start` runs the callback at an id. -/
def Routine.run (start : Int → Act (Observed β τ) Unit) : Routine β τ → Act (Observed β τ) Unit
  | leave outcome => Act.ofExcept outcome
  | work act next => do
    let outcome ← (ownPart.within act).attempt
    (next outcome).run start
  | register callback next => do
    let id ← registryPart.run (Registry.register callback)
    note (.registered id callback)
    (next id).run start
  | unregister id next => do
    registryPart.modify (Registry.unregister id)
    note (.unregistered id)
    next.run start
  | clear next => do
    registryPart.modify fun _ => Registry.clear
    note .cleared
    next.run start
  | invoke id next => do
    let outcome ← (start id).attempt
    (next outcome).run start

/-! ## The callback at an id -/

namespace Registry

variable {σ : Type} {part : Part σ (Registry β)} {run : β → Act σ Unit} {id : Int} {s : σ}

theorem runOn_invoke_of_none (h : (part.get s).idle? id = none) :
    (Registry.invoke part run id).runOn s = (.ok (), s) := by
  simp only [Registry.invoke, Act.runOn_bind, Part.runOn_read, h, Act.runOn_pure]

/-- The callback runs while its place is vacant, and is put back into what it leaves behind. -/
theorem runOn_invoke_of_some {callback : β} (h : (part.get s).idle? id = some callback) :
    ((Registry.invoke part run id).runOn s).2 =
      let t := ((run callback).runOn (part.set ((part.get s).takeOut id) s)).2
      part.set ((part.get t).putBack id callback) t := by
  simp only [Registry.invoke, Act.runOn_bind, Part.runOn_read, h, Part.runOn_modify,
    Act.runOn_ensuring]

end Registry

namespace Observed

/-- A callback at an id while it runs. -/
def bracketed (id : Int) (callback : β) (act : Act (Observed β τ) Unit) :
    Act (Observed β τ) Unit := do
  note (.started id callback)
  Act.ensuring act (note (.ended id))

/-- Runs the callback at an id, where `body` says what callbacks do. -/
def start (body : β → Routine β τ) : Nat → Int → Act (Observed β τ) Unit
  | 0, _ => throw .tooDeep
  | depth + 1, id =>
    Registry.invoke registryPart
      (fun callback => bracketed id callback ((body callback).run (start body depth))) id

/-! ## Soundness -/

/-- Every callback that started was allowed to by what had happened before. -/
def StartsAllowed (trace : List (RegistryEvent β)) : Prop :=
  ∀ before id callback after, trace = before ++ .started id callback :: after →
    (Ledger.of before).Allows id callback

theorem startsAllowed_concat {trace : List (RegistryEvent β)} (h : StartsAllowed trace)
    {e : RegistryEvent β}
    (he : ∀ id callback, e = .started id callback → (Ledger.of trace).Allows id callback) :
    StartsAllowed (trace ++ [e]) := by
  intro before id callback after heq
  rcases cases_of_concat_eq heq with ⟨rfl, hlast, -⟩ | ⟨rest, -, hbefore⟩
  · exact he id callback hlast.symm
  · exact h before id callback rest hbefore

/-- The registry holds what it ought to hold, and no callback has started that might not. -/
structure Sound (s : Observed β τ) : Prop where
  valid : s.ledger.Valid
  reflects : s.ledger.Reflects s.registry
  allowed : StartsAllowed s.trace

theorem sound_fresh (own : τ) : Sound (fresh own : Observed β τ) where
  valid := Ledger.valid_empty
  reflects := Ledger.reflects_empty
  allowed before id callback after h := by simp [fresh] at h

/-- What a computation that minds the registry does: the callbacks that run after it are those that
ran before it. -/
structure Leads (s t : Observed β τ) : Prop where
  sound : Sound t
  running : t.ledger.running = s.ledger.running
  trace : s.trace <+: t.trace

theorem Leads.refl {s : Observed β τ} (h : Sound s) : Leads s s := ⟨h, rfl, List.prefix_refl _⟩

theorem Leads.trans {s t u : Observed β τ} (h : Leads s t) (h' : Leads t u) : Leads s u :=
  ⟨h'.sound, h'.running.trans h.running, h.trace.trans h'.trace⟩

/-- A computation that keeps soundness, from wherever it starts. -/
def Minds (act : Act (Observed β τ) α) : Prop := ∀ s, Sound s → Leads s (act.runOn s).2

/-- Steps that mind the registry do so together, also when the first of them fails. -/
theorem minds_bind {act : Act (Observed β τ) α} {next : α → Act (Observed β τ) γ} (h : Minds act)
    (hnext : ∀ a, Minds (next a)) : Minds (act >>= next) := by
  intro s hs
  have hact := h s hs
  rw [Act.runOn_bind]
  generalize act.runOn s = r at hact ⊢
  rcases r with ⟨_ | a, t⟩
  · exact hact
  · exact hact.trans (hnext a t hact.sound)

theorem minds_attempt {act : Act (Observed β τ) α} (h : Minds act) : Minds act.attempt :=
  fun s hs => h s hs

theorem minds_ofExcept (r : Except Fault α) : Minds (Act.ofExcept r : Act (Observed β τ) α) := by
  intro s hs
  rw [Act.runOn_ofExcept]
  exact .refl hs

/-- The state of the callbacks is no part of what soundness is about. -/
theorem minds_own (act : Act τ α) : Minds (ownPart.within act : Act (Observed β τ) α) :=
  fun _ hs => ⟨⟨hs.valid, hs.reflects, hs.allowed⟩, rfl, List.prefix_refl _⟩

/-! ## Operations -/

/-- An event that is no start, with the change of the registry that it stands for. -/
theorem leads_event {s : Observed β τ} (hs : Sound s) {e : RegistryEvent β} {registry : Registry β}
    (he : ∀ id callback, e ≠ .started id callback) (hv : (s.ledger.next e).Valid)
    (hr : (s.ledger.next e).Reflects registry)
    (hrun : (s.ledger.next e).running = s.ledger.running) :
    Leads s ⟨(registry, s.state.2), s.trace ++ [e]⟩ := by
  have hl : ledger ⟨(registry, s.state.2), s.trace ++ [e]⟩ = s.ledger.next e :=
    Ledger.of_concat _ _
  refine ⟨⟨hl ▸ hv, hl ▸ hr, ?_⟩, by rw [hl, hrun], List.prefix_append _ _⟩
  exact startsAllowed_concat hs.allowed fun id callback h => absurd h (he id callback)

/-- Registering gives out an id that no live registration has. -/
theorem leads_register {s : Observed β τ} (hs : Sound s) (callback : β) :
    Leads s ⟨(((Registry.register callback).run s.registry).2, s.state.2),
      s.trace ++ [.registered s.registry.nextId callback]⟩ :=
  leads_event hs (by simp)
    (hs.valid.registered (fun r hr => Int.ne_of_lt (hs.reflects.fresh r hr)) callback)
    (hs.reflects.registered hs.valid callback) rfl

theorem leads_unregister {s : Observed β τ} (hs : Sound s) (id : Int) :
    Leads s ⟨(s.registry.unregister id, s.state.2), s.trace ++ [.unregistered id]⟩ :=
  leads_event hs (by simp) (hs.valid.unregistered id) (hs.reflects.unregistered id) rfl

theorem leads_clear {s : Observed β τ} (hs : Sound s) :
    Leads s ⟨(Registry.clear, s.state.2), s.trace ++ [.cleared]⟩ :=
  leads_event hs (by simp) hs.valid.cleared (Ledger.reflects_cleared _) rfl

/-- The state in which a callback starts. -/
def taken (s : Observed β τ) (id : Int) (callback : β) : Observed β τ :=
  ⟨(s.registry.takeOut id, s.state.2), s.trace ++ [.started id callback]⟩

/-- The state after a callback has ended. -/
def given (s : Observed β τ) (id : Int) (callback : β) : Observed β τ :=
  ⟨(s.registry.putBack id callback, s.state.2), s.trace ++ [.ended id]⟩

theorem ledger_taken (s : Observed β τ) (id : Int) (callback : β) :
    (taken s id callback).ledger = s.ledger.next (.started id callback) := Ledger.of_concat _ _

theorem ledger_given (s : Observed β τ) (id : Int) (callback : β) :
    (given s id callback).ledger = s.ledger.next (.ended id) := Ledger.of_concat _ _

theorem sound_taken {s : Observed β τ} (hs : Sound s) {r : Registration β} (hr : r ∈ s.ledger.live)
    (hidle : r.number ∉ s.ledger.running) : Sound (taken s r.id r.callback) where
  valid := by
    rw [ledger_taken]
    exact hs.valid.started hr _
  reflects := by
    rw [ledger_taken]
    exact hs.reflects.takeOut hs.valid hr _
  allowed := startsAllowed_concat hs.allowed fun id callback h => by
    cases h
    exact ⟨r, hr, rfl, rfl, hidle⟩

/-- A callback ends: it ran for `r`, which was live at its start in `s`, and `t` is the state that
its body led to. What is live in `t` with the number of a running callback was live in `s`, so it is
not another registration that has the id of `r`. -/
theorem leads_given {s t : Observed β τ} (hs : Sound s) {r : Registration β}
    (hr : r ∈ s.ledger.live) (hidle : r.number ∉ s.ledger.running)
    (ht : Leads (taken s r.id r.callback) t) : Leads s (given t r.id r.callback) := by
  have hstart : (taken s r.id r.callback).ledger = { s.ledger with
      running := r.number :: s.ledger.running } := by
    rw [ledger_taken, hs.valid.next_started hr]
  have hrun : t.ledger.running = r.number :: s.ledger.running := by rw [ht.running, hstart]
  -- What has been made since the start has a later number than any registration of then.
  have hold : ∀ r' ∈ t.ledger.live, r'.number < s.ledger.made → r' ∈ s.ledger.live := by
    intro r' hr' hlt
    rcases (Ledger.live_of_prefix ht.trace).2 r' hr' with h | h
    · change r' ∈ (taken s r.id r.callback).ledger.live at h
      rw [hstart] at h
      exact h
    · change (taken s r.id r.callback).ledger.made ≤ r'.number at h
      rw [hstart] at h
      exact absurd hlt (Nat.not_lt.mpr h)
  refine ⟨⟨?_, ?_, ?_⟩, ?_, ?_⟩
  · rw [ledger_given]
    exact ht.sound.valid.ended _
  · rw [ledger_given]
    refine ht.sound.reflects.putBack ht.sound.valid hrun hidle (fun r' hr' he => ?_)
      fun r' hr' he hn => ?_
    · have := hold r' hr' (he ▸ hs.valid.live_lt r hr)
      exact List.inj_on_of_nodup_map hs.valid.numbers this hr he
    · have := hold r' hr' (hs.valid.running_lt _ hn)
      exact List.inj_on_of_nodup_map hs.valid.ids this hr he
  · exact startsAllowed_concat ht.sound.allowed (by simp)
  · rw [ledger_given, Ledger.next, hrun, List.tail_cons]
  · exact ((List.prefix_append _ _).trans ht.trace).trans (List.prefix_append _ _)

/-- Starting the callback at an id minds the registry if every callback does. -/
theorem minds_invoke {run : β → Act (Observed β τ) Unit} (h : ∀ callback, Minds (run callback))
    (id : Int) :
    Minds (Registry.invoke registryPart
      (fun callback => bracketed id callback (run callback)) id) := by
  intro s hs
  cases hi : s.registry.idle? id with
  | none =>
    rw [Registry.runOn_invoke_of_none hi]
    exact .refl hs
  | some callback =>
    obtain ⟨r, hr, rfl, rfl, hidle⟩ := hs.reflects.exists_of_idle? hi
    have ht := h r.callback _ (sound_taken hs hr hidle)
    rw [Registry.runOn_invoke_of_some hi, bracketed, Act.runOn_bind, runOn_note, Act.runOn_ensuring,
      runOn_note]
    exact leads_given hs hr hidle ht

/-- Every routine minds the registry if starting callbacks does. -/
theorem minds_run {start : Int → Act (Observed β τ) Unit} (h : ∀ id, Minds (start id))
    (routine : Routine β τ) : Minds (routine.run start) := by
  induction routine with
  | leave outcome => exact minds_ofExcept outcome
  | work act next ih => exact minds_bind (minds_attempt (minds_own act)) ih
  | register callback next ih =>
    intro s hs
    have hr := leads_register hs callback
    exact hr.trans (ih _ _ hr.sound)
  | unregister id next ih =>
    intro s hs
    have hr := leads_unregister hs id
    exact hr.trans (ih _ hr.sound)
  | clear next ih =>
    intro s hs
    have hr := leads_clear hs
    exact hr.trans (ih _ hr.sound)
  | invoke id next ih => exact minds_bind (minds_attempt (h id)) ih

/-- Callbacks mind the registry to any depth to which they start each other. -/
theorem minds_start (body : β → Routine β τ) (depth : Nat) (id : Int) :
    Minds (start body depth id) := by
  -- The routines of the callbacks start others one level further down.
  induction depth generalizing id with
  | zero => exact fun s hs => .refl hs
  | succ depth ih => exact minds_invoke (fun callback => minds_run ih (body callback)) id

end Observed

/-- Whatever callbacks do, and whatever is done to the registry from outside before the callback at
an id is started from there: no callback ever starts unless for a registration that has not been
removed and that it is not already running for, and once the started callback has returned or
failed, the registry has just the registrations that have not been removed, each with its
callback. -/
theorem invoke_disciplined (body : β → Routine β τ) (depth : Nat) (before : Routine β τ) (id : Int)
    (own : τ) :
    let s := ((before.run (start body depth)).runOn (fresh own)).2
    let t := ((start body depth id).runOn s).2
    StartsAllowed t.trace ∧
      t.registry.slots = t.ledger.live.map fun r => (r.id, some r.callback) := by
  intro s t
  have hs : Leads (fresh own) s := minds_run (minds_start body depth) before _ (sound_fresh own)
  have ht : Leads (fresh own) t := hs.trans (minds_start body depth id s hs.sound)
  have hnone : t.ledger.running = [] := ht.running
  refine ⟨ht.sound.allowed, ht.sound.reflects.slots.trans (List.map_congr_left fun r _ => ?_)⟩
  simp [Ledger.slot, hnone]

/-- A callback empties the registry and starts another one, which got its id and fails. -/
example :
    let body : Nat → Routine Nat Unit
      | 0 => .clear (.register 1 fun id => .invoke id fun outcome => .leave outcome)
      | _ => .leave (.error .wrongType)
    let before : Routine Nat Unit := .register 0 fun _ => .leave (.ok ())
    let s := ((before.run (start body 2)).runOn (fresh ())).2
    ((start body 2 1).runOn s).2.registry.slots = [(1, some 1)] := by
  decide

end Bindery
