import Bindery.Callback.Registry
import Bindery.Proofs.Callback.Discipline
import Bindery.Proofs.Effect
import Mathlib.Data.List.Induction

/-!
# What is done with bindings

A host is connected and shut down again, callbacks are bound to its delegates and unbound, and the
host fires them by their ids, all of that also from within callbacks and from within the host. Ids
start again once a registry was emptied, so that an id alone does not tell for which registration it
was given. Among the registrations made since then it does.

* `Registration.MadeIn`, `CurrentIn`: the registrations ever made, and those made since the registry
  was emptied last.
* `IdsFresh`: every id is new among those of the current registrations. `IdsFresh.eq_of_id`: then
  they are known by their ids.
* `currentIn_of_live`: what has not been removed is current.
* `Linked`: a registry with the bindings made so far and the removals that undoing them led to.
* `Linked.bind`, `Linked.unbind`: `bindDelegate` and `DelegateBinding.unbind` under observation.
* `Activity`, `Activity.perform`: what is done, one thing after the other.
* `Peer`: what callbacks and the host do. `Peer.around` nests their activities up to a depth.
-/

namespace Bindery

/-! ## Ids and the registrations they were given for -/

variable {β : Type}

theorem nil_ne_append_cons {ε : Type} {before after : List ε} {x : ε} : [] ≠ before ++ x :: after :=
  (List.append_ne_nil_of_right_ne_nil _ (List.cons_ne_nil _ _)).symm

namespace Registration

/-- A registration that was made in the course of some events. -/
def MadeIn (events : List (RegistryEvent β)) (r : Registration β) : Prop :=
  ∃ before after, events = before ++ .registered r.id r.callback :: after ∧
    r.number = (Ledger.of before).made

/-- A registration that was made, and the registry has not been emptied since. -/
def CurrentIn (events : List (RegistryEvent β)) (r : Registration β) : Prop :=
  ∃ before after, events = before ++ .registered r.id r.callback :: after ∧
    r.number = (Ledger.of before).made ∧ .cleared ∉ after

variable {events : List (RegistryEvent β)} {e : RegistryEvent β} {r r' : Registration β}

/-- A registration made in the course of some events was made in the course of more. -/
theorem MadeIn.mono {more : List (RegistryEvent β)} (h : MadeIn events r)
    (hp : events <+: more) : MadeIn more r := by
  obtain ⟨before, after, rfl, hnumber⟩ := h
  obtain ⟨rest, rfl⟩ := hp
  exact ⟨before, after ++ rest, by rw [List.append_assoc, List.cons_append], hnumber⟩

theorem not_currentIn_nil : ¬ CurrentIn [] r := by
  rintro ⟨before, after, heq, -⟩
  exact nil_ne_append_cons heq

/-- One more event makes a registration current, or empties the registry, or leaves what is
current. -/
theorem currentIn_concat :
    CurrentIn (events ++ [e]) r ↔
      (e = .registered r.id r.callback ∧ r.number = (Ledger.of events).made) ∨
        (e ≠ .cleared ∧ CurrentIn events r) := by
  constructor
  · rintro ⟨before, after, heq, hnumber, hkept⟩
    rcases cases_of_concat_eq heq with ⟨rfl, he, -⟩ | ⟨rest, rfl, rfl⟩
    · exact .inl ⟨he.symm, hnumber⟩
    · rw [List.mem_append, List.mem_singleton, not_or] at hkept
      exact .inr ⟨fun h => hkept.2 h.symm, before, rest, rfl, hnumber, hkept.1⟩
  · rintro (⟨rfl, hnumber⟩ | ⟨he, before, after, rfl, hnumber, hkept⟩)
    · exact ⟨events, [], rfl, hnumber, by simp⟩
    · refine ⟨before, after ++ [e], by rw [List.append_assoc, List.cons_append], hnumber, ?_⟩
      rw [List.mem_append, List.mem_singleton, not_or]
      exact ⟨hkept, fun h => he h.symm⟩

/-- What has not been removed has been made since the registry was emptied. -/
theorem currentIn_of_live (h : r ∈ (Ledger.of events).live) : CurrentIn events r := by
  induction events using List.reverseRecOn with
  | nil => cases h
  | append_singleton events e ih =>
    rw [Ledger.of_concat] at h
    rw [currentIn_concat]
    cases e with
    | registered id callback =>
      rcases List.mem_append.mp h with h | h
      · exact .inr ⟨nofun, ih h⟩
      · obtain rfl := List.mem_singleton.mp h
        exact .inl ⟨rfl, rfl⟩
    | unregistered id => exact .inr ⟨nofun, ih (List.mem_of_mem_filter h)⟩
    | cleared => cases h
    | started id callback => exact .inr ⟨nofun, ih h⟩
    | ended id => exact .inr ⟨nofun, ih h⟩

end Registration

open Registration (CurrentIn not_currentIn_nil currentIn_concat)

/-- Every id that was given out was new among those of the current registrations. -/
def IdsFresh (events : List (RegistryEvent β)) : Prop :=
  ∀ before id callback after, events = before ++ .registered id callback :: after →
    ∀ r, CurrentIn before r → r.id ≠ id

namespace IdsFresh

variable {events : List (RegistryEvent β)} {e : RegistryEvent β} {r r' : Registration β}

theorem nil : IdsFresh ([] : List (RegistryEvent β)) := fun _ _ _ _ heq =>
  absurd heq nil_ne_append_cons

theorem mono {more : List (RegistryEvent β)} (h : IdsFresh more) (hp : events <+: more) :
    IdsFresh events := by
  obtain ⟨rest, rfl⟩ := hp
  intro before id callback after heq
  exact h before id callback (after ++ rest) (by rw [heq, List.append_assoc, List.cons_append])

/-- Ids stay fresh if an id that is given out next is new among the current ones. -/
theorem concat (h : IdsFresh events)
    (he : ∀ id callback, e = .registered id callback → ∀ r, CurrentIn events r → r.id ≠ id) :
    IdsFresh (events ++ [e]) := by
  intro before id callback after heq
  rcases cases_of_concat_eq heq with ⟨rfl, hx, -⟩ | ⟨rest, rfl, rfl⟩
  · exact he id callback hx.symm
  · exact h before id callback rest rfl

/-- Current registrations are known by their ids. -/
theorem eq_of_id (h : IdsFresh events) (hr : CurrentIn events r) (hr' : CurrentIn events r')
    (hid : r.id = r'.id) : r = r' := by
  induction events using List.reverseRecOn with
  | nil => exact absurd hr not_currentIn_nil
  | append_singleton events e ih =>
    have hbefore := h.mono (List.prefix_append events [e])
    have hnew : ∀ id callback, e = .registered id callback →
        ∀ r, CurrentIn events r → r.id ≠ id :=
      fun id callback he => h events id callback [] (he ▸ rfl)
    rw [currentIn_concat] at hr hr'
    -- Each of the two was made by the last event or before it.
    rcases hr with ⟨he, hn⟩ | ⟨-, hr⟩ <;> rcases hr' with ⟨he', hn'⟩ | ⟨-, hr'⟩
    · have hsame := RegistryEvent.registered.inj (he.symm.trans he')
      cases r
      cases r'
      simp_all
    · exact absurd hid.symm (hnew _ _ he r' hr')
    · exact absurd hid (hnew _ _ he' r hr)
    · exact ih hbefore hr hr'

end IdsFresh

/-! ## Activities -/

open Host

variable {τ α : Type}

/-- A binding that was undone: the registration that it was made with, and the registry before its
callback was removed and after that. -/
structure Removal (β : Type) where
  registration : Registration β
  trace : List (RegistryEvent β)
  before : Registry β
  after : Registry β

/-- What there is besides the registry: whether a host is connected, the bindings, each with its
registration, the removals so far, and the state of the host and of the callbacks. -/
structure Links (β τ : Type) where
  connected : Bool := false
  bindings : List (DelegateBinding × Registration β) := []
  removals : List (Removal β) := []
  own : τ

/-- A registry with its bindings, and the events so far. -/
abbrev Linked (β τ : Type) := Observed β (Links β τ)

/-- What a user, a callback or a host does, one thing after the other, with a result or a failure
in the end: work on a state of their own, connect the host and shut it down, bind callbacks and
undo bindings by their numbers, and fire callbacks. -/
inductive Activity (β τ α : Type) : Type 1 where
  | leave (outcome : Except Fault α)
  | work {γ : Type} (act : Act τ γ) (next : Except Fault γ → Activity β τ α)
  | connect (next : Activity β τ α)
  | shutdown (next : Activity β τ α)
  | bind (owner prop : Value) (multicast : Bool) (callback : β)
      (next : Except Fault Nat → Activity β τ α)
  | unbind (index : Nat) (next : Except Fault Unit → Activity β τ α)
  | fire (id : Int) (next : Except Fault Unit → Activity β τ α)

namespace Linked

open Observed Recorded

/-- The state of the host and of the callbacks. -/
def peerPart : Part (Linked β τ) τ :=
  ownPart.comp ⟨Links.own, fun own links => { links with own }⟩

/-- Whether a host is connected. -/
def connectedPart : Part (Linked β τ) Bool :=
  ownPart.comp ⟨Links.connected, fun connected links => { links with connected }⟩

/-- The binding with a number. -/
def bindingPart (index : Nat) : Part (Linked β τ) DelegateBinding :=
  ownPart.comp ⟨fun links => ((links.bindings[index]?).map (·.1)).getD default,
    fun b links => { links with bindings := links.bindings.modify index fun e => (b, e.2) }⟩

/-- Nothing has happened. -/
def initial (own : τ) : Linked β τ := Observed.fresh { own }

/-- The primitives of the host, which has to be connected. -/
def dispatch (host : Primitives (Linked β τ)) : Act (Linked β τ) (Primitives (Linked β τ)) := do
  if ← connectedPart.read then return host else throw (.ofKind .internal "API not initialized")

/-- A host under observation that is told to bind a new registration. If it refuses, the
registration is removed. -/
def bindingHost (host : Primitives (Linked β τ)) : Primitives (Linked β τ) :=
  { host with
    bind := fun owner prop id => answered id (host.bind owner prop id)
    addMulticast := fun owner prop id => answered id (host.addMulticast owner prop id) }
where
  /-- What follows from an answer. -/
  answered (id : Int) (call : Act (Linked β τ) Value) : Act (Linked β τ) Value := do
    let code ← call
    if !Code.isOk code then note (.unregistered id)
    return code

/-- Keeps a binding: its number. -/
def enlist (b : DelegateBinding) (made : Registration β) : Act (Linked β τ) Nat := do
  ownPart.modify fun links => { links with bindings := links.bindings ++ [(b, made)] }
  return (← ownPart.read).bindings.length - 1

/-- Binds a callback: the number of the binding. -/
def bind (host : Primitives (Linked β τ)) (owner prop : Value) (multicast : Bool) (callback : β) :
    Act (Linked β τ) Nat := do
  let s ← Part.whole.read
  let made : Registration β := ⟨s.ledger.made, s.registry.nextId, callback⟩
  let b ← bindDelegate (do note (.registered made.id callback); dispatch (bindingHost host))
    registryPart owner prop multicast callback
  enlist b made

/-- Undoes the binding with a number. -/
def unbind (host : Primitives (Linked β τ)) (index : Nat) : Act (Linked β τ) Unit := do
  let s ← Part.whole.read
  match s.state.2.bindings[index]? with
  | none => throw .noSuchIndex
  | some (b, made) =>
    DelegateBinding.unbind (dispatch host) registryPart (do
      let after ← registryPart.read
      ownPart.modify fun links =>
        { links with removals := links.removals ++ [⟨made, s.trace, s.registry, after⟩] }
      note (.unregistered b.id)
      connectedPart.read) (bindingPart index)

/-- What is around an activity: the host that it calls, and what firing an id does. -/
structure Surround (β τ : Type) where
  host : Primitives (Linked β τ)
  fire : Int → Act (Linked β τ) Unit

end Linked

open Linked Observed Recorded

/-- Performs an activity. -/
def Activity.perform (around : Surround β τ) : Activity β τ α → Act (Linked β τ) α
  | leave outcome => Act.ofExcept outcome
  | work act next => do
    let outcome ← (peerPart.within act).attempt
    (next outcome).perform around
  | connect next => do
    connectedPart.modify fun _ => true
    next.perform around
  | shutdown next => do
    registryPart.modify fun _ => Registry.clear
    note .cleared
    connectedPart.modify fun _ => false
    next.perform around
  | bind owner prop multicast callback next => do
    let outcome ← (Linked.bind around.host owner prop multicast callback).attempt
    (next outcome).perform around
  | unbind index next => do
    let outcome ← (Linked.unbind around.host index).attempt
    (next outcome).perform around
  | fire id next => do
    let outcome ← (around.fire id).attempt
    (next outcome).perform around

/-- What callbacks do, and what a host does when it is told to bind or unbind a callback. Its other
primitives work on its own state. -/
structure Peer (β τ : Type) where
  callback : β → Activity β τ Unit
  bind : Value → Value → Int → Activity β τ Value
  unbind : Value → Value → Activity β τ Value
  addMulticast : Value → Value → Int → Activity β τ Value
  removeMulticast : Value → Value → Int → Activity β τ Value
  others : Primitives τ

namespace Peer

variable (peer : Peer β τ)

/-- The primitives of the host, where `perform` performs its activities. -/
def primitives (perform : Activity β τ Value → Act (Linked β τ) Value) : Primitives (Linked β τ) :=
  { peer.others.within peerPart with
    bind := fun owner prop id => perform (peer.bind owner prop id)
    unbind := fun owner prop => perform (peer.unbind owner prop)
    addMulticast := fun owner prop id => perform (peer.addMulticast owner prop id)
    removeMulticast := fun owner prop id => perform (peer.removeMulticast owner prop id) }

/-- What is around an activity, with callbacks and calls of the host nested up to a depth. -/
def around : Nat → Surround β τ
  | 0 => ⟨peer.primitives fun _ => throw .tooDeep, fun _ => throw .tooDeep⟩
  | depth + 1 =>
    ⟨peer.primitives fun activity => activity.perform (around depth),
      fun id => Registry.invoke registryPart
        (fun callback => bracketed id callback ((peer.callback callback).perform (around depth)))
        id⟩

end Peer
end Bindery
