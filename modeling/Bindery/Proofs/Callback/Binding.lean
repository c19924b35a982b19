import Bindery.Engine.Primitives
import Bindery.Proofs.Callback.Activity

/-!
# Bindings and their callbacks

A binding knows its callback by its id, and so does the host. Ids start again when the host is shut
down, so both can mean another callback afterwards; until then they do not, whatever callbacks and
the host do in between.

* `Linked.Kept`: what every activity keeps. `Linked.Keeps` says so of a computation, and
  `follows_register`, …, `keeps_fire`, `keeps_bind`, `keeps_unbind` of every operation.
* `Linked.runOn_bind`, `Linked.runOn_unbind`: what binding and undoing a binding come to.
* `Linked.FiringsMatch`, `Linked.RemovalsMatch`: ids that mean the registrations which they were
  given for.
* `bindings_keep_their_callbacks`: the main statement.
-/

namespace Bindery

open Host Observed Recorded Registration

variable {β τ α γ : Type}

/-- A removal that took place in the course of some events, from a registry that held what it ought
to hold. -/
structure Removal.Faithful (u : Removal β) (events : List (RegistryEvent β)) : Prop where
  earlier : u.trace <+: events
  valid : (Ledger.of u.trace).Valid
  reflects : (Ledger.of u.trace).Reflects u.before
  after : u.after = u.before.unregister u.registration.id

theorem Removal.Faithful.mono {u : Removal β} {events more : List (RegistryEvent β)}
    (h : u.Faithful events) (hp : events <+: more) : u.Faithful more :=
  { h with earlier := h.earlier.trans hp }

/-- A binding with the registration that it was made with. -/
def Tied (events : List (RegistryEvent β)) (e : DelegateBinding × Registration β) : Prop :=
  e.1.id = e.2.id ∧ e.2.MadeIn events

theorem Registry.nextId_putBack (id : Int) (callback : β) (registry : Registry β) :
    (registry.putBack id callback).nextId = registry.nextId := by
  unfold Registry.putBack
  split <;> rfl

namespace Linked

/-- What every activity keeps: the registry is sound, its next id is beyond all that are current,
and the bindings and the removals are what they say. -/
structure Kept (s : Linked β τ) : Prop extends Sound s where
  below : ∀ r, CurrentIn s.trace r → r.id < s.registry.nextId
  fresh : IdsFresh s.trace
  removals : ∀ u ∈ s.state.2.removals, u.Faithful s.trace
  bindings : ∀ e ∈ s.state.2.bindings, Tied s.trace e

/-- Before anything has happened there is nothing that could be broken. -/
theorem kept_initial (own : τ) : Kept (initial own : Linked β τ) where
  toSound := sound_fresh _
  below _ h := absurd h not_currentIn_nil
  fresh := .nil
  removals _ h := nomatch h
  bindings _ h := nomatch h

/-- What an activity does. -/
structure Follows (s t : Linked β τ) : Prop extends Leads s t where
  kept : Kept t

theorem Follows.refl {s : Linked β τ} (h : Kept s) : Follows s s := ⟨.refl h.toSound, h⟩

theorem Follows.trans {s t u : Linked β τ} (h : Follows s t) (h' : Follows t u) : Follows s u :=
  ⟨h.toLeads.trans h'.toLeads, h'.kept⟩

/-- A computation that keeps what every activity keeps, from wherever it starts. -/
def Keeps (act : Act (Linked β τ) γ) : Prop := ∀ s, Kept s → Follows s (act.runOn s).2

namespace Keeps

theorem pure (a : γ) : Keeps (Pure.pure a : Act (Linked β τ) γ) := fun _ hs => .refl hs

theorem throw (e : Fault) : Keeps (MonadExcept.throw e : Act (Linked β τ) γ) := fun _ hs => .refl hs

theorem ofExcept (r : Except Fault γ) : Keeps (Act.ofExcept r : Act (Linked β τ) γ) := by
  intro s hs
  rw [Act.runOn_ofExcept]
  exact .refl hs

/-- Steps that keep what every activity keeps do so together, also when the first of them fails. -/
theorem bind {act : Act (Linked β τ) α} {next : α → Act (Linked β τ) γ} (h : Keeps act)
    (hnext : ∀ a, Keeps (next a)) : Keeps (act >>= next) := by
  intro s hs
  have hact := h s hs
  rw [Act.runOn_bind]
  generalize act.runOn s = r at hact ⊢
  rcases r with ⟨_ | a, t⟩
  · exact hact
  · exact hact.trans (hnext a t hact.kept)

theorem attempt {act : Act (Linked β τ) γ} (h : Keeps act) : Keeps act.attempt :=
  fun s hs => h s hs

theorem ite {c : Prop} [Decidable c] {act act' : Act (Linked β τ) γ} (h : Keeps act)
    (h' : Keeps act') : Keeps (if c then act else act') := by
  split
  · exact h
  · exact h'

theorem read {ρ : Type} (p : Part (Linked β τ) ρ) : Keeps p.read := fun _ hs => .refl hs

end Keeps

/-! ## Operations -/

/-- Changes of what there is besides the registry. -/
theorem follows_links {s : Linked β τ} (hs : Kept s) {links : Links β τ}
    (hr : ∀ u ∈ links.removals, u.Faithful s.trace) (hb : ∀ e ∈ links.bindings, Tied s.trace e) :
    Follows s ⟨(s.registry, links), s.trace⟩ where
  sound := ⟨hs.valid, hs.reflects, hs.allowed⟩
  running := rfl
  trace := List.prefix_refl _
  kept := ⟨⟨hs.valid, hs.reflects, hs.allowed⟩, hs.below, hs.fresh, hr, hb⟩

/-- Changes of the registry. -/
theorem Kept.change {s t : Linked β τ} (hs : Kept s) (ht : Sound t) (hp : s.trace <+: t.trace)
    (hlinks : t.state.2 = s.state.2) (hbelow : ∀ r, CurrentIn t.trace r → r.id < t.registry.nextId)
    (hfresh : IdsFresh t.trace) : Kept t where
  toSound := ht
  below := hbelow
  fresh := hfresh
  removals u hu := (hs.removals u (hlinks ▸ hu)).mono hp
  bindings e he := ⟨(hs.bindings e (hlinks ▸ he)).1, (hs.bindings e (hlinks ▸ he)).2.mono hp⟩

/-- An event that makes no registration, with a change that leaves the next id as it is. -/
theorem Kept.quiet {s t : Linked β τ} (hs : Kept s) (ht : Sound t) {e : RegistryEvent β}
    (htrace : t.trace = s.trace ++ [e]) (hlinks : t.state.2 = s.state.2)
    (hnext : t.registry.nextId = s.registry.nextId)
    (hmade : ∀ id callback, e ≠ .registered id callback) : Kept t := by
  refine hs.change ht (htrace ▸ List.prefix_append _ _) hlinks (fun r hr => ?_) ?_
  · rw [htrace, currentIn_concat] at hr
    rcases hr with ⟨he, -⟩ | ⟨-, hr⟩
    · exact absurd he (hmade _ _)
    · exact hnext ▸ hs.below r hr
  · rw [htrace]
    exact hs.fresh.concat fun id callback he => absurd he (hmade id callback)

theorem follows_unregister {s : Linked β τ} (hs : Kept s) (id : Int) :
    Follows s ⟨(s.registry.unregister id, s.state.2), s.trace ++ [.unregistered id]⟩ :=
  have h := leads_unregister hs.toSound id
  ⟨h, hs.quiet h.sound rfl rfl rfl (by simp)⟩

/-- Nothing is current once the registry was emptied, so ids may start again. -/
theorem follows_clear {s : Linked β τ} (hs : Kept s) :
    Follows s ⟨(Registry.clear, s.state.2), s.trace ++ [.cleared]⟩ := by
  have h := leads_clear hs.toSound
  refine ⟨h, hs.change h.sound h.trace rfl (fun r hr => ?_) (hs.fresh.concat (by simp))⟩
  rcases currentIn_concat.1 hr with ⟨he, -⟩ | ⟨he, -⟩
  · cases he
  · exact absurd rfl he

/-- The id that is given out is new among the current ones, and the next one is beyond it. -/
theorem follows_register {s : Linked β τ} (hs : Kept s) (callback : β) :
    Follows s ⟨(((Registry.register callback).run s.registry).2, s.state.2),
      s.trace ++ [.registered s.registry.nextId callback]⟩ := by
  have h := leads_register hs.toSound callback
  refine ⟨h, hs.change h.sound h.trace rfl (fun r hr => ?_)
    (hs.fresh.concat fun id callback' he r hr => ?_)⟩
  · change r.id < s.registry.nextId + 1
    rcases currentIn_concat.1 hr with ⟨he, -⟩ | ⟨-, hr⟩
    · obtain ⟨hid, -⟩ := RegistryEvent.registered.inj he
      omega
    · have := hs.below r hr
      omega
  · obtain ⟨rfl, -⟩ := RegistryEvent.registered.inj he
    exact Int.ne_of_lt (hs.below r hr)

/-- A callback runs between two events that make no registration. -/
theorem keeps_fire {run : β → Act (Linked β τ) Unit} (h : ∀ callback, Keeps (run callback))
    (id : Int) :
    Keeps (Registry.invoke registryPart
      (fun callback => bracketed id callback (run callback)) id) := by
  intro s hs
  cases hi : s.registry.idle? id with
  | none =>
    rw [Registry.runOn_invoke_of_none hi]
    exact .refl hs
  | some callback =>
    obtain ⟨r, hr, rfl, rfl, hidle⟩ := hs.reflects.exists_of_idle? hi
    have hstart : Kept (taken s r.id r.callback) :=
      hs.quiet (sound_taken hs.toSound hr hidle) rfl rfl rfl (by simp)
    have hrun := h r.callback _ hstart
    have hend := leads_given hs.toSound hr hidle hrun.toLeads
    rw [Registry.runOn_invoke_of_some hi, bracketed, Act.runOn_bind, runOn_note, Act.runOn_ensuring,
      runOn_note]
    refine ⟨hend, hrun.kept.quiet hend.sound rfl rfl ?_ (by simp)⟩
    exact Registry.nextId_putBack _ _ _

/-! ## Binding -/

variable {host : Primitives (Linked β τ)}

/-- What is done once the host has answered for a registration. -/
def settle (id : Int) (code : Value) : Act (Linked β τ) Unit := do
  if !Code.isOk code then
    registryPart.modify (Registry.unregister id)
    note (.unregistered id)
    Code.accept code

theorem keeps_settle (id : Int) (code : Value) :
    Keeps (settle id code : Act (Linked β τ) Unit) := by
  refine .ite (fun s hs => ?_) (.pure _)
  have h := follows_unregister hs id
  exact h.trans (Keeps.ofExcept _ _ h.kept)

/-- The same, whichever of the host's answers tells that the registration is to be removed. -/
theorem runOn_answered (id : Int) (call : Act (Linked β τ) Value) (s : Linked β τ)
    (next : Act (Linked β τ) γ) :
    (do
      let code ← bindingHost.answered id call
      if !Code.isOk code then
        registryPart.modify (Registry.unregister id)
        Code.accept code
      next).runOn s =
    ((call >>= settle id) >>= fun _ => next).runOn s := by
  unfold bindingHost.answered settle
  simp only [Act.runOn_bind]
  rcases call.runOn s with ⟨_ | code, t⟩
  · rfl
  · cases h : Code.isOk code
    · simp only [h, Bool.not_false, if_true, Act.runOn_bind, Part.runOn_modify, runOn_note,
        Act.runOn_pure]
      rfl
    · simp only [h, Bool.not_true, Bool.false_eq_true, if_false, Act.runOn_pure]

/-- The state in which the host is told of a new registration. -/
def registered (s : Linked β τ) (callback : β) : Linked β τ :=
  ⟨(((Registry.register callback).run s.registry).2, s.state.2),
    s.trace ++ [.registered s.registry.nextId callback]⟩

theorem runOn_dispatch (host : Primitives (Linked β τ)) (s : Linked β τ) :
    (dispatch host).runOn s = (if connectedPart.get s then .ok host else
      .error (.ofKind .internal "API not initialized"), s) := by
  rw [dispatch, Act.runOn_bind]
  simp only [Part.runOn_read]
  split <;> rfl

/-- A host that is not connected is a failure and no change. -/
theorem keeps_dispatch_bind {next : Primitives (Linked β τ) → Act (Linked β τ) γ}
    (h : Keeps (next host)) : Keeps (dispatch host >>= next) := by
  intro s hs
  rw [Act.runOn_bind, runOn_dispatch]
  cases connectedPart.get s with
  | false => exact .refl hs
  | true => exact h s hs

/-- What a host is told of a new registration: its answer. -/
def tell {σ : Type} (dispatch : Act σ (Primitives σ)) (owner prop : Value) (multicast : Bool)
    (id : Int) : Act σ Value := do
  let host ← dispatch
  if multicast then host.addMulticast owner prop id else host.bind owner prop id

/-- Binding registers the callback, and what follows starts in the registry with the callback in
it. -/
theorem runOn_bindDelegate {σ : Type} (dispatch : Act σ (Primitives σ))
    (registry : Part σ (Registry β)) (owner prop : Value) (multicast : Bool) (callback : β)
    (s : σ) :
    (bindDelegate dispatch registry owner prop multicast callback).runOn s =
      let id := (registry.get s).nextId
      (do
        let code ← tell dispatch owner prop multicast id
        if !Code.isOk code then
          registry.modify (Registry.unregister id)
          Code.accept code
        return ⟨id, owner, prop, multicast, true⟩ : Act σ DelegateBinding).runOn
          (registry.set ((Registry.register callback).run (registry.get s)).2 s) := by
  unfold bindDelegate tell
  cases multicast <;> simp only [bind_assoc, if_true, Bool.false_eq_true, if_false] <;> rfl

/-- The host under observation answers as the host does, with an event if it refuses. -/
theorem runOn_tell_bindingHost (host : Primitives (Linked β τ)) (owner prop : Value)
    (multicast : Bool) (id : Int) (s : Linked β τ) :
    (tell (dispatch (bindingHost host)) owner prop multicast id).runOn s =
      (bindingHost.answered id (tell (dispatch host) owner prop multicast id)).runOn s := by
  unfold tell bindingHost.answered
  rw [Act.runOn_bind, Act.runOn_bind, Act.runOn_bind, runOn_dispatch, runOn_dispatch]
  cases connectedPart.get s with
  | false => rfl
  | true => cases multicast <;> exact Act.runOn_bind _ _ _

/-- Binding registers the callback, tells the host and does what follows from its answer. -/
theorem runOn_bind (owner prop : Value) (multicast : Bool) (callback : β) (s : Linked β τ) :
    let made : Registration β := ⟨s.ledger.made, s.registry.nextId, callback⟩
    (Linked.bind host owner prop multicast callback).runOn s =
      ((tell (dispatch host) owner prop multicast made.id >>= settle made.id) >>= fun _ =>
        enlist { id := made.id, owner, prop, multicast } made).runOn (registered s callback) := by
  intro made
  have hbind : (Linked.bind host owner prop multicast callback).runOn s =
      (bindDelegate (do note (.registered made.id callback); dispatch (bindingHost host))
        registryPart owner prop multicast callback >>= fun b => enlist b made).runOn s := rfl
  have htell : (tell (do note (.registered made.id callback); dispatch (bindingHost host))
      owner prop multicast made.id).runOn (registryPart.set ((Registry.register callback).run
        (registryPart.get s)).2 s) =
      (tell (dispatch (bindingHost host)) owner prop multicast made.id).runOn
        (registered s callback) := rfl
  have hid : (registryPart.get s).nextId = made.id := rfl
  rw [← runOn_answered, hbind, Act.runOn_bind, runOn_bindDelegate, hid]
  simp only
  rw [Act.runOn_bind, Act.runOn_bind, htell, runOn_tell_bindingHost]
  rcases (bindingHost.answered made.id (tell (dispatch host) owner prop multicast made.id)).runOn
    (registered s callback) with ⟨_ | code, t⟩
  · rfl
  · cases h : Code.isOk code
    · simp only [h, Bool.not_false, if_true, Act.runOn_bind, Part.runOn_modify]
      rcases (Code.accept code).runOn _ with ⟨_ | _, u⟩ <;> rfl
    · simp only [h, Bool.not_true, Bool.false_eq_true, if_false, Act.runOn_pure]

theorem keeps_tell {owner prop : Value} {multicast : Bool} {id : Int}
    (hbind : Keeps (host.bind owner prop id)) (hadd : Keeps (host.addMulticast owner prop id)) :
    Keeps (tell (dispatch host) owner prop multicast id) :=
  keeps_dispatch_bind (.ite hadd hbind)

theorem follows_enlist {s : Linked β τ} (hs : Kept s) {b : DelegateBinding} {made : Registration β}
    (h : Tied s.trace (b, made)) : Follows s ((enlist b made).runOn s).2 := by
  refine follows_links hs hs.removals fun e he => ?_
  rcases List.mem_append.mp he with he | he
  · exact hs.bindings e he
  · obtain rfl := List.mem_singleton.mp he
    exact h

/-- Binding keeps what every activity keeps, whatever the host does when it is told. -/
theorem keeps_bind (hbind : ∀ owner prop id, Keeps (host.bind owner prop id))
    (hadd : ∀ owner prop id, Keeps (host.addMulticast owner prop id)) (owner prop : Value)
    (multicast : Bool) (callback : β) :
    Keeps (Linked.bind host owner prop multicast callback) := by
  intro s hs
  rw [runOn_bind, Act.runOn_bind]
  have hmade := follows_register hs callback
  have htell : Keeps (tell (dispatch host) owner prop multicast s.registry.nextId) :=
    keeps_tell (hbind _ _ _) (hadd _ _ _)
  have hasked : Follows (registered s callback)
      ((tell (dispatch host) owner prop multicast s.registry.nextId >>=
        settle s.registry.nextId).runOn (registered s callback)).2 :=
    htell.bind (keeps_settle s.registry.nextId) _ hmade.kept
  simp only
  -- What the host did while it was told is in `hasked`; what is left is whether it failed.
  generalize (tell (dispatch host) owner prop multicast s.registry.nextId >>=
    settle s.registry.nextId).runOn (registered s callback) = r at hasked ⊢
  rcases r with ⟨_ | _, t⟩
  · exact hmade.trans hasked
  · refine (hmade.trans hasked).trans (follows_enlist hasked.kept ⟨rfl, ?_⟩)
    exact MadeIn.mono ⟨s.trace, [], rfl, rfl⟩ hasked.trace

/-! ## Undoing a binding -/

/-- The state after the callback of a binding was removed. -/
def removed (s : Linked β τ) (index : Nat) (b : DelegateBinding) (made : Registration β) :
    Linked β τ :=
  ⟨(s.registry.unregister b.id,
    { s.state.2 with
      bindings := s.state.2.bindings.modify index fun e => ({ b with bound := false }, e.2)
      removals := s.state.2.removals ++
        [⟨made, s.trace, s.registry, s.registry.unregister b.id⟩] }),
    s.trace ++ [.unregistered b.id]⟩

/-- Undoing a binding removes the registration with its id and changes no other binding's
registration. -/
theorem follows_removed {s : Linked β τ} (hs : Kept s) {index : Nat} {b : DelegateBinding}
    {made : Registration β} (hb : s.state.2.bindings[index]? = some (b, made)) :
    Follows s (removed s index b made) := by
  have htied := hs.bindings _ (List.mem_of_getElem? hb)
  have hgone := follows_unregister hs b.id
  refine hgone.trans (follows_links hgone.kept (fun u hu => ?_) fun e he => ?_)
  · rcases List.mem_append.mp hu with hu | hu
    · exact hgone.kept.removals u hu
    · obtain rfl := List.mem_singleton.mp hu
      exact ⟨List.prefix_append _ _, hs.valid, hs.reflects, by rw [← htied.1]⟩
  · obtain ⟨i, hi⟩ := List.mem_iff_getElem?.mp he
    rw [List.getElem?_modify] at hi
    obtain ⟨e', he', rfl⟩ := Option.map_eq_some_iff.mp hi
    have htied' := hgone.kept.bindings e' (List.mem_of_getElem? he')
    split
    · next heq =>
      -- The binding itself is marked as undone; it keeps its id and its registration.
      obtain rfl : (b, made) = e' := Option.some.inj (hb ▸ heq ▸ he')
      exact htied'
    · exact htied'

/-- What the host is told of a binding that was undone, if it is still connected. -/
def forget (host : Primitives (Linked β τ)) (b : DelegateBinding) : Act (Linked β τ) Unit := do
  if ← connectedPart.read then
    let host ← dispatch host
    let _ ← if b.multicast then host.removeMulticast b.owner b.prop b.id
      else host.unbind b.owner b.prop

theorem runOn_unbind_of_none {s : Linked β τ} {index : Nat}
    (hb : s.state.2.bindings[index]? = none) :
    (Linked.unbind host index).runOn s = (.error .noSuchIndex, s) := by
  rw [Linked.unbind, Act.runOn_bind, Part.runOn_read]
  simp only [Part.whole_get, hb]
  rfl

/-- Undoing a binding removes its callback, the first time, and tells the host. -/
theorem runOn_unbind {s : Linked β τ} {index : Nat} {b : DelegateBinding} {made : Registration β}
    (hb : s.state.2.bindings[index]? = some (b, made)) :
    (Linked.unbind host index).runOn s =
      if b.bound then (forget host b).runOn (removed s index b made) else (.ok (), s) := by
  have hget : (bindingPart index).get s = b := by
    change ((s.state.2.bindings[index]?).map (·.1)).getD default = b
    rw [hb]
    rfl
  rw [Linked.unbind, Act.runOn_bind, Part.runOn_read]
  simp only [Part.whole_get, hb]
  rw [DelegateBinding.unbind, Act.runOn_bind, Part.runOn_read]
  simp only [hget]
  cases b.bound with
  | false => rfl
  | true =>
    simp only [if_true]
    rw [Act.runOn_bind, Part.runOn_modify, hget]
    rfl

theorem keeps_unbind (hunbind : ∀ owner prop, Keeps (host.unbind owner prop))
    (hremove : ∀ owner prop id, Keeps (host.removeMulticast owner prop id)) (index : Nat) :
    Keeps (Linked.unbind host index) := by
  intro s hs
  cases hb : s.state.2.bindings[index]? with
  | none =>
    rw [runOn_unbind_of_none hb]
    exact .refl hs
  | some e =>
    obtain ⟨b, made⟩ := e
    rw [runOn_unbind hb]
    split
    · have hgone := follows_removed hs hb
      refine hgone.trans (Keeps.bind (.read _) (fun _ => .ite ?_ (.pure _)) _ hgone.kept)
      exact keeps_dispatch_bind (.ite (.bind (hremove _ _ _) fun _ => .pure _)
        (.bind (hunbind _ _) fun _ => .pure _))
    · exact .refl hs

/-! ## Activities -/

/-- The host and the callbacks around an activity keep what every activity keeps. -/
structure Surround.Careful (around : Surround β τ) : Prop where
  bind : ∀ owner prop id, Keeps (around.host.bind owner prop id)
  unbind : ∀ owner prop, Keeps (around.host.unbind owner prop)
  addMulticast : ∀ owner prop id, Keeps (around.host.addMulticast owner prop id)
  removeMulticast : ∀ owner prop id, Keeps (around.host.removeMulticast owner prop id)
  fire : ∀ id, Keeps (around.fire id)

/-- Every activity keeps what every activity keeps, if what is around it is careful. -/
theorem keeps_perform {around : Surround β τ} (h : around.Careful) (activity : Activity β τ γ) :
    Keeps (activity.perform around) := by
  induction activity with
  | leave outcome => exact .ofExcept outcome
  | work act next ih =>
    refine .bind (.attempt fun s hs => ?_) ih
    exact follows_links hs hs.removals hs.bindings
  | connect next ih =>
    intro s hs
    have hc : Follows s ⟨(s.registry, { s.state.2 with connected := true }), s.trace⟩ :=
      follows_links hs hs.removals hs.bindings
    exact hc.trans (ih _ hc.kept)
  | shutdown next ih =>
    intro s hs
    have hclear := follows_clear hs
    have hc : Follows _ ⟨(Registry.clear, { s.state.2 with connected := false }),
        s.trace ++ [.cleared]⟩ :=
      follows_links hclear.kept hclear.kept.removals hclear.kept.bindings
    exact (hclear.trans hc).trans (ih _ hc.kept)
  | bind owner prop multicast callback next ih =>
    exact .bind (.attempt (keeps_bind h.bind h.addMulticast owner prop multicast callback)) ih
  | unbind index next ih =>
    exact .bind (.attempt (keeps_unbind h.unbind h.removeMulticast index)) ih
  | fire id next ih => exact .bind (.attempt (h.fire id)) ih

/-- What is around an activity is careful to any depth of callbacks and calls of the host. -/
theorem careful_around (peer : Peer β τ) (depth : Nat) : (peer.around depth).Careful := by
  induction depth with
  | zero => exact ⟨fun _ _ _ => .throw _, fun _ _ => .throw _, fun _ _ _ => .throw _,
      fun _ _ _ => .throw _, fun _ => .throw _⟩
  | succ depth ih =>
    exact ⟨fun _ _ _ => keeps_perform ih _, fun _ _ => keeps_perform ih _,
      fun _ _ _ => keeps_perform ih _, fun _ _ _ => keeps_perform ih _,
      keeps_fire fun callback => keeps_perform ih (peer.callback callback)⟩

/-! ## What ids stand for -/

/-- A host that fires an id which it was given for one of the registrations that count runs the
callback of that registration, or none. -/
def FiringsMatch (counts : List (RegistryEvent β) → Registration β → Prop)
    (trace : List (RegistryEvent β)) : Prop :=
  ∀ before id callback after, trace = before ++ .started id callback :: after →
    ∀ r, counts before r → r.id = id → r ∈ (Ledger.of before).live ∧ r.callback = callback

/-- Undoing a binding whose registration counts leaves all other callbacks in the registry. -/
def RemovalsMatch (counts : List (RegistryEvent β) → Registration β → Prop)
    (removals : List (Removal β)) : Prop :=
  ∀ u ∈ removals, counts u.trace u.registration →
    ∀ r ∈ (Ledger.of u.trace).live, r ≠ u.registration →
      u.before.slots.get? r.id = some ((Ledger.of u.trace).slot r) ∧
        u.after.slots.get? r.id = u.before.slots.get? r.id

/-- A current registration is known by its id, so the callback that starts at the id is its own. -/
theorem Kept.firingsMatch {s : Linked β τ} (hs : Kept s) : FiringsMatch CurrentIn s.trace := by
  intro before id callback after htrace r hr hid
  obtain ⟨r', hr', hid', hcallback, -⟩ := hs.allowed before id callback after htrace
  have hfresh : IdsFresh before := hs.fresh.mono (htrace ▸ List.prefix_append _ _)
  obtain rfl := hfresh.eq_of_id hr (currentIn_of_live hr') (hid.trans hid'.symm)
  exact ⟨hr', hcallback⟩

theorem Kept.removalsMatch {s : Linked β τ} (hs : Kept s) :
    RemovalsMatch CurrentIn s.state.2.removals := by
  intro u hu hcurrent r hr hne
  have hfaithful := hs.removals u hu
  have hfresh : IdsFresh u.trace := hs.fresh.mono hfaithful.earlier
  have hid : r.id ≠ u.registration.id := fun h =>
    hne (hfresh.eq_of_id (currentIn_of_live hr) hcurrent h)
  constructor
  · rw [hfaithful.reflects.get?_eq, hfaithful.valid.at?_eq hr]
    rfl
  · rw [hfaithful.after]
    exact Assoc.get?_erase_of_ne hid _

end Linked

/-- Whatever is done with a host and its bindings, by users, callbacks and the host itself: every
binding has the id of the registration that it was made with, and as long as the registry was not
emptied since a registration was made, the host that fires its id runs its callback or none, and
undoing its binding removes no other callback. -/
theorem bindings_keep_their_callbacks (peer : Peer β τ) (depth : Nat) (activity : Activity β τ α)
    (own : τ) :
    let s := ((activity.perform (peer.around depth)).runOn (Linked.initial own)).2
    (∀ e ∈ s.state.2.bindings, Tied s.trace e) ∧ Linked.FiringsMatch CurrentIn s.trace ∧
      Linked.RemovalsMatch CurrentIn s.state.2.removals := by
  intro s
  have hs := (Linked.keeps_perform (Linked.careful_around peer depth) activity _
    (Linked.kept_initial own)).kept
  exact ⟨hs.bindings, hs.firingsMatch, hs.removalsMatch⟩

/-- The engine in memory as a host, with callbacks that do nothing. -/
def Peer.engine : Peer β Engine :=
  let host : Primitives Engine :=
    Engine.primitives Part.whole (fun _ => return ()) fun _ _ => return Engine.ok
  { callback := fun _ => .leave (.ok ())
    bind := fun owner prop id => .work (host.bind owner prop id) .leave
    unbind := fun owner prop => .work (host.unbind owner prop) .leave
    addMulticast := fun owner prop id => .work (host.addMulticast owner prop id) .leave
    removeMulticast := fun owner prop id => .work (host.removeMulticast owner prop id) .leave
    others := host }

/-- Callback 1 is bound to one delegate, the host is shut down, and callback 2 is bound to another
delegate once a host is connected again. Then the host fires the id that it was given for the first
delegate, and the first binding is undone. -/
def rebinding : Activity Nat Engine Unit :=
  .connect <| .bind (.int 1) (.int 1) false 1 fun _ => .shutdown <|
    .connect <| .bind (.int 1) (.int 2) false 2 fun _ =>
      .fire 1 fun _ => .unbind 0 fun _ => .leave (.ok ())

/-- Over several connections an id does not tell for which registration it was given: the second
callback runs in the place of the first one, and goes with the first binding. -/
theorem rebinding_mixes_callbacks :
    let s := ((rebinding.perform (Peer.engine.around 1)).runOn (Linked.initial {})).2
    ¬ Linked.FiringsMatch MadeIn s.trace ∧ ¬ Linked.RemovalsMatch MadeIn s.state.2.removals := by
  intro s
  have htrace : s.trace = [.registered 1 1, .cleared, .registered 1 2] ++
      .started 1 2 :: [.ended 1, .unregistered 1] := rfl
  have hremovals : s.state.2.removals =
      [⟨⟨0, 1, 1⟩, [.registered 1 1, .cleared, .registered 1 2, .started 1 2, .ended 1],
        ⟨[(1, some 2)], 2⟩, ⟨[], 2⟩⟩] := rfl
  constructor
  · intro h
    have hcallback := (h _ 1 2 _ htrace ⟨0, 1, 1⟩ ⟨[], _, rfl, rfl⟩ rfl).2
    exact absurd hcallback (by decide)
  · intro h
    have hkept := (h _ (hremovals ▸ List.mem_singleton_self _) ⟨[], _, rfl, rfl⟩ ⟨1, 1, 2⟩
      (List.mem_singleton_self _) (by simp)).2
    exact absurd hkept (by decide)

end Bindery
