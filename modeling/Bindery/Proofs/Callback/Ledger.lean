import Bindery.Callback.Registry
import Bindery.Proofs.Association
import Mathlib.Data.List.Nodup

/-!
# The ledger of a registry

What a registry ought to hold, told from the events alone: which registrations were made and not
removed, and which of their callbacks are running.

* `RegistryEvent`: what happens to a registry.
* `Registration`: a callback under an id. Ids are given out again once the registry was emptied; the
  number of a registration never is.
* `Ledger.of`: the registrations and the running callbacks after some events.
* `Ledger.Allows`: when a callback may start.
* `Ledger.Reflects`: a registry that holds what it ought to hold. `Reflects.registered`,
  `unregistered`, `takeOut` and `putBack`, and `reflects_cleared`, say so of every operation.
-/

namespace Bindery

variable {β : Type}

/-- What happens to a registry: what is done with registrations, and callbacks that start and
end. -/
inductive RegistryEvent (β : Type) where
  | registered (id : Int) (callback : β)
  | unregistered (id : Int)
  | cleared
  | started (id : Int) (callback : β)
  | ended (id : Int)

/-- A callback that was registered, after `number` others. -/
structure Registration (β : Type) where
  number : Nat
  id : Int
  callback : β

/-- The registrations so far, those that were not removed, and the numbers of those whose callbacks
are running, the innermost first. -/
structure Ledger (β : Type) where
  made : Nat := 0
  live : List (Registration β) := []
  running : List Nat := []

namespace Ledger

/-- The registration that has an id now. -/
def at? (l : Ledger β) (id : Int) : Option (Registration β) := l.live.find? fun r => r.id == id

/-- The ledger after one more event. -/
def next (l : Ledger β) : RegistryEvent β → Ledger β
  | .registered id callback =>
    { l with made := l.made + 1, live := l.live ++ [⟨l.made, id, callback⟩] }
  | .unregistered id => { l with live := l.live.filter fun r => r.id != id }
  | .cleared => { l with live := [] }
  | .started id _ => { l with running := ((l.at? id).map (·.number)).toList ++ l.running }
  | .ended _ => { l with running := l.running.tail }

/-- The ledger after some events, from an empty registry on. -/
def of (events : List (RegistryEvent β)) : Ledger β := events.foldl next {}

theorem of_concat (events : List (RegistryEvent β)) (e : RegistryEvent β) :
    of (events ++ [e]) = (of events).next e := by
  rw [of, List.foldl_append]
  rfl

/-- A callback may start as what a registration has at its id, while the registration has not been
removed and no callback is running for it. -/
def Allows (l : Ledger β) (id : Int) (callback : β) : Prop :=
  ∃ r ∈ l.live, r.id = id ∧ r.callback = callback ∧ r.number ∉ l.running

/-! ## Numbers and ids -/

/-- No two registrations have a number or, at one time, an id. -/
structure Valid (l : Ledger β) : Prop where
  ids : (l.live.map (·.id)).Nodup
  numbers : (l.live.map (·.number)).Nodup
  live_lt : ∀ r ∈ l.live, r.number < l.made
  running_lt : ∀ n ∈ l.running, n < l.made

theorem valid_empty : Valid ({} : Ledger β) := ⟨by simp, by simp, by simp, by simp⟩

variable {l : Ledger β} {r : Registration β} {id : Int}

/-- A live registration is the one that is found at its id. -/
theorem Valid.at?_eq (h : l.Valid) (hr : r ∈ l.live) : l.at? r.id = some r := by
  cases hf : l.at? r.id with
  | none => simpa using List.find?_eq_none.mp hf r hr
  | some r' =>
    have hid : r'.id = r.id := by simpa using List.find?_some hf
    rw [List.inj_on_of_nodup_map h.ids (List.mem_of_find?_eq_some hf) hr hid]

theorem mem_of_at?_eq (h : l.at? id = some r) : r ∈ l.live ∧ r.id = id :=
  ⟨List.mem_of_find?_eq_some h, by simpa using List.find?_some h⟩

/-- What is live after more events was live before them or has been made since. -/
theorem live_of_foldl (events : List (RegistryEvent β)) (l : Ledger β) :
    l.made ≤ (events.foldl next l).made ∧
      ∀ r ∈ (events.foldl next l).live, r ∈ l.live ∨ l.made ≤ r.number := by
  induction events generalizing l with
  | nil => exact ⟨Nat.le_refl _, fun r hr => .inl hr⟩
  | cons e rest ih =>
    obtain ⟨hmade, hlive⟩ := ih (l.next e)
    have hm : l.made ≤ (l.next e).made := by cases e <;> simp [next]
    refine ⟨Nat.le_trans hm hmade, fun r hr => ?_⟩
    rcases hlive r hr with h | h
    · cases e with
      | registered id callback =>
        rcases List.mem_append.mp h with h | h
        · exact .inl h
        · obtain rfl := List.mem_singleton.mp h
          exact .inr (Nat.le_refl _)
      | unregistered id => exact .inl (List.mem_of_mem_filter h)
      | cleared => cases h
      | started id callback => exact .inl h
      | ended id => exact .inl h
    · exact .inr (Nat.le_trans hm h)

/-- What is live after some events was live after the first of them or has been made since. -/
theorem live_of_prefix {before after : List (RegistryEvent β)} (h : before <+: after) :
    (of before).made ≤ (of after).made ∧
      ∀ r ∈ (of after).live, r ∈ (of before).live ∨ (of before).made ≤ r.number := by
  obtain ⟨events, rfl⟩ := h
  rw [of, of, List.foldl_append]
  exact live_of_foldl events _

/-- A new registration keeps a ledger valid if no live one has its id. -/
theorem Valid.registered (h : l.Valid) (hid : ∀ r ∈ l.live, r.id ≠ id) (callback : β) :
    (l.next (.registered id callback)).Valid := by
  refine ⟨?_, ?_, fun r hr => ?_, fun n hn => Nat.lt_succ_of_lt (h.running_lt n hn)⟩
  · simp only [next, List.map_append, List.map_cons, List.map_nil]
    rw [← List.concat_eq_append]
    refine h.ids.concat fun hm => ?_
    obtain ⟨r, hr, he⟩ := List.mem_map.mp hm
    exact hid r hr he
  · simp only [next, List.map_append, List.map_cons, List.map_nil]
    rw [← List.concat_eq_append]
    refine h.numbers.concat fun hm => ?_
    obtain ⟨r, hr, he⟩ := List.mem_map.mp hm
    exact Nat.ne_of_lt (h.live_lt r hr) he
  · rcases List.mem_append.mp hr with hr | hr
    · exact Nat.lt_succ_of_lt (h.live_lt r hr)
    · obtain rfl := List.mem_singleton.mp hr
      exact Nat.lt_succ_self _

theorem Valid.unregistered (h : l.Valid) (id : Int) : (l.next (.unregistered id)).Valid where
  ids := h.ids.sublist (List.filter_sublist.map _)
  numbers := h.numbers.sublist (List.filter_sublist.map _)
  live_lt r hr := h.live_lt r (List.mem_of_mem_filter hr)
  running_lt := h.running_lt

theorem Valid.cleared (h : l.Valid) : (l.next .cleared).Valid :=
  ⟨by simp [next], by simp [next], by simp [next], h.running_lt⟩

/-- What starts at the id of a live registration is a callback of that registration. -/
theorem Valid.next_started (h : l.Valid) (hr : r ∈ l.live) (callback : β) :
    l.next (.started r.id callback) = { l with running := r.number :: l.running } := by
  simp [next, h.at?_eq hr]

theorem Valid.started (h : l.Valid) (hr : r ∈ l.live) (callback : β) :
    (l.next (.started r.id callback)).Valid := by
  rw [h.next_started hr]
  refine ⟨h.ids, h.numbers, h.live_lt, fun n hn => ?_⟩
  rcases List.mem_cons.mp hn with rfl | hn
  · exact h.live_lt r hr
  · exact h.running_lt n hn

theorem Valid.ended (h : l.Valid) (id : Int) : (l.next (.ended id)).Valid :=
  ⟨h.ids, h.numbers, h.live_lt, fun n hn => h.running_lt n (List.mem_of_mem_tail hn)⟩

/-! ## Registries that hold what they ought to hold -/

/-- What a registry ought to have at a registration's id: its callback, or nothing while that is
running. -/
def slot (l : Ledger β) (r : Registration β) : Option β :=
  if r.number ∈ l.running then none else some r.callback

/-- The registry has the registrations that were not removed, in the order in which they were made,
and the next id is beyond theirs. -/
structure Reflects (l : Ledger β) (registry : Registry β) : Prop where
  slots : registry.slots = l.live.map fun r => (r.id, l.slot r)
  fresh : ∀ r ∈ l.live, r.id < registry.nextId

theorem reflects_empty : Reflects ({} : Ledger β) {} := ⟨rfl, by simp⟩

variable {registry : Registry β}

theorem Reflects.get?_eq (h : l.Reflects registry) (id : Int) :
    registry.slots.get? id = (l.at? id).map l.slot := by
  rw [h.slots, Assoc.get?_map, at?]

/-- A registry starts what the registration at the id has in its slot. -/
theorem Reflects.idle?_eq (h : l.Reflects registry) (id : Int) :
    registry.idle? id = (l.at? id).bind l.slot := by
  rw [Registry.idle?, h.get?_eq]
  cases l.at? id <;> rfl

/-- A callback that a registry starts is one that may start. -/
theorem Reflects.exists_of_idle? (h : l.Reflects registry) {callback : β}
    (hi : registry.idle? id = some callback) :
    ∃ r ∈ l.live, r.id = id ∧ r.callback = callback ∧ r.number ∉ l.running := by
  rw [h.idle?_eq, Option.bind_eq_some_iff] at hi
  obtain ⟨r, hr, hs⟩ := hi
  obtain ⟨hm, hid⟩ := mem_of_at?_eq hr
  rw [slot] at hs
  split at hs
  · cases hs
  · exact ⟨r, hm, hid, Option.some.inj hs, ‹_›⟩

/-- Registering gives out an id that no live registration has, with a slot after all the others. -/
theorem Reflects.registered (hv : l.Valid) (h : l.Reflects registry) (callback : β) :
    (l.next (.registered registry.nextId callback)).Reflects
      ((Registry.register callback).run registry).2 := by
  have hkey : registry.nextId ∉ registry.slots.map (·.1) := by
    rw [h.slots, List.map_map]
    intro hm
    obtain ⟨r, hr, he⟩ := List.mem_map.mp hm
    exact absurd he (Int.ne_of_lt (h.fresh r hr))
  have hnew : l.made ∉ l.running := fun hm => Nat.lt_irrefl _ (hv.running_lt _ hm)
  constructor
  · show registry.slots.set registry.nextId (some callback) = _
    rw [Assoc.set_of_not_mem hkey, h.slots]
    show _ = (l.live ++ _).map fun r => (r.id, l.slot r)
    simp [slot, hnew]
  · intro r hr
    show r.id < registry.nextId + 1
    rcases List.mem_append.mp hr with hr | hr
    · exact Int.lt_trans (h.fresh r hr) (Int.lt_succ _)
    · obtain rfl := List.mem_singleton.mp hr
      exact Int.lt_succ _

/-- Unregistering removes the slot of one id and leaves the others in their order. -/
theorem Reflects.unregistered (h : l.Reflects registry) (id : Int) :
    (l.next (.unregistered id)).Reflects (registry.unregister id) := by
  constructor
  · show registry.slots.erase id = _
    rw [h.slots, Assoc.erase_map]
    rfl
  · exact fun r hr => h.fresh r (List.mem_of_mem_filter hr)

theorem reflects_cleared (l : Ledger β) : (l.next .cleared).Reflects Registry.clear :=
  ⟨rfl, by simp [next]⟩

/-- Setting the slot of one registration is a change of its slot alone. -/
theorem Reflects.set (hv : l.Valid) (h : l.Reflects registry) (hr : r ∈ l.live) {m : Ledger β}
    (hlive : m.live = l.live) (hother : ∀ r' ∈ l.live, r' ≠ r → m.slot r' = l.slot r') :
    m.Reflects { registry with slots := registry.slots.set r.id (m.slot r) } := by
  constructor
  · rw [hlive]
    show registry.slots.set r.id (m.slot r) = _
    rw [h.slots]
    refine Assoc.set_map _ _ hv.ids hr _ _ fun r' hr' => ?_
    split
    · next he => rw [List.inj_on_of_nodup_map hv.ids hr' hr (by simpa using he)]
    · next he => exact hother r' hr' fun e => he (by simp [e])
  · rw [hlive]
    exact h.fresh

/-- Taking a callback out to start it makes the slot of its registration vacant, and no other. -/
theorem Reflects.takeOut (hv : l.Valid) (h : l.Reflects registry) (hr : r ∈ l.live) (callback : β) :
    (l.next (.started r.id callback)).Reflects (registry.takeOut r.id) := by
  rw [hv.next_started hr]
  have := h.set hv hr (m := { l with running := r.number :: l.running }) rfl fun r' hr' hne => by
    have : r'.number ≠ r.number := fun e => hne (List.inj_on_of_nodup_map hv.numbers hr' hr e)
    simp [slot, this]
  simpa [slot, Registry.takeOut] using this

/-- A callback that ended goes back into its place, unless its registration was removed: then no
registration that has its id now is one whose callback is running. -/
theorem Reflects.putBack (hv : l.Valid) (h : l.Reflects registry) {rest : List Nat}
    (hrun : l.running = r.number :: rest) (hrest : r.number ∉ rest)
    (hnumber : ∀ r' ∈ l.live, r'.number = r.number → r' = r)
    (hid : ∀ r' ∈ l.live, r'.id = r.id → r'.number ∈ rest → r' = r) :
    (l.next (.ended r.id)).Reflects (registry.putBack r.id r.callback) := by
  have hslot : ∀ r' ∈ l.live, r' ≠ r → (l.next (.ended r.id)).slot r' = l.slot r' := by
    intro r' hr' hne
    have : r'.number ≠ r.number := fun e => hne (hnumber r' hr' e)
    simp [slot, next, hrun, this]
  have hvacant : registry.isVacant r.id = (l.at? r.id).any fun r' => (l.slot r').isNone := by
    rw [Registry.isVacant, h.get?_eq]
    cases l.at? r.id <;> rfl
  unfold Registry.putBack
  -- While the callback ran, its registration may have been removed and its id given out again.
  by_cases hr : r ∈ l.live
  · have hnone : l.slot r = none := by simp [slot, hrun]
    have hself : (l.next (.ended r.id)).slot r = some r.callback := by
      simp [slot, next, hrun, hrest]
    rw [hvacant, hv.at?_eq hr, Option.any_some, hnone, Option.isNone_none, if_pos rfl, ← hself]
    exact h.set hv hr rfl hslot
  · have hsame : registry.isVacant r.id = false := by
      rw [hvacant]
      cases hf : l.at? r.id with
      | none => rfl
      | some r' =>
        obtain ⟨hm, he⟩ := mem_of_at?_eq hf
        have hne : r' ≠ r := fun e => hr (e ▸ hm)
        -- Whoever has the id by now is not running, so its slot is full and stays as it is.
        have hidle : r'.number ∉ l.running := by
          rw [hrun, List.mem_cons, not_or]
          exact ⟨fun e => hne (hnumber r' hm e), fun e => hne (hid r' hm he e)⟩
        simp [slot, hidle]
    rw [hsame, if_neg Bool.false_ne_true]
    refine ⟨h.slots.trans (List.map_congr_left fun r' hr' => ?_), h.fresh⟩
    rw [hslot r' hr' fun e => hr (e ▸ hr')]

end Ledger
end Bindery
