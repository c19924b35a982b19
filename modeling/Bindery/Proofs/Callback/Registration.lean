import Bindery.Proofs.Callback.Binding
import Bindery.Session.Delegate

/-!
# What a binding leaves in the registry

A callback is registered before the host is told of it. If the host then refuses with a code, the
registration is undone. If there is no host, or it fails without an answer, the binding fails as
well, but its callback stays registered.

* `Registry.Reached`: the registries that there can be. Their next id is new (`Reached.id_lt`), so
  a registration adds an entry at the end (`Reached.register_eq`), and removing it gives the entries
  before (`Reached.unregister_next`).
* `answerFor`: what the host answers when it is told of a callback.
* `runOn_bindDelegate_eq`: a binding, by that answer.
* `Session.leaves_tell`: the engine does not touch the registry when it is told, directly or through
  a table.
* `slots_after_binding`: the main statement.
-/

namespace Bindery

open Host

/-! ## Registries -/

namespace Registry

variable {β : Type}

/-- The registries that registering, removing and running callbacks lead to. -/
inductive Reached : Registry β → Prop
  | empty : Reached clear
  | register {r : Registry β} (callback : β) : Reached r → Reached ((register callback).run r).2
  | unregister {r : Registry β} (id : Int) : Reached r → Reached (r.unregister id)
  | takeOut {r : Registry β} {id : Int} {callback : β} : r.idle? id = some callback → Reached r →
      Reached (r.takeOut id)
  | putBack {r : Registry β} (id : Int) (callback : β) : Reached r → Reached (r.putBack id callback)

theorem mem_keys_of_idle? {r : Registry β} {id : Int} {callback : β}
    (h : r.idle? id = some callback) : id ∈ r.slots.map (·.1) :=
  Assoc.mem_keys_of_get? (Option.join_eq_some_iff.mp h)

theorem mem_keys_of_isVacant {r : Registry β} {id : Int} (h : r.isVacant id = true) :
    id ∈ r.slots.map (·.1) := by
  unfold isVacant at h
  cases hslot : r.slots.get? id with
  | none => simp [hslot] at h
  | some slot => exact Assoc.mem_keys_of_get? hslot

namespace Reached

variable {r : Registry β}

/-- Ids count up, and nothing but a registration brings one in. -/
theorem id_lt (h : Reached r) : ∀ id ∈ r.slots.map (·.1), id < r.nextId := by
  induction h with
  | empty => simp [clear]
  | @register r callback _ ih =>
    intro id hid
    change id < r.nextId + 1
    rcases Assoc.mem_keys_set.mp hid with rfl | hid
    · omega
    · have := ih id hid
      omega
  | @unregister r removed _ ih =>
    intro id hid
    have hsub : (r.slots.erase removed).Sublist r.slots :=
      Assoc.erase_eq_filter removed r.slots ▸ List.filter_sublist
    exact ih id ((hsub.map _).mem hid)
  | takeOut hidle _ ih =>
    intro id hid
    rcases Assoc.mem_keys_set.mp hid with rfl | hid
    · exact ih _ (mem_keys_of_idle? hidle)
    · exact ih id hid
  | @putBack r kept callback _ ih =>
    intro id hid
    rw [nextId_putBack]
    unfold Registry.putBack at hid
    split at hid
    next hvacant =>
      rcases Assoc.mem_keys_set.mp hid with rfl | hid
      · exact ih _ (mem_keys_of_isVacant hvacant)
      · exact ih id hid
    next => exact ih id hid

theorem nextId_not_mem (h : Reached r) : r.nextId ∉ r.slots.map (·.1) :=
  fun hid => Int.lt_irrefl _ (h.id_lt _ hid)

theorem register_eq (h : Reached r) (callback : β) :
    ((Registry.register callback).run r).2 =
      ⟨r.slots ++ [(r.nextId, some callback)], r.nextId + 1⟩ := by
  change (⟨r.slots.set r.nextId (some callback), r.nextId + 1⟩ : Registry β) = _
  rw [Assoc.set_of_not_mem h.nextId_not_mem]

theorem unregister_next (h : Reached r) (callback : β) :
    (((Registry.register callback).run r).2.unregister r.nextId).slots = r.slots := by
  have hold : ∀ e ∈ r.slots, e.1 ≠ r.nextId := fun e he heq =>
    h.nextId_not_mem (heq ▸ List.mem_map_of_mem he)
  rw [h.register_eq]
  change Assoc.erase r.nextId (r.slots ++ [(r.nextId, some callback)]) = r.slots
  rw [Assoc.erase_eq_filter, List.filter_append, List.filter_eq_self.mpr (by simpa using hold)]
  simp

end Reached
end Registry

/-! ## Bindings by what the host answers -/

section Bindings

variable {σ β : Type} (dispatch : Act σ (Primitives σ)) (registry : Part σ (Registry β))
  (owner prop : Value) (multicast : Bool) (callback : β)

/-- The state in which the host is told of a callback. -/
def withRegistered (s : σ) : σ :=
  registry.set ((Registry.register callback).run (registry.get s)).2 s

/-- What becomes of telling the host of a callback that is to be bound. -/
def answerFor (s : σ) : Except Fault Value × σ :=
  (Linked.tell dispatch owner prop multicast (registry.get s).nextId).runOn
    (withRegistered registry callback s)

/-- A code other than the one for success is refused, whatever value it is. -/
theorem Host.Code.exists_check_eq_error {code : Value} (h : Code.isOk code = false)
    (detail : Value) : ∃ e, Code.check code detail = .error e := by
  unfold Code.check
  rw [h, Bool.not_false, if_pos rfl]
  cases Code.error code detail with
  | error e => exact ⟨e, rfl⟩
  | ok error => exact ⟨.host error.1, rfl⟩

/-- Only a refusal is followed by undoing the registration. -/
theorem runOn_bindDelegate_eq (s : σ) :
    (bindDelegate dispatch registry owner prop multicast callback).runOn s =
      match answerFor dispatch registry owner prop multicast callback s with
      | (.error e, t) => (.error e, t)
      | (.ok code, t) =>
        if Code.isOk code then
          (.ok ⟨(registry.get s).nextId, owner, prop, multicast, true⟩, t)
        else
          ((Code.check code).map fun _ => ⟨(registry.get s).nextId, owner, prop, multicast, true⟩,
            registry.set ((registry.get t).unregister (registry.get s).nextId) t) := by
  have hanswer : (Linked.tell dispatch owner prop multicast (registry.get s).nextId).runOn
      (registry.set ((Registry.register callback).run (registry.get s)).2 s) =
      answerFor dispatch registry owner prop multicast callback s := rfl
  rw [Linked.runOn_bindDelegate]
  simp only [Act.runOn_bind, hanswer]
  rcases answerFor dispatch registry owner prop multicast callback s with ⟨e | code, t⟩
  · rfl
  · cases hcode : Code.isOk code with
    | true =>
      simp only [hcode, Bool.not_true, Bool.false_eq_true, if_false, Act.runOn_pure, if_true]
    | false =>
      simp only [hcode, Bool.not_false, if_true, Act.runOn_bind, Part.runOn_modify, Code.accept,
        Act.runOn_ofExcept, Act.runOn_pure, Bool.false_eq_true, if_false]
      cases Code.check code <;> rfl

end Bindings

/-! ## Sessions -/

namespace Session

theorem leaves_connected : Act.Leaves registryPart connected := by
  refine .bind (.read _) fun s => ?_
  split
  · exact .pure _
  · exact .throw _

theorem leaves_engine_tell (primitive : String) (f : Engine → Except Fault (Value × Engine)) :
    (Engine.tell enginePart primitive f).Leaves registryPart :=
  .within (fun _ _ => rfl) _

/-- A call over a table with an entry that forwards to a primitive. -/
theorem leaves_native (primitive : Value → Value → Act Session Value)
    (h : ∀ owner prop, (primitive owner prop).Leaves registryPart) (owner prop : Value) :
    Act.Leaves registryPart do
      return codeOf (← Table.code
        (primitive (Table.received (← Primitives.pass owner))
          (Table.received (← Primitives.pass prop)))) := by
  refine .bind (.ofExcept _) fun a => .bind (.ofExcept _) fun b => .bind ?_ fun _ => .pure _
  exact .tryCatch ((h _ _).map _) fun _ => .pure _

/-- The engine does not touch the registry when it is told of a callback. -/
theorem leaves_tell (owner prop : Value) (multicast : Bool) (id : Int) :
    (Linked.tell dispatch owner prop multicast id).Leaves registryPart := by
  unfold Linked.tell dispatch
  rw [bind_assoc]
  refine .bind leaves_connected fun c => ?_
  rw [pure_bind]
  -- Through a table the id is a machine word.
  let word := (UInt64.ofInt id).toNat
  cases c.native <;> cases multicast
  · exact leaves_engine_tell _ _
  · exact leaves_engine_tell _ _
  · exact leaves_native (fun owner prop => Engine.tell enginePart "bind_delegate"
      (Engine.bind (owner, prop) word)) (fun _ _ => leaves_engine_tell _ _) owner prop
  · exact leaves_native (fun owner prop => Engine.tell enginePart "add_multicast"
      (Engine.addMulticast (owner, prop) word)) (fun _ _ => leaves_engine_tell _ _) owner prop

end Session

/-! ## What is registered -/

/-- Binding a callback in any registry that there can be, with any host that leaves the registry to
the bindings. If the host answers the code for success, there is a binding, and its callback is
what is registered in addition. If it refuses with any other code, the binding fails and what is
registered is what was registered before. If it does not answer, for there is none or it fails, the
binding fails and its callback stays registered. -/
theorem slots_after_binding {σ β : Type} {dispatch : Act σ (Primitives σ)}
    {registry : Part σ (Registry β)} (hset : ∀ r s, registry.get (registry.set r s) = r)
    {owner prop : Value} {multicast : Bool}
    (hhost : ∀ id, (Linked.tell dispatch owner prop multicast id).Leaves registry)
    (callback : β) {s : σ} (hs : (registry.get s).Reached) :
    let before := registry.get s
    let added := before.slots ++ [(before.nextId, some callback)]
    let run := (bindDelegate dispatch registry owner prop multicast callback).runOn s
    match (answerFor dispatch registry owner prop multicast callback s).1 with
    | .ok code =>
      if Code.isOk code then
        run.1 = .ok ⟨before.nextId, owner, prop, multicast, true⟩ ∧
          (registry.get run.2).slots = added
      else (∃ e, run.1 = .error e) ∧ (registry.get run.2).slots = before.slots
    | .error e => run.1 = .error e ∧ (registry.get run.2).slots = added := by
  intro before added run
  have hrun : run = _ := runOn_bindDelegate_eq dispatch registry owner prop multicast callback s
  have hleft : registry.get (answerFor dispatch registry owner prop multicast callback s).2 =
      ((Registry.register callback).run before).2 :=
    (hhost before.nextId _).trans (hset _ _)
  generalize answerFor dispatch registry owner prop multicast callback s = answer at hrun hleft ⊢
  have hadded : (registry.get answer.2).slots = added := by rw [hleft, hs.register_eq]
  rcases answer with ⟨e | code, t⟩
  · rw [hrun]
    exact ⟨rfl, hadded⟩
  · cases hcode : Code.isOk code with
    | true =>
      rw [hrun]
      simp only [hcode, if_true]
      exact ⟨rfl, hadded⟩
    | false =>
      obtain ⟨e, he⟩ := Host.Code.exists_check_eq_error hcode (.text "")
      rw [hrun]
      simp only [hcode, Bool.false_eq_true, if_false, he]
      refine ⟨⟨e, rfl⟩, ?_⟩
      rw [hset, hleft]
      exact hs.unregister_next callback

/-- A session with a callback bound already, connected to an engine that refuses to bind another one
with a code. -/
def refusingSession : Session :=
  { engine := { faults := [(.text "bind_delegate", .int 3)] }
    connection := some ⟨false, .int 1, []⟩
    registry := ((Registry.register ⟨.text "first", .list []⟩).run {}).2 }

/-- The second callback is refused, and the first one is left. -/
theorem slots_after_binding_refused :
    let run := (bindDelegate Session.dispatch Session.registryPart (.int 4112) (.int 3) false
      ⟨.text "second", .list []⟩).runOn refusingSession
    (refusingSession.registry.Reached ∧
      ∀ id, (Linked.tell Session.dispatch (.int 4112) (.int 3) false id).Leaves
        Session.registryPart) ∧
    (∃ e, run.1 = .error e) ∧ run.2.registry.slots = [(1, some ⟨.text "first", .list []⟩)] := by
  have hreached : refusingSession.registry.Reached := .register _ .empty
  have hhost := Session.leaves_tell (.int 4112) (.int 3) false
  exact ⟨⟨hreached, hhost⟩,
    slots_after_binding (fun _ _ => rfl) hhost ⟨.text "second", .list []⟩
      (s := refusingSession) hreached⟩

/-- Without a connection binding fails, and the callback that was to be bound is registered. -/
theorem unanswered_binding_stays_registered :
    let callback : Callback := ⟨.text "a", .list []⟩
    let run := (bindDelegate Session.dispatch Session.registryPart (.int 4112) (.int 3) false
      callback).runOn {}
    run.1.toOption.isNone ∧ ({} : Session).registry.slots = [] ∧
      run.2.registry.slots = [(1, some callback)] := ⟨rfl, rfl, rfl⟩

end Bindery
