import Mathlib.Data.List.Forall2

/-!
# Lists that correspond, and passes over lists

A step either returns or fails, and a pass over a list stops at the first step that fails.

* `exists_of_mem_left`, `exists_of_mem_right`: the partner of a member of two related lists.
* `Outcome.bind_eq_ok_iff`, `bind_eq_error_iff`: what two steps come to.
* `Outcome.mapM_eq_ok_iff`, `mapM_eq_ok_iff_of`, `exists_of_mapM_eq_error`: what a pass comes to.
-/

namespace Bindery

/-- A member of the second list has a partner in the first one. -/
theorem exists_of_mem_right {α β : Type} {R : α → β → Prop} {xs : List α} {ys : List β}
    (h : List.Forall₂ R xs ys) {y : β} (hy : y ∈ ys) : ∃ x ∈ xs, R x y := by
  induction h with
  | nil => cases hy
  | @cons x y' xs ys hxy _ ih =>
    rcases List.mem_cons.1 hy with rfl | hy
    · exact ⟨x, by simp, hxy⟩
    · obtain ⟨x', hx', h⟩ := ih hy
      exact ⟨x', by simp [hx'], h⟩

theorem exists_of_mem_left {α β : Type} {R : α → β → Prop} {xs : List α} {ys : List β}
    (h : List.Forall₂ R xs ys) {x : α} (hx : x ∈ xs) : ∃ y ∈ ys, R x y :=
  exists_of_mem_right h.flip hx

namespace Outcome

variable {ε α β : Type} {x : Except ε α} {f : α → Except ε β}

/-- Two steps find something just if the first one does and the second one goes on from it. -/
theorem bind_eq_ok_iff {b : β} : (x >>= f) = .ok b ↔ ∃ a, x = .ok a ∧ f a = .ok b := by
  cases x <;> simp [bind, Except.bind]

theorem bind_eq_error_iff {e : ε} :
    (x >>= f) = .error e ↔ x = .error e ∨ ∃ a, x = .ok a ∧ f a = .error e := by
  cases x <;> simp [bind, Except.bind]

/-- A pass finds what its steps find, member by member. -/
theorem mapM_eq_ok_iff {xs : List α} {ys : List β} :
    xs.mapM f = .ok ys ↔ List.Forall₂ (fun x y => f x = .ok y) xs ys := by
  induction xs generalizing ys with
  | nil => simp [pure, Except.pure, eq_comm]
  | cons x xs ih =>
    rw [List.mapM_cons, bind_eq_ok_iff, List.forall₂_cons_left_iff]
    simp only [bind_eq_ok_iff, ih, pure, Except.pure, Except.ok.injEq]
    constructor
    · rintro ⟨y, hy, rest, hrest, rfl⟩
      exact ⟨y, rest, hy, hrest, rfl⟩
    · rintro ⟨y, rest, hy, hrest, rfl⟩
      exact ⟨y, hy, rest, hrest, rfl⟩

/-- A pass whose steps find what a relation says finds what it says of the members. -/
theorem mapM_eq_ok_iff_of {S : α → β → Prop} {xs : List α} {ys : List β}
    (h : ∀ x ∈ xs, ∀ y, f x = .ok y ↔ S x y) : xs.mapM f = .ok ys ↔ List.Forall₂ S xs ys := by
  rw [mapM_eq_ok_iff]
  induction xs generalizing ys with
  | nil => simp
  | cons x xs ih =>
    have hrest := fun z hz => h z (List.mem_cons_of_mem x hz)
    simp only [List.forall₂_cons_left_iff, h x List.mem_cons_self, ih hrest]

/-- A pass that stops stops at some member. -/
theorem exists_of_mapM_eq_error {xs : List α} {e : ε} (h : xs.mapM f = .error e) :
    ∃ x ∈ xs, f x = .error e := by
  induction xs with
  | nil => cases h
  | cons x xs ih =>
    rw [List.mapM_cons] at h
    rcases bind_eq_error_iff.1 h with hx | ⟨y, -, h⟩
    · exact ⟨x, List.mem_cons_self, hx⟩
    · rcases bind_eq_error_iff.1 h with hrest | ⟨rest, -, h⟩
      · obtain ⟨z, hz, hf⟩ := ih hrest
        exact ⟨z, List.mem_cons_of_mem x hz, hf⟩
      · cases h

end Outcome

end Bindery
