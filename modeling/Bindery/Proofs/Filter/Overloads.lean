import Bindery.Filter
import Bindery.Proofs.Outcome
import Bindery.Proofs.Schema.LabelOrder
import Mathlib.Data.List.Nodup
import Mathlib.Data.List.Perm.Subperm

/-!
# Overloads

What renaming does to the functions of a class.

* `Function.Renames`: a function under the same or a numbered name, everything else unchanged.
* `renameOverloads_renames`: the functions keep their order, each renamed.
* `nodup_renameOverloads`: their names are distinct afterwards.
-/

namespace Bindery

theorem toString_nat_injective {m n : Nat} (h : toString m = toString n) : m = n := by
  have hdigits : Nat.toDigits 10 m = Nat.toDigits 10 n := by
    simpa [Nat.repr] using congrArg String.toList h
  simpa using congrArg (fun ds => Nat.ofDigitChars 10 ds 0) hdigits

/-- `g` is `f` as the bindings know it: its declared name is the name of `f`, its own name is that
or a numbered one, and nothing else differs. -/
structure Function.Renames (f g : Function) : Prop where
  eq : g = { f with name := g.name, declaredName := f.name }
  name : g.name = f.name ∨ ∃ n, g.name = numbered f.name n

theorem Function.Renames.params {f g : Function} (h : f.Renames g) : g.params = f.params := by
  rw [h.eq]

theorem Function.Renames.isText {f g : Function} (h : f.Renames g) (hf : f.name.isText = true) :
    g.name.isText = true := by
  rcases h.name with hname | ⟨n, hname⟩
  · rwa [hname]
  · rw [hname]
    rfl

theorem renameFrom_renames (seen taken : List Label) (fs : List Function) :
    List.Forall₂ Function.Renames fs (renameFrom seen taken fs) := by
  induction fs generalizing seen taken with
  | nil => exact .nil
  | cons f rest ih =>
    unfold renameFrom
    dsimp only
    split
    · exact .cons ⟨rfl, .inl rfl⟩ (ih _ _)
    · exact .cons ⟨rfl, .inr ⟨_, rfl⟩⟩ (ih _ _)

/-- Renaming loses no function and adds none. -/
theorem renameOverloads_renames (fs : List Function) :
    List.Forall₂ Function.Renames fs (renameOverloads fs) :=
  renameFrom_renames [] _ fs

theorem length_renameOverloads (fs : List Function) : (renameOverloads fs).length = fs.length :=
  (renameOverloads_renames fs).length_eq.symm

/-! ## Distinct names -/

theorem numbered_injective (base : Label) : Function.Injective (numbered base) := by
  intro m n h
  have htext : base.spoken ++ "_" ++ toString m = base.spoken ++ "_" ++ toString n := by
    simpa [numbered] using h
  exact toString_nat_injective ((String.append_right_inj _).1 htext)

/-- The search only ends at a taken name if all names up to there are taken. -/
theorem taken_of_freeSuffix_mem {taken : List Label} {base : Label} {n fuel : Nat}
    (h : numbered base (freeSuffix taken base n fuel) ∈ taken) :
    ∀ k ≤ fuel, numbered base (n + k) ∈ taken := by
  induction fuel generalizing n with
  | zero =>
    intro k hk
    obtain rfl : k = 0 := by omega
    exact h
  | succ fuel ih =>
    intro k hk
    rw [freeSuffix] at h
    split at h
    · next hn =>
      match k with
      | 0 => simpa using hn
      | k + 1 =>
        have := ih h k (by omega)
        rwa [show n + (k + 1) = n + 1 + k by omega]
    · next hn => exact absurd h (by simpa using hn)

/-- A number that the search finds is free: there are more candidates than taken names. -/
theorem freeSuffix_not_mem (taken : List Label) (base : Label) (n : Nat) :
    numbered base (freeSuffix taken base n taken.length) ∉ taken := by
  intro h
  have htaken := taken_of_freeSuffix_mem h
  have hsub : (List.range (taken.length + 1)).map (fun k => numbered base (n + k)) ⊆ taken := by
    intro l hl
    obtain ⟨k, hk, rfl⟩ := List.mem_map.1 hl
    exact htaken k (by have := List.mem_range.1 hk; omega)
  have hnodup : ((List.range (taken.length + 1)).map fun k => numbered base (n + k)).Nodup := by
    refine List.nodup_range.map fun i j e => ?_
    have := numbered_injective base e
    omega
  have hlength := (List.subperm_of_subset hnodup hsub).length_le
  rw [List.length_map, List.length_range] at hlength
  omega

/-- A name that renaming gives out is a declared one, and no earlier function was declared with it,
or it is one that was not taken. -/
theorem renameFrom_names (seen taken : List Label) {fs : List Function}
    (htaken : ∀ f ∈ fs, f.name ∈ taken) :
    ((renameFrom seen taken fs).map (·.name)).Nodup ∧
    ∀ g ∈ renameFrom seen taken fs,
      (g.name ∈ fs.map (·.name) ∧ g.name ∉ seen) ∨ g.name ∉ taken := by
  induction fs generalizing seen taken with
  | nil => exact ⟨.nil, nofun⟩
  | cons f rest ih =>
    have hf : f.name ∈ taken := htaken f (by simp)
    have hrest : ∀ g ∈ rest, g.name ∈ taken := fun g hg => htaken g (by simp [hg])
    unfold renameFrom
    dsimp only
    split
    -- The first function with its name keeps it, and the others are kept away from it.
    · next hfirst =>
      obtain ⟨hnodup, hnames⟩ := ih (f.name :: seen) taken hrest
      have hseen : f.name ∉ seen := fun hs =>
        List.countP_eq_zero.1 hfirst _ hs (Label.same_self _)
      refine ⟨List.nodup_cons.2 ⟨fun hmem => ?_, hnodup⟩, fun g hg => ?_⟩
      · obtain ⟨g, hg, he⟩ := List.mem_map.1 hmem
        rcases hnames g hg with ⟨-, h⟩ | h
        · exact h (by simp [he])
        · exact h (he ▸ hf)
      · rcases List.mem_cons.1 hg with rfl | hg
        · exact .inl ⟨by simp, hseen⟩
        · exact (hnames g hg).imp_left fun h => ⟨by simp [h.1], fun hs => h.2 (by simp [hs])⟩
    -- A later one gets a free name, which is taken from then on.
    · next =>
      have hfree := freeSuffix_not_mem taken f.name (seen.countP f.name.same)
      generalize hname : numbered f.name _ = name at hfree
      obtain ⟨hnodup, hnames⟩ := ih (f.name :: seen) (name :: taken) fun g hg => by
        simp [hrest g hg]
      refine ⟨List.nodup_cons.2 ⟨fun hmem => ?_, hnodup⟩, fun g hg => ?_⟩
      · obtain ⟨g, hg, he⟩ := List.mem_map.1 hmem
        rcases hnames g hg with ⟨h, -⟩ | h
        · obtain ⟨g', hg', he'⟩ := List.mem_map.1 h
          have hsame : g'.name = name := he'.trans he
          exact hfree (hsame ▸ hrest g' hg')
        · exact h (by simp [he])
      · rcases List.mem_cons.1 hg with rfl | hg
        · exact .inr hfree
        · refine (hnames g hg).imp (fun h => ?_) fun h ht => h (by simp [ht])
          exact ⟨by simp [h.1], fun hs => h.2 (by simp [hs])⟩

/-- Functions of a class have distinct names once overloads are renamed. -/
theorem nodup_renameOverloads (fs : List Function) :
    ((renameOverloads fs).map (·.name)).Nodup :=
  (renameFrom_names [] _ fun _ hf => List.mem_map_of_mem hf).1

end Bindery
