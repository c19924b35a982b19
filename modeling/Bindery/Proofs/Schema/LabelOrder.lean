import Bindery.Schema.Label
import Mathlib.Algebra.Order.Field.Basic
import Mathlib.Algebra.Order.Field.Rat
import Mathlib.Data.List.Lex
import Mathlib.Data.Prod.Lex
import Mathlib.Data.String.Basic
import Mathlib.Data.Sum.Order

/-!
# The order of labels

Labels are compared by ranks, which are linearly ordered: numbers by their values, then everything
else by its text. Lists of labels are sorted by the first place where they are not the same, so
they are in order only as far as labels of one rank are the same.

* `Text.rank`, `Label.rank`: what texts and labels are compared by.
* `Label.Alike`: labels that an order of labels tells apart unless they are the same.
* `Label.listLT`: the strict lexicographic order.
* `Label.Separated`: two lists between which the lexicographic order decides.
* `Label.sortOnList_strict`: a sorted list whose keys differ is strictly increasing.
-/

namespace Bindery

/-- Where a text stands in the order of texts. -/
def Text.rank (s : String) : List ℕ ×ₗ String := toLex (numbers s, s)

theorem Text.rank_injective : Function.Injective Text.rank := fun _ _ h =>
  congrArg Prod.snd (toLex.injective h)

/-- The order of texts is that of their ranks. -/
theorem Text.le_iff {a b : String} : Text.le a b = true ↔ rank a ≤ rank b := by
  have hlt : Text.lt b a = true ↔ rank b < rank a := by
    simp [Text.lt, rank, Prod.Lex.toLex_lt_toLex]
  rw [Text.le, Bool.not_eq_true', ← not_lt, ← hlt, Bool.not_eq_true]

namespace Label

/-- Where a label stands in the order of labels. -/
def rank (l : Label) : ℚ ⊕ₗ (List ℕ ×ₗ String) :=
  match l.number? with
  | some (n, k) => Sum.inlₗ ((n : ℚ) / 2 ^ k)
  | none => Sum.inrₗ (Text.rank l.spoken)

/-- Numbers with powers of two below them are compared by multiplying crosswise. -/
theorem ratio_le_iff {m n : ℤ} {j k : ℕ} :
    m * 2 ^ k ≤ n * 2 ^ j ↔ (m : ℚ) / 2 ^ j ≤ (n : ℚ) / 2 ^ k := by
  rw [div_le_div_iff₀ (pow_pos two_pos j) (pow_pos two_pos k)]
  norm_cast

theorem ratio_eq_iff {m n : ℤ} {j k : ℕ} :
    m * 2 ^ k = n * 2 ^ j ↔ (m : ℚ) / 2 ^ j = (n : ℚ) / 2 ^ k := by
  rw [div_eq_div_iff (pow_ne_zero j two_ne_zero) (pow_ne_zero k two_ne_zero)]
  norm_cast

/-- The order of labels is that of their ranks. -/
theorem le_iff {a b : Label} : a.le b = true ↔ a.rank ≤ b.rank := by
  unfold le rank
  cases ha : a.number? with
  | none => cases hb : b.number? <;> simp [Text.le_iff]
  | some x => cases hb : b.number? <;> simp [ratio_le_iff]

@[simp] theorem same_self (a : Label) : a.same a = true := by
  unfold same
  cases h : a.number? <;> simp

theorem same_comm (a b : Label) : a.same b = b.same a := by
  unfold same
  cases ha : a.number? <;> cases hb : b.number? <;> simp [eq_comm]

/-- Two labels that are in order only if they are texts, numbers, or one label. -/
def Alike (a b : Label) : Prop :=
  (a.isText ∧ b.isText) ∨ (a.number?.isSome ∧ b.number?.isSome) ∨ a = b

theorem alike_of_comparable {ls : List Label} (h : comparable ls = true) {a b : Label}
    (ha : a ∈ ls) (hb : b ∈ ls) : Alike a b := by
  rw [comparable, Bool.or_eq_true, Bool.or_eq_true, List.all_eq_true, List.all_eq_true] at h
  rcases h with (hone | htext) | hnumber
  · match ls, of_decide_eq_true hone with
    | [l], _ => exact .inr (.inr ((List.mem_singleton.1 ha).trans (List.mem_singleton.1 hb).symm))
  · exact .inl ⟨htext a ha, htext b hb⟩
  · exact .inr (.inl ⟨hnumber a ha, hnumber b hb⟩)

/-- Labels that the order does not tell apart are the same. -/
theorem Alike.same {a b : Label} (h : Alike a b) (hrank : a.rank = b.rank) : a.same b = true := by
  rcases h with ⟨ha, hb⟩ | ⟨ha, hb⟩ | rfl
  · cases a <;> cases b <;> cases ha <;> cases hb
    have htext := Text.rank_injective (Sum.inr_injective (toLex.injective hrank))
    exact (same_text _ _).trans (decide_eq_true htext)
  · obtain ⟨x, hx⟩ := Option.isSome_iff_exists.1 ha
    obtain ⟨y, hy⟩ := Option.isSome_iff_exists.1 hb
    simp only [rank, hx, hy] at hrank
    have hratio := Sum.inl_injective (toLex.injective hrank)
    simpa [Label.same, hx, hy] using ratio_eq_iff.2 hratio
  · exact same_self a

/-- Only the text itself stands for its name. -/
theorem same_iff_eq {a b : Label} (ha : a.isText = true) : a.same b = true ↔ a = b := by
  cases a <;> cases ha
  simp [same, number?]

theorem eq_of_same {a b : Label} (ha : a.isText = true) (hb : b.isText = true)
    (h : a.same b = true) : a = b := by
  cases a <;> cases ha
  cases b <;> cases hb
  rw [same_text] at h
  rw [of_decide_eq_true h]

theorem eq_of_spoken {a b : Label} (ha : a.isText = true) (hb : b.isText = true)
    (h : a.spoken = b.spoken) : a = b := by
  cases a <;> cases ha
  cases b <;> cases hb
  exact congrArg Document.text h

theorem eq_of_rank_eq {a b : Label} (ha : a.isText = true) (hb : b.isText = true)
    (h : a.rank = b.rank) : a = b :=
  eq_of_same ha hb (Alike.same (.inl ⟨ha, hb⟩) h)

/-! ## Lists of labels -/

/-- The strict lexicographic order of label lists. -/
def listLT : List Label → List Label → Prop := List.Lex fun a b => a.le b ∧ ¬ b.le a

/-- At the first place where two lists differ, the labels are not the same and have different
ranks. -/
def Separated : List Label → List Label → Prop
  | a :: as, b :: bs =>
    (a.same b → a = b) ∧ (a.rank = b.rank → a = b) ∧ (a = b → Separated as bs)
  | _, _ => True

theorem listLE_cons (a b : Label) (as bs : List Label) (h : a.same b → a = b) :
    listLE (a :: as) (b :: bs) = true ↔ a = b ∧ listLE as bs = true ∨ a ≠ b ∧ a.le b = true := by
  rw [listLE]
  by_cases he : a = b
  · simp [he]
  · have hs : a.same b = false := by simpa using fun hs => he (h hs)
    simp [hs, he]

/-- Of two separated lists, one comes before the other. -/
theorem listLE_total {as bs : List Label} (h : Separated as bs) :
    listLE as bs = true ∨ listLE bs as = true := by
  induction as generalizing bs with
  | nil => exact .inl rfl
  | cons a as ih =>
    cases bs with
    | nil => exact .inr rfl
    | cons b bs =>
      obtain ⟨hs, -, ht⟩ := h
      rw [listLE_cons a b as bs hs, listLE_cons b a bs as fun h => (hs (same_comm b a ▸ h)).symm,
        le_iff, le_iff]
      by_cases he : a = b
      · subst he
        simpa using ih (ht rfl)
      · have := le_total a.rank b.rank
        tauto

/-- The order of lists is transitive where the lists are separated. -/
theorem listLE_trans {as bs cs : List Label} (hab : Separated as bs) (hbc : Separated bs cs)
    (hac : Separated as cs) (h₁ : listLE as bs = true) (h₂ : listLE bs cs = true) :
    listLE as cs = true := by
  induction as generalizing bs cs with
  | nil => rfl
  | cons a as ih =>
    cases bs with
    | nil => cases h₁
    | cons b bs =>
    cases cs with
    | nil => cases h₂
    | cons c cs =>
      rw [listLE_cons a b as bs hab.1] at h₁
      rw [listLE_cons b c bs cs hbc.1] at h₂
      rw [listLE_cons a c as cs hac.1]
      -- Each of the two comparisons is decided by the first labels or behind them.
      rcases h₁ with ⟨rfl, h₁⟩ | ⟨hne₁, h₁⟩ <;> rcases h₂ with ⟨rfl, h₂⟩ | ⟨hne₂, h₂⟩
      · exact .inl ⟨rfl, ih (hab.2.2 rfl) (hbc.2.2 rfl) (hac.2.2 rfl) h₁ h₂⟩
      · exact .inr ⟨hne₂, h₂⟩
      · exact .inr ⟨hne₁, h₁⟩
      · rw [le_iff] at h₁ h₂ ⊢
        refine .inr ⟨fun e => ?_, h₁.trans h₂⟩
        subst e
        exact hne₁ (hab.2.1 (h₁.antisymm h₂))

/-- Lists in order that differ are in strict order. -/
theorem listLT_of_listLE {as bs : List Label} (h : Separated as bs) (hle : listLE as bs = true)
    (hne : as ≠ bs) : listLT as bs := by
  induction as generalizing bs with
  | nil =>
    cases bs with
    | nil => exact absurd rfl hne
    | cons b bs => exact .nil
  | cons a as ih =>
    cases bs with
    | nil => cases hle
    | cons b bs =>
      rw [listLE_cons a b as bs h.1] at hle
      rcases hle with ⟨rfl, hle⟩ | ⟨hab, hle⟩
      · exact .cons (ih (h.2.2 rfl) hle fun e => hne (by rw [e]))
      · refine .rel ⟨hle, fun hge => hab (h.2.1 ?_)⟩
        exact (le_iff.1 hle).antisymm (le_iff.1 hge)

end Label

/-! ## Sorted lists -/

/-- Sorting needs an order only between the members of the list. -/
theorem pairwise_mergeSort_of_mem {α : Type} {r : α → α → Bool} {xs : List α}
    (htrans : ∀ a ∈ xs, ∀ b ∈ xs, ∀ c ∈ xs, r a b → r b c → r a c)
    (htotal : ∀ a ∈ xs, ∀ b ∈ xs, r a b || r b a) :
    (xs.mergeSort r).Pairwise fun a b => r a b := by
  have hmembers : (xs.attach.mergeSort fun a b => r a.1 b.1).Pairwise fun a b => r a.1 b.1 :=
    @List.pairwise_mergeSort { a // a ∈ xs } (fun a b => r a.1 b.1)
      (fun a b c => htrans a a.2 b b.2 c c.2) (fun a b => htotal a a.2 b b.2) xs.attach
  have hmap : (xs.attach.mergeSort fun a b => r a.1 b.1).map (·.1) = xs.mergeSort r := by
    rw [List.map_mergeSort (s := r) fun a _ b _ => rfl, List.attach_map_subtype_val]
  rw [← hmap]
  exact List.pairwise_map.2 hmembers

/-- A sorted list whose keys differ is strictly increasing. -/
theorem Label.sortOnList_strict {α : Type} {key : α → List Label} {xs : List α}
    (hseparated : ∀ a ∈ xs, ∀ b ∈ xs, Separated (key a) (key b))
    (hdiffer : xs.Pairwise fun a b => key a ≠ key b) :
    (sortOnList key xs).Pairwise fun a b => listLT (key a) (key b) := by
  have hperm : (sortOnList key xs).Perm xs := List.mergeSort_perm _ _
  have hsorted : (sortOnList key xs).Pairwise fun a b => listLE (key a) (key b) = true :=
    pairwise_mergeSort_of_mem
      (fun a ha b hb c hc => listLE_trans (hseparated a ha b hb) (hseparated b hb c hc)
        (hseparated a ha c hc))
      (fun a ha b hb => by simpa using listLE_total (hseparated a ha b hb))
  have hkeys := (hperm.pairwise_iff fun h e => h e.symm).2 hdiffer
  refine (hsorted.and hkeys).imp_of_mem fun ha hb h => ?_
  exact listLT_of_listLE (hseparated _ (hperm.mem_iff.1 ha) _ (hperm.mem_iff.1 hb)) h.1 h.2

end Bindery
