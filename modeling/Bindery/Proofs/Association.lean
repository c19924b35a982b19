import Bindery.Association

/-!
# Associations made from lists

An association whose entries are made from the items of a list, one each. Looking up and erasing
are then questions about the items (`get?_map`, `erase_map`); setting a key that no item has adds an
entry at the end (`set_of_get?_none`, `set_of_not_mem`), so that it is found exactly where nothing
was found before (`get?_set_of_get?_none`), and setting one that an item has changes that entry
alone (`set_map`).

The keys of an association are those that were set (`mem_keys_set`); erasing keeps the entries with
other keys (`erase_eq_filter`).
-/

namespace Bindery.Assoc

variable {ι κ α : Type} [BEq κ] [LawfulBEq κ] (k : ι → κ) (v : ι → α)

/-- The first item with the key answers. -/
theorem get?_map (key : κ) (items : List ι) :
    get? key (items.map fun i => (k i, v i)) = (items.find? fun i => k i == key).map v := by
  induction items with
  | nil => rfl
  | cons i rest ih =>
    by_cases h : k i = key
    · simp [get?, h]
    · simp [get?, h, ih]

omit [LawfulBEq κ] in
/-- The entries in front come first. -/
theorem get?_append (key : κ) (entries entries' : Assoc κ α) :
    get? key (entries ++ entries') = (get? key entries).or (get? key entries') := by
  induction entries with
  | nil => rfl
  | cons e rest ih => cases hk : e.1 == key <;> simp [get?, hk, ih]

theorem erase_eq_filter (key : κ) (entries : Assoc κ α) :
    erase key entries = entries.filter fun e => e.1 != key := by
  induction entries with
  | nil => rfl
  | cons e rest ih =>
    by_cases h : e.1 = key
    · simp [erase, h, ih]
    · simp [erase, h, ih]

theorem erase_map (key : κ) (items : List ι) :
    erase key (items.map fun i => (k i, v i)) =
      (items.filter fun i => k i != key).map fun i => (k i, v i) := by
  rw [erase_eq_filter, List.filter_map]
  rfl

omit [LawfulBEq κ] in
/-- What is found is an entry under an equal key. -/
theorem exists_mem_of_get? {key : κ} {a : α} {entries : Assoc κ α}
    (h : get? key entries = some a) : ∃ k, (k, a) ∈ entries ∧ (k == key) = true := by
  induction entries with
  | nil => cases h
  | cons e rest ih =>
    rw [get?] at h
    split at h
    · next hk => exact ⟨e.1, Option.some.inj h ▸ .head _, hk⟩
    · obtain ⟨k, hmem, hk⟩ := ih h
      exact ⟨k, .tail _ hmem, hk⟩

theorem mem_keys_of_get? {key : κ} {a : α} {entries : Assoc κ α} (h : get? key entries = some a) :
    key ∈ entries.map (·.1) := by
  obtain ⟨k, hmem, hk⟩ := exists_mem_of_get? h
  exact List.mem_map.2 ⟨(k, a), hmem, eq_of_beq hk⟩

/-- The keys are those there were and the one that was set. -/
theorem mem_keys_set {key other : κ} {a : α} {entries : Assoc κ α} :
    other ∈ (set key a entries).map (·.1) ↔ other = key ∨ other ∈ entries.map (·.1) := by
  induction entries with
  | nil => simp [set]
  | cons e rest ih =>
    by_cases he : e.1 = key
    · simp [set, he]
    · simp only [set, beq_eq_false_iff_ne.mpr he, Bool.false_eq_true, ↓reduceIte, List.map_cons,
        List.mem_cons, ih, or_left_comm]

section Absent

omit [LawfulBEq κ]

variable {key : κ} {entries : Assoc κ α} (h : entries.get? key = none) (a : α)

include h

/-- A value that is set at a key without one comes last. -/
theorem set_of_get?_none : Assoc.set key a entries = entries ++ [(key, a)] := by
  induction entries with
  | nil => rfl
  | cons e rest ih =>
    cases hk : e.1 == key with
    | true => simp [get?, hk] at h
    | false =>
      simp only [get?, hk, Bool.false_eq_true, ↓reduceIte] at h
      simp [set, hk, ih h]

theorem get?_set_of_get?_none (other : κ) :
    get? other (Assoc.set key a entries) =
      (entries.get? other).or (if key == other then some a else none) := by
  rw [set_of_get?_none h, get?_append]
  rfl

end Absent

theorem set_of_not_mem {key : κ} {entries : Assoc κ α} (h : key ∉ entries.map (·.1)) (a : α) :
    set key a entries = entries ++ [(key, a)] :=
  set_of_get?_none (Option.eq_none_iff_forall_ne_some.2 fun _ hb => h (mem_keys_of_get? hb)) a

/-- No other item has the key, so that one entry changes. -/
theorem set_map {items : List ι} (hk : (items.map k).Nodup) {i : ι} (hi : i ∈ items) (a : α)
    (w : ι → α) (hw : ∀ j ∈ items, w j = if k j == k i then a else v j) :
    set (k i) a (items.map fun j => (k j, v j)) = items.map fun j => (k j, w j) := by
  induction items with
  | nil => cases hi
  | cons j rest ih =>
    rw [List.map_cons, List.nodup_cons] at hk
    have hwj := hw j (.head _)
    have hwrest := fun l hl => hw l (.tail _ hl)
    by_cases hj : k j = k i
    · -- Keys are distinct, so no entry behind the first match changes.
      have hrest : rest.map (fun l => (k l, w l)) = rest.map fun l => (k l, v l) := by
        refine List.map_congr_left fun l hl => ?_
        have hne : k l ≠ k i := fun h => hk.1 (List.mem_map.mpr ⟨l, hl, h.trans hj.symm⟩)
        rw [hwrest l hl, if_neg (by simpa using hne)]
      rw [if_pos (by simpa using hj)] at hwj
      simp only [List.map_cons, set, hj, beq_self_eq_true, ↓reduceIte, hrest, hwj]
    · rcases List.mem_cons.mp hi with rfl | hi
      · exact absurd rfl hj
      rw [if_neg (by simpa using hj)] at hwj
      simp only [List.map_cons, set, beq_eq_false_iff_ne.mpr hj, Bool.false_eq_true, ↓reduceIte,
        hwj, ih hk.2 hi hwrest]

end Bindery.Assoc
