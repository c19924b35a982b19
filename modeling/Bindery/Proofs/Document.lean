import Bindery.Document.Convert
import Bindery.Proofs.Association

/-!
# Parts of documents

What a document has at its keys and for its members.

* `Document.isTable`, `get?_of_isEmpty`, `text?_eq_some_iff`, `mapM_text?_iff`: documents of one
  form.
* `Document.isFinite`: every number in the document is finite, hence (`isFinite_getD`,
  `isFinite_of_members?`) every number in a part of it.
* `Document.depth_getD_lt`, `depth_le_of_members?`: parts nest less deeply.
-/

namespace Bindery

namespace Document

/-- Whether a document has entries to ask for. -/
def isTable : Document → Bool
  | table _ => true
  | _ => false

theorem isTable_iff {d : Document} : d.isTable = true ↔ ∃ entries, d = table entries := by
  cases d <;> simp [isTable]

theorem get?_of_getD_ne_null {d : Document} {key : String} (h : d.getD key ≠ null) :
    d.get? key = some (d.getD key) := by
  unfold getD at h ⊢
  cases hv : d.get? key with
  | none => exact absurd (by rw [hv]; rfl) h
  | some v => rfl

theorem get?_of_isEmpty {d : Document} (h : d.isEmpty = true) (key : String) :
    d.get? key = none := by
  cases d with
  | table entries =>
    obtain rfl := List.isEmpty_iff.1 h
    rfl
  | _ => rfl

theorem text?_eq_some_iff {d : Document} {s : String} : d.text? = some s ↔ d = text s := by
  cases d <;> simp [text?]

/-- A list has the texts of its members if all of them are texts. -/
theorem mapM_text?_iff {items : List Document} {ts : List String} :
    items.mapM text? = some ts ↔ items = ts.map text := by
  induction items generalizing ts with
  | nil => cases ts <;> simp
  | cons d rest ih =>
    simp only [List.mapM_cons, Option.bind_eq_bind, Option.bind_eq_some_iff, Option.pure_def,
      Option.some.injEq, text?_eq_some_iff, ih]
    constructor
    · rintro ⟨s, rfl, rest, rfl, rfl⟩
      rfl
    · cases ts with
      | nil => exact nofun
      | cons s ts =>
        intro h
        obtain ⟨rfl, rfl⟩ := List.cons.inj h
        exact ⟨s, rfl, ts, rfl, rfl⟩

/-- The members of a list are its items; those of any other collection are texts. -/
theorem members?_cases {d : Document} {items : List Document} (h : d.members? = some items) :
    d = list items ∨ ∀ m ∈ items, ∃ s, m = text s := by
  cases d with
  | list items' => exact .inl (congrArg list (Option.some.inj h))
  | text s =>
    obtain rfl := Option.some.inj h
    exact .inr (List.forall_mem_map.2 fun t _ => ⟨t, rfl⟩)
  | table entries =>
    obtain rfl := Option.some.inj h
    exact .inr (List.forall_mem_map.2 fun e _ => ⟨e.1, rfl⟩)
  | _ => cases h

/-! ## Finite numbers -/

mutual

/-- Whether every number in a document is finite. -/
def isFinite : Document → Bool
  | float d => d.isFinite
  | list items => areFinite items
  | table entries => haveFinite entries
  | _ => true

/-- Whether every number in list items is finite. -/
def areFinite : List Document → Bool
  | [] => true
  | d :: rest => isFinite d && areFinite rest

/-- Whether every number in table entries is finite. -/
def haveFinite : List (String × Document) → Bool
  | [] => true
  | e :: rest => isFinite e.2 && haveFinite rest

end

/-- Items have no infinite number just if none of them has one. -/
private theorem areFinite_iff {items : List Document} :
    areFinite items = true ↔ ∀ d ∈ items, d.isFinite = true := by
  induction items with
  | nil => simp [areFinite]
  | cons d rest ih => simp [areFinite, ih]

private theorem haveFinite_iff {entries : List (String × Document)} :
    haveFinite entries = true ↔ ∀ e ∈ entries, e.2.isFinite = true := by
  induction entries with
  | nil => simp [haveFinite]
  | cons e rest ih => rw [haveFinite, Bool.and_eq_true, ih, List.forall_mem_cons]

theorem isFinite_of_get? {d v : Document} {key : String} (hd : d.isFinite = true)
    (h : d.get? key = some v) : v.isFinite = true := by
  cases d with
  | table entries =>
    obtain ⟨k, he, -⟩ := Assoc.exists_mem_of_get? h
    rw [isFinite] at hd
    exact haveFinite_iff.1 hd _ he
  | _ => cases h

/-- A part of a document has no number that the document has not. -/
theorem isFinite_getD {d : Document} (hd : d.isFinite = true) (key : String) :
    (d.getD key).isFinite = true := by
  unfold getD
  cases h : d.get? key with
  | none => rfl
  | some v => exact isFinite_of_get? hd h

/-- Neither has a member, since one that is no item is a text. -/
theorem isFinite_of_members? {d : Document} {items : List Document} (hd : d.isFinite = true)
    (h : d.members? = some items) : ∀ m ∈ items, m.isFinite = true := by
  intro m hm
  obtain rfl | htexts := members?_cases h
  · rw [isFinite] at hd
    exact areFinite_iff.1 hd m hm
  · obtain ⟨s, rfl⟩ := htexts m hm
    rfl

/-- Only an infinite number is too large for an integer. -/
theorem toInt_ne_infinite {d : Document} (hd : d.isFinite = true) :
    d.toInt ≠ .error .infinite := by
  cases d with
  | float d =>
    have hinf : d.isInfinite = false := by
      simp only [isFinite, Number.Double.isFinite, decide_eq_true_eq] at hd
      simpa [Number.Double.isInfinite] using Nat.ne_of_lt hd
    rw [toInt, hinf]
    split <;> simp
  | text s =>
    rw [toInt]
    split <;> simp
  | _ => simp [toInt]

/-! ## Depth -/

private theorem depthOfItems_le_iff {items : List Document} {n : Nat} :
    depthOfItems items ≤ n ↔ ∀ d ∈ items, d.depth ≤ n := by
  induction items with
  | nil => simp [depthOfItems]
  | cons d rest ih => rw [depthOfItems, Nat.max_le, ih, List.forall_mem_cons]

private theorem depthOfEntries_le_iff {entries : List (String × Document)} {n : Nat} :
    depthOfEntries entries ≤ n ↔ ∀ e ∈ entries, e.2.depth ≤ n := by
  induction entries with
  | nil => simp [depthOfEntries]
  | cons e rest ih => rw [depthOfEntries, Nat.max_le, ih, List.forall_mem_cons]

theorem depth_pos (d : Document) : 0 < d.depth := by
  cases d <;> simp [depth]

/-- What stands at a key is less deep than the table. -/
theorem depth_lt_of_get? {d v : Document} {key : String} (h : d.get? key = some v) :
    v.depth < d.depth := by
  cases d with
  | table entries =>
    obtain ⟨k, he, -⟩ := Assoc.exists_mem_of_get? h
    rw [depth, Nat.lt_succ_iff]
    exact depthOfEntries_le_iff.1 (Nat.le_refl _) _ he
  | _ => cases h

/-- A table with an entry is deeper than what it has at any key, be it null. -/
theorem depth_getD_lt {d v : Document} {key : String} (h : d.get? key = some v) (other : String) :
    (d.getD other).depth < d.depth := by
  unfold getD
  cases ho : d.get? other with
  | none => exact Nat.lt_of_le_of_lt v.depth_pos (depth_lt_of_get? h)
  | some w => exact depth_lt_of_get? ho

/-- Members are no deeper than the whole, and a text of one character is as deep as its
characters. -/
theorem depth_le_of_members? {d : Document} {items : List Document} (h : d.members? = some items) :
    ∀ m ∈ items, m.depth ≤ d.depth := by
  intro m hm
  obtain rfl | htexts := members?_cases h
  · rw [depth]
    exact Nat.le_succ_of_le (depthOfItems_le_iff.1 (Nat.le_refl _) m hm)
  · obtain ⟨s, rfl⟩ := htexts m hm
    exact d.depth_pos

end Document

end Bindery
