/-!
# Associations

Lists of keys with values, in the order in which the keys came. Keys are compared by `==`, so they
are distinct as long as entries are only added by `set`.

* `Assoc.get?`: the value at a key.
* `Assoc.set`: the association with a value at a key; a key that is there keeps its place.
* `Assoc.erase`: the association without a key.
-/

namespace Bindery

/-- Keys with values. -/
abbrev Assoc (κ α : Type) := List (κ × α)

namespace Assoc

variable {κ α : Type} [BEq κ]

/-- The value at a key. -/
def get? (key : κ) : Assoc κ α → Option α
  | [] => none
  | (k, a) :: rest => if k == key then some a else get? key rest

/-- The association with a value at a key. -/
def set (key : κ) (value : α) : Assoc κ α → Assoc κ α
  | [] => [(key, value)]
  | (k, a) :: rest => if k == key then (k, value) :: rest else (k, a) :: set key value rest

/-- The association without a key. -/
def erase (key : κ) : Assoc κ α → Assoc κ α
  | [] => []
  | (k, a) :: rest => if k == key then erase key rest else (k, a) :: erase key rest

/-- A value that was set is found again if its key equals itself. -/
theorem get?_set_of_beq {key : κ} (h : (key == key) = true) (value : α) (entries : Assoc κ α) :
    get? key (set key value entries) = some value := by
  induction entries with
  | nil => simp [set, get?, h]
  | cons e rest ih => cases hk : e.1 == key <;> simp [set, get?, hk, ih]

section Lawful

variable [LawfulBEq κ]

@[simp] theorem get?_set_self (key : κ) (value : α) (entries : Assoc κ α) :
    get? key (set key value entries) = some value := get?_set_of_beq BEq.rfl value entries

theorem get?_set_of_ne {key other : κ} (h : other ≠ key) (value : α) (entries : Assoc κ α) :
    get? other (set key value entries) = get? other entries := by
  induction entries with
  | nil => simp [set, get?, h.symm]
  | cons e rest ih =>
    by_cases hk : e.1 = key
    · simp [set, get?, hk, h.symm]
    · simp [set, get?, hk, ih]

theorem get?_erase_of_ne {key other : κ} (h : other ≠ key) (entries : Assoc κ α) :
    get? other (erase key entries) = get? other entries := by
  induction entries with
  | nil => rfl
  | cons e rest ih =>
    by_cases hk : e.1 = key
    · simp [erase, get?, hk, ih, h.symm]
    · simp [erase, get?, hk, ih]

end Lawful

end Assoc
end Bindery
