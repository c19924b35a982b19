import Bindery.Guest.Memory
import Bindery.Proofs.Effect

/-!
# Linear memory at integer offsets

What the memory of a guest does with offsets and sizes that are integers, each operation in one
equation: it succeeds if the range lies in the memory, and otherwise nothing happens but a fault
that names the range.

* `LinearMemory.Contains`: a range lies in the memory.
* `LinearMemory.read_int`, `write_int`, `alloc_int`: access and staging space.
* `LinearMemory.staged`: the memory after space was given out and filled.
* `Scratch.runOn_alloc`, `runOn_putValue`: both kinds of staging are `staged` at the next multiple
  of eight (`alignUp_default`).
-/

namespace Bindery

/-- The fault of an access outside of the memory. -/
def Fault.outOfBounds (ptr size : Int) : Fault :=
  .ofKind .internal ("linear memory access out of bounds: " ++ toString ptr ++ "+" ++ toString size)

namespace LinearMemory

variable (m : LinearMemory)

/-! ## Alignment -/

/-- The lowest three bits taken off an integer. -/
theorem bitAnd_neg_eight (n : Int) : bitAnd n (-8) = 8 * (n / 8) := by
  -- In two's complement, -8 has all bits but the lowest three.
  change bitAnd n (.negSucc 7) = _
  cases n with
  | ofNat k =>
    have hand : k &&& 7 = k % 8 := Nat.and_two_pow_sub_one_eq_mod k 3
    simp only [bitAnd, hand, Int.ofNat_eq_natCast]
    omega
  | negSucc k =>
    have hlow : k % 8 ||| 7 = 7 :=
      (by decide : ∀ r < 8, r ||| 7 = 7) _ (Nat.mod_lt _ (by decide))
    have hor : k ||| 7 = 8 * (k / 8) + 7 := by
      calc k ||| 7 = (8 * (k / 8) + k % 8) ||| 7 := by rw [Nat.div_add_mod]
        _ = (8 * (k / 8) ||| k % 8) ||| 7 := by
          rw [Nat.two_pow_add_eq_or_of_lt (i := 3) (Nat.mod_lt _ (by decide))]
        _ = 8 * (k / 8) ||| 7 := by rw [Nat.or_assoc, hlow]
        _ = 8 * (k / 8) + 7 := (Nat.two_pow_add_eq_or_of_lt (i := 3) (by decide) _).symm
    simp only [bitAnd, hor]
    omega

/-- Space that is asked for without an alignment starts at the next multiple of eight. -/
theorem alignUp_default (n : Int) : alignUp n 8 = 8 * ((n + 7) / 8) := by
  rw [alignUp, bitAnd_neg_eight]
  congr 2
  omega

theorem le_alignUp (n : Int) : n ≤ alignUp n 8 := by rw [alignUp_default]; omega

theorem dvd_alignUp (n : Int) : 8 ∣ alignUp n 8 := ⟨_, alignUp_default n⟩

/-! ## Access -/

/-- A range lies in the memory. -/
def Contains (ptr size : Int) : Prop := 0 ≤ ptr ∧ 0 ≤ size ∧ ptr + size ≤ m.size

instance (ptr size : Int) : Decidable (m.Contains ptr size) := by
  unfold Contains; infer_instance

/-- A range is in bounds just if it lies in the memory. -/
theorem inBounds_int (ptr size : Int) :
    m.inBounds (.int ptr) (.int size) = .ok (decide (m.Contains ptr size)) := by
  simp only [inBounds, Value.isNegative, Value.less_int, Value.plus_int, bind, Except.bind, pure,
    Except.pure, Contains]
  by_cases hp : ptr < 0
  · simp [hp, show ¬0 ≤ ptr by omega]
  by_cases hs : size < 0
  · simp [hp, hs, show ¬0 ≤ size by omega]
  · have hptr : 0 ≤ ptr := Int.not_lt.mp hp
    have hsize : 0 ≤ size := Int.not_lt.mp hs
    have hend : (!decide ((m.size : Int) < ptr + size)) = decide (ptr + size ≤ m.size) := by
      rw [← decide_not, decide_eq_decide, Int.not_lt]
    simp only [hp, hs, hptr, hsize, hend, decide_false, Bool.false_eq_true, if_false, true_and]

theorem checkBounds_int (ptr size : Int) :
    m.checkBounds (.int ptr) (.int size) =
      if m.Contains ptr size then .ok () else .error (.outOfBounds ptr size) := by
  rw [checkBounds, inBounds_int]
  by_cases h : m.Contains ptr size <;>
    simp [h, bind, Except.bind, pure, Except.pure, throw, throwThe, MonadExceptOf.throw,
      Value.spoken, Value.display, Fault.outOfBounds, String.append_assoc]

theorem read_int (ptr : Int) (size : Nat) :
    m.read (.int ptr) (.int size) =
      if m.Contains ptr size then .ok (m.cells.read ptr size)
      else .error (.outOfBounds ptr size) := by
  rw [read, checkBounds_int]
  split <;> rfl

theorem write_int (ptr : Int) (data : Bytes) :
    m.write (.int ptr) data =
      if m.Contains ptr data.length then .ok { m with cells := m.cells.write ptr data }
      else .error (.outOfBounds ptr data.length) := by
  rw [write, checkBounds_int]
  split <;> rfl

/-- Space for a size, above a top that is an integer. -/
theorem alloc_int {top : Int} (h : m.top = .int top) (size : Int) :
    m.alloc (.int size) =
      if m.Contains (alignUp top 8) size then
        .ok (.int (alignUp top 8), { m with top := .int (alignUp top 8 + size) })
      else .error (.outOfBounds (alignUp top 8) size) := by
  rw [alloc, h]
  simp only [defaultAlignment, Value.index, Value.index?, bind, Except.bind, checkBounds_int,
    Value.plus_int, pure, Except.pure]
  by_cases hc : m.Contains (alignUp top 8) size <;> simp [hc]

/-! ## Staging -/

/-- The number of bytes that are set aside for a size. -/
def room (size : Nat) : Nat := max size 1

/-- The memory after space at an offset was set aside and filled. -/
def staged (ptr : Int) (data : Bytes) : LinearMemory :=
  { m with top := .int (ptr + room data.length), cells := m.cells.write ptr data }

theorem Contains.of_room {m : LinearMemory} {ptr : Int} {size : Nat}
    (h : m.Contains ptr (room size)) : m.Contains ptr size := by
  obtain ⟨h0, -, hend⟩ := h
  simp only [room] at hend
  exact ⟨h0, by omega, by omega⟩

end LinearMemory

namespace Scratch

open LinearMemory

variable {m : LinearMemory} {top : Int}

/-- An operation on the memory as a whole. -/
theorem runOn_update {α : Type} (f : LinearMemory → Except Fault (α × LinearMemory)) :
    (update .whole f).runOn m =
      match f m with
      | .ok (a, after) => (.ok a, after)
      | .error e => (.error e, m) := by
  simp only [update, Act.runOn_bind, Part.runOn_read, Part.whole_get, Act.runOn_liftM]
  cases f m <;> rfl

/-- Writing fills a range that lies in the memory. -/
theorem runOn_write (ptr : Int) (data : Bytes) :
    (write .whole (.int ptr) data).runOn m =
      if m.Contains ptr data.length then (.ok (), { m with cells := m.cells.write ptr data })
      else (.error (.outOfBounds ptr data.length), m) := by
  simp only [write, runOn_update, write_int]
  by_cases hc : m.Contains ptr data.length <;> simp [hc, bind, Except.bind, pure, Except.pure]

/-- Space for some bytes above a top that is an integer. -/
theorem runOn_reserve (h : m.top = .int top) (size : Nat) :
    (reserve .whole (.int size)).runOn m =
      if m.Contains (alignUp top 8) (room size) then
        (.ok (.int (alignUp top 8)), { m with top := .int (alignUp top 8 + room size) })
      else (.error (.outOfBounds (alignUp top 8) (room size)), m) := by
  have hroom : (if (size : Int) < 1 then Value.int 1 else .int size) = .int (room size) := by
    simp only [room]
    split <;> congr 1 <;> omega
  simp only [reserve, Act.runOn_bind, Act.runOn_liftM, Value.less_int, decide_eq_true_eq, hroom,
    runOn_update, alloc_int m h]
  by_cases hc : m.Contains (alignUp top 8) (room size) <;> simp [hc]

/-- Space filled with zeros. -/
theorem runOn_alloc (h : m.top = .int top) (size : Nat) :
    (alloc .whole (.int size)).runOn m =
      if m.Contains (alignUp top 8) (room size) then
        (.ok (.int (alignUp top 8)), m.staged (alignUp top 8) (List.replicate size 0))
      else (.error (.outOfBounds (alignUp top 8) (room size)), m) := by
  simp only [alloc, Act.runOn_bind, runOn_reserve h]
  by_cases hc : m.Contains (alignUp top 8) (room size)
  · have hsize : size ≤ Value.memoryLimit := by
      have := m.size_le
      obtain ⟨h0, -, hend⟩ := hc.of_room
      omega
    have hzeros : Value.zeroBytes size = .ok (List.replicate size 0) := by
      simp [Value.zeroBytes, Value.sizeOfInt_of_le hsize, Functor.map, Except.map]
    have hwrite : Contains { m with top := .int (alignUp top 8 + room size) } (alignUp top 8)
        size := hc.of_room
    simp only [if_pos hc, Value.index, Value.index?, Act.runOn_liftM, hzeros, runOn_write,
      List.length_replicate, if_pos hwrite, Act.runOn_pure, staged]
  · simp only [if_neg hc]

/-- Space filled with the bytes of a byte string. -/
theorem runOn_putValue (h : m.top = .int top) (data : Bytes) :
    (putValue .whole (.bytes data)).runOn m =
      if m.Contains (alignUp top 8) (room data.length) then
        (.ok (.list [.int (alignUp top 8), .int data.length]), m.staged (alignUp top 8) data)
      else (.error (.outOfBounds (alignUp top 8) (room data.length)), m) := by
  have hsize : sizeOf (.bytes data) = .ok (.int data.length) := rfl
  simp only [putValue, Act.runOn_bind, Act.runOn_liftM, hsize, runOn_reserve h]
  by_cases hc : m.Contains (alignUp top 8) (room data.length)
  · have hwrite : Contains { m with top := .int (alignUp top 8 + room data.length) }
        (alignUp top 8) data.length := hc.of_room
    have hindex (s : LinearMemory) : (discard (liftM (Value.int (alignUp top 8)).index) :
        Act LinearMemory Unit).runOn s = (.ok (), s) := rfl
    simp only [if_pos hc, writeValue, Act.runOn_bind, Part.runOn_read, Part.whole_get, hsize,
      Act.runOn_liftM, checkBounds_int, if_pos hwrite, hindex, Value.plainBytes, runOn_write,
      Act.runOn_pure, staged]
  · simp only [if_neg hc]

/-- A scope runs its body and takes back the space, which does not fail. -/
theorem runOn_withScratch {σ α : Type} (memory : Part σ LinearMemory) {body : Act σ α} {s t : σ}
    {outcome : Except Fault α} (h : body.runOn s = (outcome, t)) :
    (withScratch memory body).runOn s =
      (outcome, memory.set ((memory.get t).release (memory.get s).top) t) := by
  simp only [withScratch, Act.runOn_bind, Part.runOn_read, Act.ensuring, Act.runOn_ofRun, h,
    Part.runOn_modify]

end Scratch
end Bindery
