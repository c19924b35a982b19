import Bindery.Bytes

/-!
# Memory cells

Memory as a map from addresses to bytes, without bounds.

* `Cells.read`, `Cells.write`: the bytes from an address on.
* `Cells.read_write_self`, `Cells.read_write_of_disjoint`: a read sees the last write to its range
  and none beside it.
-/

namespace Bindery

/-- Memory, as the byte at every address. -/
structure Cells where
  byte : Int → UInt8

namespace Cells

/-- Memory full of zeros. -/
def zero : Cells := ⟨fun _ => 0⟩

/-- The `size` bytes from an address on. -/
def read (cells : Cells) (address : Int) (size : Nat) : Bytes :=
  (List.range size).map fun i : Nat => cells.byte (address + i)

/-- The memory with the bytes of `data` from an address on. -/
def write (cells : Cells) (address : Int) (data : Bytes) : Cells :=
  let bytes := data.toArray
  ⟨fun a =>
    if address ≤ a ∧ a < address + bytes.size then bytes.getD (a - address).toNat 0
    else cells.byte a⟩

@[simp] theorem length_read (cells : Cells) (address : Int) (size : Nat) :
    (cells.read address size).length = size := by simp [read]

theorem write_apply_of_not_mem {cells : Cells} {address a : Int} {data : Bytes}
    (h : a < address ∨ address + data.length ≤ a) :
    (cells.write address data).byte a = cells.byte a := by
  simp only [write, List.size_toArray]
  rw [if_neg (by omega)]

theorem write_apply {cells : Cells} {address : Int} {data : Bytes} {i : Nat} (h : i < data.length) :
    (cells.write address data).byte (address + i) = data[i] := by
  simp only [write, List.size_toArray]
  rw [if_pos (by omega), show address + i - address = (i : Int) by omega]
  simp [Array.getD, h]

theorem write_nil (cells : Cells) (address : Int) : cells.write address [] = cells := by
  have h (a : Int) : (cells.write address []).byte a = cells.byte a :=
    write_apply_of_not_mem (by simp only [List.length_nil]; omega)
  exact congrArg Cells.mk (funext h)

/-- What was written is what is read. -/
theorem read_write_self (cells : Cells) (address : Int) (data : Bytes) :
    (cells.write address data).read address data.length = data := by
  apply List.ext_getElem
  · simp
  · intro i h _
    simp only [read, List.getElem_map, List.getElem_range]
    exact write_apply (by simpa using h)

/-- A write does not show in a range beside it. -/
theorem read_write_of_disjoint {cells : Cells} {address a : Int} {data : Bytes} {size : Nat}
    (h : a + size ≤ address ∨ address + data.length ≤ a) :
    (cells.write address data).read a size = cells.read a size := by
  apply List.map_congr_left
  intro i hi
  have hi : i < size := List.mem_range.1 hi
  exact write_apply_of_not_mem (by omega)

end Cells
end Bindery
