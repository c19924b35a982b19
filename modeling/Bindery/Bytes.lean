/-!
# Byte strings

Byte strings as lists, with little-endian numbers and length-prefixed frames.

* `Bytes.ofNat`, `Bytes.toNat`: a number in a fixed count of bytes, lowest byte first.
* `Bytes.fit`: a byte string cut or padded with zeros to a given length.
* `Bytes.frame`, `Bytes.frames`: byte strings written one after the other, each behind its length.
* `Bytes.unframe`: reads a given number of frames back (`Bytes.unframe_frames`).
-/

namespace Bindery

/-- A string of bytes. -/
abbrev Bytes := List UInt8

namespace Bytes

/-- The lowest `count` bytes of a number, lowest first. -/
def ofNat : Nat → Nat → Bytes
  | 0, _ => []
  | count + 1, n => UInt8.ofNat (n % 256) :: ofNat count (n / 256)

/-- The number whose bytes these are, lowest first. -/
def toNat : Bytes → Nat
  | [] => 0
  | b :: rest => b.toNat + 256 * toNat rest

/-- The first `size` bytes, with zeros after the end. -/
def fit (size : Nat) (bytes : Bytes) : Bytes :=
  bytes.take size ++ List.replicate (size - bytes.length) 0

/-- A byte string behind its length in four bytes. -/
def frame (bytes : Bytes) : Bytes := ofNat 4 bytes.length ++ bytes

/-- The frames of several byte strings, one after the other. -/
def frames (items : List Bytes) : Bytes := items.flatMap frame

/-- The contents of the next `count` frames, none if one of the lengths is cut off. A frame that
ends early holds what there is. -/
def unframe : Nat → Bytes → Option (List Bytes)
  | 0, _ => some []
  | count + 1, bytes =>
    if bytes.length < 4 then none
    else
      let size := toNat (bytes.take 4)
      let rest := bytes.drop 4
      (unframe count (rest.drop size)).map (rest.take size :: ·)

@[simp] theorem length_ofNat (count n : Nat) : (ofNat count n).length = count := by
  induction count generalizing n with
  | zero => rfl
  | succ count ih => simp [ofNat, ih]

theorem toNat_ofNat (count n : Nat) : toNat (ofNat count n) = n % Nat.pow 256 count := by
  induction count generalizing n with
  | zero => simp [ofNat, toNat, Nat.mod_one]
  | succ count ih =>
    rw [ofNat, toNat, ih]
    change _ = n % (Nat.pow 256 count * 256)
    rw [Nat.mul_comm (Nat.pow 256 count), Nat.mod_mul]
    simp

theorem frames_cons (bytes : Bytes) (items : List Bytes) :
    frames (bytes :: items) = ofNat 4 bytes.length ++ bytes ++ frames items := rfl

/-- Frames are read back, whatever follows them, if each length fits into its four bytes. -/
theorem unframe_frames_append {items : List Bytes} (h : ∀ d ∈ items, d.length < Nat.pow 2 32)
    (rest : Bytes) : unframe items.length (frames items ++ rest) = some items := by
  induction items with
  | nil => rfl
  | cons d items ih =>
    have hsize : toNat (ofNat 4 d.length) = d.length := by
      rw [toNat_ofNat]
      exact Nat.mod_eq_of_lt (h d (.head _))
    have htail := ih fun e he => h e (.tail _ he)
    simp [unframe, frames_cons, List.append_assoc, hsize, htail]

theorem unframe_frames {items : List Bytes} (h : ∀ d ∈ items, d.length < Nat.pow 2 32) :
    unframe items.length (frames items) = some items := by
  simpa using unframe_frames_append h []

end Bytes
end Bindery
