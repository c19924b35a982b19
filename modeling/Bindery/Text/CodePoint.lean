/-!
# Code points

A text is a sequence of code points: characters, and halves of surrogate pairs, which an escape can
write though they are no characters. Its string spells a half by a mark and a private character,
and the character that is the mark by two marks, so texts are equal just when their strings are.

* `Text.points`, `Text.ofPoints`: the code points of a text, and the text of code points.
* `Text.plain?`, `Text.ofPlain`: the characters of a text without halves, and back.
* `Text.size`, `Text.take`, `Text.singles`: counting and cutting by code points.
* `Text.le`: the order of texts by the numbers of their code points.
* `Text.points_ofPoints`: no code point is lost.
-/

namespace Bindery

/-- A character, or half of a surrogate pair. -/
inductive CodePoint where
  | char (c : Char)
  /-- The half with the number `0xD800 + k`. -/
  | half (k : Fin 0x800)
deriving DecidableEq, Repr

namespace CodePoint

/-- The number of a code point. -/
def number : CodePoint → Nat
  | char c => c.toNat
  | half k => 0xD800 + k

/-- The code point of a number below `0x110000`. -/
def ofNumber (n : Nat) : CodePoint :=
  if h : 0xD800 ≤ n ∧ n < 0xE000 then half ⟨n - 0xD800, by omega⟩ else char (Char.ofNat n)

/-- The character of a code point that is one. -/
def char? : CodePoint → Option Char
  | char c => some c
  | half _ => none

/-- The character in front of the one that spells a half, and in front of itself. -/
def mark : Char := Char.ofNat 0x10FFFF

/-- The private character that spells the half `k` after the mark. -/
def ofHalf (k : Fin 0x800) : Char := Char.ofNat (0x10D800 + k)

/-- The characters that spell a code point. -/
def spelling : CodePoint → List Char
  | char c => if c = mark then [mark, mark] else [c]
  | half k => [mark, ofHalf k]

/-- The code point that a character spells after the mark. -/
def afterMark (c : Char) : CodePoint :=
  if h : 0x10D800 ≤ c.toNat ∧ c.toNat < 0x10E000 then half ⟨c.toNat - 0x10D800, by omega⟩
  else char c

/-- The code points read so far, in reverse, and whether the last character was a mark that belongs
to the next one. -/
structure Reading where
  done : List CodePoint := []
  marked : Bool := false

/-- Reads one more character. -/
def Reading.next (r : Reading) (c : Char) : Reading :=
  if r.marked then ⟨afterMark c :: r.done, false⟩
  else if c = mark then ⟨r.done, true⟩
  else ⟨char c :: r.done, false⟩

/-- The code points that characters spell. -/
def read (s : List Char) : List CodePoint := (s.foldl Reading.next {}).done.reverse

theorem toNat_ofHalf (k : Fin 0x800) : (ofHalf k).toNat = 0x10D800 + k := by
  have hv : (0x10D800 + k.val).isValidChar := by
    simp only [Nat.isValidChar]; omega
  rw [ofHalf, Char.ofNat, dif_pos hv]
  rfl

theorem afterMark_ofHalf (k : Fin 0x800) : afterMark (ofHalf k) = half k := by
  have h := toNat_ofHalf k
  have hk : 0x10D800 ≤ (ofHalf k).toNat ∧ (ofHalf k).toNat < 0x10E000 := by omega
  rw [afterMark, dif_pos hk]
  simp [h]

theorem foldl_next_spelling (done : List CodePoint) (p : CodePoint) :
    p.spelling.foldl Reading.next ⟨done, false⟩ = ⟨p :: done, false⟩ := by
  cases p with
  | char c =>
    by_cases hc : c = mark
    · have hm : afterMark mark = char mark := by decide
      simp [spelling, hc, Reading.next, hm]
    · simp [spelling, hc, Reading.next]
  | half k => simp [spelling, Reading.next, afterMark_ofHalf]

theorem foldl_next_spellings (ps done : List CodePoint) :
    (ps.flatMap spelling).foldl Reading.next ⟨done, false⟩ = ⟨ps.reverse ++ done, false⟩ := by
  induction ps generalizing done with
  | nil => rfl
  | cons p ps ih =>
    rw [List.flatMap_cons, List.foldl_append, foldl_next_spelling, ih]
    simp

theorem read_flatMap_spelling (ps : List CodePoint) : read (ps.flatMap spelling) = ps := by
  rw [read, foldl_next_spellings]
  simp

end CodePoint

namespace Text

/-- The code points of a text. -/
def points (s : String) : List CodePoint := CodePoint.read s.toList

/-- The text of some code points. -/
def ofPoints (ps : List CodePoint) : String := String.ofList (ps.flatMap CodePoint.spelling)

/-- The characters of a text that holds no halves of surrogate pairs. -/
def plain? (s : String) : Option String :=
  let ps := points s
  if ps.all fun p => p.char?.isSome then some (String.ofList (ps.filterMap CodePoint.char?))
  else none

/-- The text of some characters. -/
def ofPlain (s : String) : String := ofPoints (s.toList.map .char)

/-- Whether a text holds no half of a surrogate pair. -/
def isPlain (s : String) : Bool := (plain? s).isSome

/-- Number of code points of a text. -/
def size (s : String) : Nat := (points s).length

/-- The first code points of a text. -/
def take (s : String) (n : Nat) : String := ofPoints ((points s).take n)

/-- The code points of a text, each as a text of its own. -/
def singles (s : String) : List String := (points s).map fun p => ofPoints [p]

/-- The numbers of the code points of a text. -/
def numbers (s : String) : List Nat := (points s).map CodePoint.number

/-- Whether a text comes before another one. Of the strings that read as the same code points only
one spells a text; its characters put it apart from the others. -/
def lt (a b : String) : Bool :=
  numbers a < numbers b || numbers a == numbers b && decide (a < b)

/-- Whether a text does not come after another one. -/
def le (a b : String) : Bool := !lt b a

@[simp] theorem points_ofPoints (ps : List CodePoint) : points (ofPoints ps) = ps := by
  simp [points, ofPoints, CodePoint.read_flatMap_spelling]

theorem plain?_ofPlain (s : String) : plain? (ofPlain s) = some s := by
  simp [plain?, ofPlain, CodePoint.char?, Function.comp_def]

end Text
end Bindery
