import Bindery.Text.Encoding

/-!
# Texts read back

Bytes of UTF-8 are decoded to the text that they were made from.

* `decodeStep_one`, `_two`, `_three`, `_four`: one character, by the length of its encoding;
  `exists_decodeStep`: any character.
* `decodeLossy_utf8`: a whole text.
-/

namespace Bindery.Text

private theorem toNat_ofNat_of_lt {n : Nat} (h : n < 256) : (UInt8.ofNat n).toNat = n := by
  rw [UInt8.toNat_ofNat']
  exact Nat.mod_eq_of_lt h

private theorem sequenceLength?_ofNat {n : Nat} (h : n < 256) :
    sequenceLength? (UInt8.ofNat n) =
      if n < 0x80 then some 1 else if n < 0xC2 then none else if n < 0xE0 then some 2
      else if n < 0xF0 then some 3 else if n < 0xF5 then some 4 else none := by
  simp only [sequenceLength?, UInt8.lt_iff_toNat_lt, toNat_ofNat_of_lt h, UInt8.reduceToNat]

/-- Four leads restrict the second byte further, so that no code point has two encodings. -/
private theorem secondByteOk_ofNat {n m : Nat} (h : n < 256) (hm : 0x80 ≤ m ∧ m < 0xC0)
    (hE0 : n = 0xE0 → 0xA0 ≤ m) (hED : n = 0xED → m < 0xA0) (hF0 : n = 0xF0 → 0x90 ≤ m)
    (hF4 : n = 0xF4 → m < 0x90) : secondByteOk (UInt8.ofNat n) (UInt8.ofNat m) := by
  simp only [secondByteOk, ← UInt8.toNat_inj, UInt8.le_iff_toNat_le, UInt8.lt_iff_toNat_lt,
    toNat_ofNat_of_lt h, toNat_ofNat_of_lt (show m < 256 by omega), UInt8.reduceToNat]
  repeat' split
  all_goals simp only [Bool.and_eq_true, decide_eq_true_eq]; omega

private theorem isContinuation_ofNat (n : Nat) : isContinuation (UInt8.ofNat (n % 64 + 0x80)) := by
  simp only [isContinuation, UInt8.le_iff_toNat_le, UInt8.lt_iff_toNat_lt,
    toNat_ofNat_of_lt (show n % 64 + 0x80 < 256 by omega), UInt8.reduceToNat, Bool.and_eq_true,
    decide_eq_true_eq]
  omega

/-- A complete sequence is one character, whatever follows it. -/
private theorem decodeStep_append {lead b : UInt8} {tail : List UInt8} (rest : List UInt8)
    (hlead : sequenceLength? lead = some (tail.length + 2)) (hb : secondByteOk lead b)
    (htail : ∀ x ∈ tail, isContinuation x) :
    decodeStep lead (b :: tail ++ rest) =
      (some (Char.ofNat (codePoint lead (tail.length + 2) (b :: tail))), tail.length + 1) := by
  have hall : tail.takeWhile isContinuation = tail := by
    have : (tail ++ []).takeWhile isContinuation = tail ++ [] := List.takeWhile_append_of_pos htail
    rwa [List.append_nil] at this
  have hcont : continuations lead (tail.length + 2) (b :: tail ++ rest) = b :: tail := by
    simp only [continuations, List.cons_append, hb, if_true, Nat.add_sub_cancel, List.take_left,
      hall]
    rw [if_neg (by omega)]
  simp only [decodeStep, hlead, hcont, List.length_cons, if_true]

section OneCharacter

variable {v : Nat} (rest : List UInt8)

/-- A character of seven bits is its own byte. -/
private theorem decodeStep_one (h : v < 0x80) :
    decodeStep (UInt8.ofNat v) rest = (some (Char.ofNat v), 0) := by
  have hlead : sequenceLength? (UInt8.ofNat v) = some 1 := by
    rw [sequenceLength?_ofNat (by omega), if_pos h]
  have hnone : continuations (UInt8.ofNat v) 1 rest = [] := by cases rest <;> simp [continuations]
  simp [decodeStep, hlead, hnone, codePoint, toNat_ofNat_of_lt (show v < 256 by omega)]

private theorem decodeStep_two (h : 0x80 ≤ v) (h' : v < 0x800) :
    decodeStep (UInt8.ofNat (v / 64 % 32 + 0xC0)) ([UInt8.ofNat (v % 64 + 0x80)] ++ rest) =
      (some (Char.ofNat v), 1) := by
  have hlead : sequenceLength? (UInt8.ofNat (v / 64 % 32 + 0xC0)) = some 2 := by
    rw [sequenceLength?_ofNat (by omega), if_neg (by omega), if_neg (by omega), if_pos (by omega)]
  have hb : secondByteOk (UInt8.ofNat (v / 64 % 32 + 0xC0)) (UInt8.ofNat (v % 64 + 0x80)) := by
    apply secondByteOk_ofNat <;> omega
  have hpoint : (v / 64 % 32 + 0xC0) % 32 * 64 + (v % 64 + 0x80) % 64 = v := by omega
  rw [decodeStep_append rest hlead hb (by simp), codePoint]
  simp (disch := omega) only [List.foldl_cons, List.foldl_nil, toNat_ofNat_of_lt]
  exact congrArg (fun n => (some (Char.ofNat n), 1)) hpoint

/-- Surrogates are no characters, so three bytes never stand for one. -/
private theorem decodeStep_three (h : 0x800 ≤ v) (h' : v < 0x10000) (hs : v < 0xD800 ∨ 0xDFFF < v) :
    decodeStep (UInt8.ofNat (v / 4096 % 16 + 0xE0))
        ([UInt8.ofNat (v / 64 % 64 + 0x80), UInt8.ofNat (v % 64 + 0x80)] ++ rest) =
      (some (Char.ofNat v), 2) := by
  have hlead : sequenceLength? (UInt8.ofNat (v / 4096 % 16 + 0xE0)) = some 3 := by
    rw [sequenceLength?_ofNat (by omega), if_neg (by omega), if_neg (by omega), if_neg (by omega),
      if_pos (by omega)]
  have hb : secondByteOk (UInt8.ofNat (v / 4096 % 16 + 0xE0))
      (UInt8.ofNat (v / 64 % 64 + 0x80)) := by
    apply secondByteOk_ofNat <;> omega
  have htail : ∀ x ∈ [UInt8.ofNat (v % 64 + 0x80)], isContinuation x := by
    simp only [List.forall_mem_cons]
    exact ⟨isContinuation_ofNat v, by simp⟩
  have hpoint : ((v / 4096 % 16 + 0xE0) % 16 * 64 + (v / 64 % 64 + 0x80) % 64) * 64 +
      (v % 64 + 0x80) % 64 = v := by omega
  rw [decodeStep_append rest hlead hb htail, codePoint]
  simp (disch := omega) only [List.foldl_cons, List.foldl_nil, toNat_ofNat_of_lt]
  exact congrArg (fun n => (some (Char.ofNat n), 2)) hpoint

private theorem decodeStep_four (h : 0x10000 ≤ v) (h' : v < 0x110000) :
    decodeStep (UInt8.ofNat (v / 262144 % 8 + 0xF0))
        ([UInt8.ofNat (v / 4096 % 64 + 0x80), UInt8.ofNat (v / 64 % 64 + 0x80),
          UInt8.ofNat (v % 64 + 0x80)] ++ rest) =
      (some (Char.ofNat v), 3) := by
  have hlead : sequenceLength? (UInt8.ofNat (v / 262144 % 8 + 0xF0)) = some 4 := by
    rw [sequenceLength?_ofNat (by omega), if_neg (by omega), if_neg (by omega), if_neg (by omega),
      if_neg (by omega), if_pos (by omega)]
  have hb : secondByteOk (UInt8.ofNat (v / 262144 % 8 + 0xF0))
      (UInt8.ofNat (v / 4096 % 64 + 0x80)) := by
    apply secondByteOk_ofNat <;> omega
  have htail : ∀ x ∈ [UInt8.ofNat (v / 64 % 64 + 0x80), UInt8.ofNat (v % 64 + 0x80)],
      isContinuation x := by
    simp only [List.forall_mem_cons]
    exact ⟨isContinuation_ofNat (v / 64), isContinuation_ofNat v, by simp⟩
  have hpoint : (((v / 262144 % 8 + 0xF0) % 8 * 64 + (v / 4096 % 64 + 0x80) % 64) * 64 +
      (v / 64 % 64 + 0x80) % 64) * 64 + (v % 64 + 0x80) % 64 = v := by omega
  rw [decodeStep_append rest hlead hb htail, codePoint]
  simp (disch := omega) only [List.foldl_cons, List.foldl_nil, toNat_ofNat_of_lt]
  exact congrArg (fun n => (some (Char.ofNat n), 3)) hpoint

end OneCharacter

/-- The bytes of a character are one sequence, whatever follows them. -/
theorem exists_decodeStep (c : Char) :
    ∃ lead tail, String.utf8EncodeChar c = lead :: tail ∧
      ∀ rest, decodeStep lead (tail ++ rest) = (some c, tail.length) := by
  have hvalid : c.toNat < 0xD800 ∨ 0xDFFF < c.toNat ∧ c.toNat < 0x110000 := c.valid
  have hc : Char.ofNat c.toNat = c := Char.ofNat_toNat c
  have hv : c.val.toNat = c.toNat := rfl
  have of_step {lead : UInt8} {tail : List UInt8}
      (h : ∀ rest, decodeStep lead (tail ++ rest) = (some (Char.ofNat c.toNat), tail.length)) :
      ∃ lead' tail', lead :: tail = lead' :: tail' ∧
        ∀ rest, decodeStep lead' (tail' ++ rest) = (some c, tail'.length) :=
    ⟨lead, tail, rfl, fun rest => hc ▸ h rest⟩
  simp only [String.utf8EncodeChar, hv]
  -- The bounds are those by which characters are encoded in one to four bytes.
  by_cases h1 : c.toNat ≤ 0x7f
  · rw [if_pos h1]
    exact of_step fun _ => decodeStep_one _ (by omega)
  by_cases h2 : c.toNat ≤ 0x7ff
  · rw [if_neg h1, if_pos h2]
    exact of_step fun rest => decodeStep_two rest (by omega) (by omega)
  by_cases h3 : c.toNat ≤ 0xffff
  · rw [if_neg h1, if_neg h2, if_pos h3]
    exact of_step fun rest => decodeStep_three rest (by omega) (by omega) (by omega)
  · rw [if_neg h1, if_neg h2, if_neg h3]
    exact of_step fun rest => decodeStep_four rest (by omega) (by omega)

/-- The bytes of a character are read as that character, whatever follows them. -/
theorem decodeChars_utf8EncodeChar (c : Char) (rest : List UInt8) :
    decodeChars (String.utf8EncodeChar c ++ rest) = c :: decodeChars rest := by
  obtain ⟨lead, tail, hbytes, hstep⟩ := exists_decodeStep c
  rw [hbytes, List.cons_append, decodeChars, hstep]
  simp

/-- The bytes of several characters are read as these characters. -/
theorem decodeChars_flatMap (cs : List Char) :
    decodeChars (cs.flatMap String.utf8EncodeChar) = cs := by
  induction cs with
  | nil => rw [List.flatMap_nil, decodeChars]
  | cons c cs ih => rw [List.flatMap_cons, decodeChars_utf8EncodeChar, ih]

theorem toList_loop (b : ByteArray) (i : Nat) (seen : List UInt8) :
    ByteArray.toList.loop b i seen = seen.reverse ++ b.data.toList.drop i := by
  fun_induction ByteArray.toList.loop b i seen with
  | case1 i seen h ih =>
    have hi : i < b.data.toList.length := h
    have hget : b.get! i = b.data.toList[i] := getElem!_pos b.data i h
    rw [ih, List.drop_eq_getElem_cons hi, hget, List.reverse_cons, List.append_assoc]
    rfl
  | case2 i seen h =>
    have hi : b.data.toList.length ≤ i := Nat.le_of_not_lt h
    rw [List.drop_eq_nil_of_le hi, List.append_nil]

/-- The bytes of a text of characters. -/
theorem toList_toUTF8 (s : String) : s.toUTF8.toList = s.toList.flatMap String.utf8EncodeChar := by
  rw [ByteArray.toList, toList_loop, String.toUTF8_eq_toByteArray, ← String.utf8Encode_toList,
    List.utf8Encode, List.toList_data_toByteArray]
  rfl

/-- A text without surrogates has bytes. -/
theorem utf8?_ofPlain (s : String) : utf8? (ofPlain s) = some s.toUTF8.toList := by
  rw [utf8?, plain?_ofPlain, Option.map_some]

/-- A text is read back from its bytes. -/
theorem decodeLossy_utf8 (s : String) : decodeLossy s.toUTF8.toList = ofPlain s := by
  rw [decodeLossy, toList_toUTF8, decodeChars_flatMap, ofPlain]

end Bindery.Text
