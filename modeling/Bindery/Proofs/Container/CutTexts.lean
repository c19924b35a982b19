import Bindery.Container.Codec
import Bindery.Proofs.Text.Utf8

/-!
# Texts that are cut off

The bytes of a text that is too long for its buffer end anywhere, also within its length or within a
character. What is read then are the characters that are still complete, and one replacement
character for the one that the cut goes through.

* `Text.decodeStep_take`: what is there of a sequence that is cut off is one ill-formed part.
* `Text.LongestWithin`, `Text.Splits`: the longest start of a text within a number of bytes, and
  cuts that go through a character.
* `Text.exists_longestWithin`: what is read of the first bytes of a text.
* `cut_texts_read_back`: the same behind the length of the text.
-/

namespace Bindery

namespace Text

/-! ## Sequences that are cut off -/

/-- Of what is left of a byte string, as much continues the sequence as before. -/
private theorem continuations_take (lead : UInt8) (n i : Nat) (rest : List UInt8) :
    continuations lead n (rest.take i) = (continuations lead n rest).take i := by
  cases rest with
  | nil => simp [continuations]
  | cons b more =>
    cases i with
    | zero => rfl
    | succ i =>
      simp only [List.take_succ_cons, continuations]
      split
      · rfl
      split
      · rw [List.take_succ_cons, List.take_takeWhile, List.take_take, List.take_take,
          Nat.min_comm]
      · rfl

/-- What is there of a sequence that is cut off is one ill-formed part. -/
theorem decodeStep_take {lead : UInt8} {rest : List UInt8} {c : Char} {size i : Nat}
    (h : decodeStep lead rest = (some c, size)) (hi : i < size) :
    decodeStep lead (rest.take i) = (none, i) := by
  unfold decodeStep at h ⊢
  cases hlead : sequenceLength? lead with
  | none => simp [hlead] at h
  | some n =>
    simp only [hlead] at h ⊢
    split at h
    · next hall =>
      obtain ⟨-, rfl⟩ := Prod.mk.inj h
      have hlength : ((continuations lead n rest).take i).length = i :=
        List.length_take_of_le (Nat.le_of_lt hi)
      rw [continuations_take, hlength, if_neg (by omega)]
    · cases h

/-- A cut through a character leaves one replacement character. -/
theorem decodeChars_take_utf8EncodeChar {c : Char} {i : Nat} (hpos : 0 < i)
    (hi : i < c.utf8Size) : decodeChars ((String.utf8EncodeChar c).take i) = [replacement] := by
  obtain ⟨lead, tail, hbytes, hstep⟩ := exists_decodeStep c
  obtain ⟨i, rfl⟩ : ∃ j, i = j + 1 := ⟨i - 1, by omega⟩
  have hsize : tail.length + 1 = c.utf8Size := by
    rw [← String.length_utf8EncodeChar, hbytes, List.length_cons]
  have hnone : decodeStep lead (tail.take i) = (none, i) :=
    decodeStep_take (by simpa using hstep []) (by omega)
  have hrest : (tail.take i).drop i = [] := List.drop_eq_nil_of_le (List.length_take_le _ _)
  rw [hbytes, List.take_succ_cons, decodeChars, hnone]
  simp only [hrest, decodeChars, Option.getD_none]

/-! ## Starts of a text -/

/-- The bytes of some characters. -/
def charBytes (cs : List Char) : List UInt8 := cs.flatMap String.utf8EncodeChar

private theorem charBytes_cons (c : Char) (cs : List Char) :
    charBytes (c :: cs) = String.utf8EncodeChar c ++ charBytes cs := rfl

private theorem length_charBytes_cons (c : Char) (cs : List Char) :
    (charBytes (c :: cs)).length = c.utf8Size + (charBytes cs).length := by
  rw [charBytes_cons, List.length_append, String.length_utf8EncodeChar]

/-- The longest start of a text whose bytes are not more than `room`. -/
structure LongestWithin (room : Nat) (cs start : List Char) : Prop where
  isStart : start <+: cs
  fits : (charBytes start).length ≤ room
  longest {p : List Char} : p <+: cs → (charBytes p).length ≤ room → p <+: start

/-- A cut behind `room` bytes goes through a character of a text. -/
def Splits (room : Nat) (cs : List Char) : Prop :=
  ∃ p c q, cs = p ++ c :: q ∧ (charBytes p).length < room ∧
    room < (charBytes p).length + c.utf8Size

variable {room : Nat} {c : Char} {cs start : List Char}

namespace LongestWithin

theorem nil : LongestWithin room [] [] :=
  ⟨List.prefix_rfl, Nat.zero_le _, fun h _ => h⟩

/-- A character that fits prolongs the longest start of the rest. -/
theorem cons (h : LongestWithin room cs start) :
    LongestWithin (c.utf8Size + room) (c :: cs) (c :: start) where
  isStart := List.cons_prefix_cons.2 ⟨rfl, h.isStart⟩
  fits := by
    rw [length_charBytes_cons]
    exact Nat.add_le_add_left h.fits _
  longest {p} hp hsize := by
    obtain rfl | ⟨p, rfl, htail⟩ := List.prefix_cons_iff.1 hp
    · exact List.nil_prefix
    · rw [length_charBytes_cons] at hsize
      exact List.cons_prefix_cons.2 ⟨rfl, h.longest htail (by omega)⟩

/-- Nothing fits where the first character does not. -/
theorem of_lt (h : room < c.utf8Size) : LongestWithin room (c :: cs) [] where
  isStart := List.nil_prefix
  fits := Nat.zero_le _
  longest {p} hp hsize := by
    obtain rfl | ⟨p, rfl, -⟩ := List.prefix_cons_iff.1 hp
    · exact List.nil_prefix
    · rw [length_charBytes_cons] at hsize
      omega

/-- There is one longest start. -/
theorem unique {other : List Char} (h : LongestWithin room cs start)
    (h' : LongestWithin room cs other) : start = other :=
  (h'.longest h.isStart h.fits).eq_of_length_le (h.longest h'.isStart h'.fits).length_le

end LongestWithin

private theorem not_splits_nil : ¬ Splits room [] := by
  rintro ⟨p, c, q, h, -⟩
  simp at h

/-- A cut behind the first character is a cut of the rest. -/
theorem splits_cons : Splits (c.utf8Size + room) (c :: cs) ↔ Splits room cs := by
  constructor
  · rintro ⟨p, d, q, h, hlow, hhigh⟩
    obtain ⟨rfl, h⟩ | ⟨p, rfl, rfl⟩ := List.cons_eq_append_iff.1 h
    · obtain ⟨rfl, -⟩ := List.cons.inj h
      simp only [charBytes, List.flatMap_nil, List.length_nil] at hhigh
      omega
    · rw [length_charBytes_cons] at hlow hhigh
      exact ⟨p, d, q, rfl, by omega, by omega⟩
  · rintro ⟨p, d, q, rfl, hlow, hhigh⟩
    refine ⟨c :: p, d, q, rfl, ?_, ?_⟩ <;> rw [length_charBytes_cons] <;> omega

/-- A cut within the first character goes through it, unless nothing is left of it. -/
theorem splits_cons_of_lt (h : room < c.utf8Size) : Splits room (c :: cs) ↔ 0 < room := by
  constructor
  · rintro ⟨p, d, q, -, hlow, -⟩
    omega
  · exact fun hpos => ⟨[], c, cs, rfl, hpos, by simpa [charBytes] using h⟩

/-- What is read of the first bytes of a text. -/
theorem exists_longestWithin (room : Nat) (cs : List Char) :
    ∃ start, LongestWithin room cs start ∧
      (Splits room cs → decodeChars ((charBytes cs).take room) = start ++ [replacement]) ∧
      (¬ Splits room cs → decodeChars ((charBytes cs).take room) = start) := by
  induction cs generalizing room with
  | nil =>
    refine ⟨[], .nil, fun h => absurd h not_splits_nil, fun _ => ?_⟩
    rw [charBytes, List.flatMap_nil, List.take_nil, decodeChars]
  | cons c cs ih =>
    rw [charBytes_cons, List.take_append, String.length_utf8EncodeChar]
    by_cases hroom : c.utf8Size ≤ room
    · obtain ⟨room, rfl⟩ := Nat.exists_eq_add_of_le hroom
      obtain ⟨start, hlongest, hsplit, hwhole⟩ := ih room
      have hfirst : (String.utf8EncodeChar c).take (c.utf8Size + room) = String.utf8EncodeChar c :=
        List.take_of_length_le (by rw [String.length_utf8EncodeChar]; omega)
      rw [hfirst, Nat.add_sub_cancel_left, decodeChars_utf8EncodeChar, splits_cons]
      exact ⟨c :: start, hlongest.cons, fun h => congrArg (c :: ·) (hsplit h),
        fun h => congrArg (c :: ·) (hwhole h)⟩
    · have hlt : room < c.utf8Size := Nat.lt_of_not_le hroom
      rw [Nat.sub_eq_zero_of_le (Nat.le_of_lt hlt), List.take_zero, List.append_nil,
        splits_cons_of_lt hlt]
      refine ⟨[], .of_lt hlt, fun hpos => decodeChars_take_utf8EncodeChar hpos hlt, fun hzero => ?_⟩
      rw [Nat.eq_zero_of_not_pos hzero, List.take_zero, decodeChars]

end Text

/-! ## Behind a length -/

open Text

private theorem length_toList_toUTF8 (s : String) : s.toUTF8.toList.length = s.utf8ByteSize := by
  rw [ByteArray.toList, toList_loop]
  rfl

/-- The length that stands before a text does not matter for what is cut off behind it. -/
theorem decodeText_take_frame {data : Bytes} (h : data.length < Nat.pow 2 32) (room : Nat) :
    decodeText ((Bytes.frame data).take (4 + room)) = decodeLossy (data.take room) := by
  have hlength : (Bytes.ofNat 4 data.length).length = 4 := Bytes.length_ofNat ..
  have hcut : (Bytes.frame data).take (4 + room) = Bytes.ofNat 4 data.length ++ data.take room := by
    rw [Bytes.frame, List.take_append, hlength, Nat.add_sub_cancel_left,
      List.take_of_length_le (by omega)]
  have hsize : Bytes.toNat (Bytes.ofNat 4 data.length) = data.length := by
    rw [Bytes.toNat_ofNat]
    exact Nat.mod_eq_of_lt h
  rw [decodeText, hcut, if_neg (by simp), List.take_left' hlength, List.drop_left' hlength, hsize,
    List.take_of_length_le (List.length_take_le' _ _)]

private theorem decodeText_frame {data : Bytes} (h : data.length < Nat.pow 2 32) :
    decodeText (Bytes.frame data) = decodeLossy data := by
  have hall : (Bytes.frame data).take (4 + data.length) = Bytes.frame data :=
    List.take_of_length_le (by simp [Bytes.frame])
  -- The whole frame is a cut behind all of it.
  rw [← hall, decodeText_take_frame h, List.take_length]

/-- A text without halves of surrogate pairs is read back from its bytes. Of the first `m` bytes the
empty text is read if they end within the length, and otherwise the longest start of the text whose
bytes are there, with one replacement character behind it if a character is cut through. -/
theorem cut_texts_read_back (s : String) (h : s.utf8ByteSize < Nat.pow 2 32) :
    ∃ data, ElementCodec.text.encode (.text (ofPlain s)) = .ok data ∧
      ElementCodec.text.decode data = .ok (.text (ofPlain s)) ∧
      (∀ m < 4, ElementCodec.text.decode (data.take m) = .ok (.text "")) ∧
      ∀ m, 4 ≤ m → ∃ start : String, LongestWithin (m - 4) s.toList start.toList ∧
        (Splits (m - 4) s.toList → ElementCodec.text.decode (data.take m) =
          .ok (.text (ofPlain (start.push replacement)))) ∧
        (¬ Splits (m - 4) s.toList → ElementCodec.text.decode (data.take m) =
          .ok (.text (ofPlain start))) := by
  have hlength : s.toUTF8.toList.length < Nat.pow 2 32 := by rwa [length_toList_toUTF8]
  have hencode : encodeText (ofPlain s) = .ok (Bytes.frame s.toUTF8.toList) := by
    rw [encodeText, utf8?_ofPlain, Option.elim_some, Bytes.framed, if_pos hlength]
  have hdecode (room : Nat) : decodeText ((Bytes.frame s.toUTF8.toList).take (4 + room)) =
      ofPoints ((decodeChars ((charBytes s.toList).take room)).map .char) := by
    rw [decodeText_take_frame hlength, toList_toUTF8, decodeLossy]
    rfl
  refine ⟨Bytes.frame s.toUTF8.toList, hencode, ?_, fun m hm => ?_, fun m hm => ?_⟩
  · rw [ElementCodec.decode, decodeText_frame hlength, decodeLossy_utf8]
  · have hshort : ((Bytes.frame s.toUTF8.toList).take m).length < 4 :=
      Nat.lt_of_le_of_lt (List.length_take_le _ _) hm
    rw [ElementCodec.decode, decodeText, if_pos hshort]
  · obtain ⟨room, rfl⟩ := Nat.exists_eq_add_of_le hm
    obtain ⟨start, hlongest, hsplit, hwhole⟩ := exists_longestWithin room s.toList
    rw [Nat.add_sub_cancel_left]
    refine ⟨String.ofList start, by rwa [String.toList_ofList], fun hs => ?_, fun hs => ?_⟩
    · rw [ElementCodec.decode, hdecode, hsplit hs, ofPlain, String.toList_push,
        String.toList_ofList]
    · rw [ElementCodec.decode, hdecode, hwhole hs, ofPlain, String.toList_ofList]

/-- A cut through the second character of a text. -/
theorem cut_texts_read_back_euro :
    "a€".utf8ByteSize < Nat.pow 2 32 ∧ Splits 2 "a€".toList ∧
    ∃ data, ElementCodec.text.encode (.text (ofPlain "a€")) = .ok data ∧
      ElementCodec.text.decode (data.take 6) = .ok (.text (ofPlain "a\uFFFD")) := by
  have hsmall : "a€".utf8ByteSize < Nat.pow 2 32 := by decide
  have hstart : LongestWithin 2 "a€".toList ['a'] :=
    (LongestWithin.of_lt (show 1 < '€'.utf8Size by decide)).cons (c := 'a')
  have hsplits : Splits 2 "a€".toList :=
    (splits_cons (c := 'a')).2 ((splits_cons_of_lt (show 1 < '€'.utf8Size by decide)).2 (by decide))
  obtain ⟨data, hencode, -, -, hcut⟩ := cut_texts_read_back "a€" hsmall
  obtain ⟨start, hlongest, hsplit, -⟩ := hcut 6 (by decide)
  have htext : start.push replacement = "a\uFFFD" := by
    rw [← String.ofList_toList (s := start), hlongest.unique hstart]
    rfl
  exact ⟨hsmall, hsplits, data, hencode, htext ▸ hsplit hsplits⟩

end Bindery
