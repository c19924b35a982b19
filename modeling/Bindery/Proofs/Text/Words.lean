import Bindery.Plan.Native
import Mathlib.Data.String.Basic

/-!
# Words of names

Names in pascal case, character by character, and pairs of names that are joined to the same text by
a separator that can also be in the names.

* `Overlap`: a pair whose first name reaches into the second one of another pair.
* `append_sep_eq_iff`, `join_eq_join_iff`: pairs that are joined to the same text are the same or
  overlap.
* `splitOn_ofList`: a text that is split on a character.
* `pascalChars`, `toList_pascalCase`: the characters of a name in pascal case.
-/

namespace Bindery

/-! ## Joining -/

/-- Whether the first name of the pair `c`, `d` reaches into the second one of the pair `a`, `b`:
`c` is `a` and some more, and `b` is that and `d`. -/
def Overlap (a b c d : String) : Prop := ∃ m, c = a ++ "_" ++ m ∧ b = m ++ "_" ++ d

/-- Two pairs of texts are joined by a separator to the same text if they are the same, or if the
longer first one reaches into the second one of the other pair. -/
theorem append_sep_eq_iff {s : String} {sep : Char} (hs : s.toList = [sep]) {a b c d : String} :
    a ++ s ++ b = c ++ s ++ d ↔ (a = c ∧ b = d) ∨
      (∃ m, c = a ++ s ++ m ∧ b = m ++ s ++ d) ∨ ∃ m, a = c ++ s ++ m ∧ d = m ++ s ++ b := by
  -- One of two equal joined texts has the longer first part.
  have hreach {a b c d : String} {m : List Char} (hc : c.toList = a.toList ++ m)
      (hb : sep :: b.toList = m ++ sep :: d.toList) :
      (a = c ∧ b = d) ∨ ∃ m, c = a ++ s ++ m ∧ b = m ++ s ++ d := by
    cases m with
    | nil =>
      simp only [List.nil_append, List.cons.injEq, true_and] at hb
      simp only [List.append_nil] at hc
      exact .inl ⟨String.toList_inj.1 hc.symm, String.toList_inj.1 hb⟩
    | cons sep' m =>
      simp only [List.cons_append, List.cons.injEq] at hb
      obtain ⟨rfl, hb⟩ := hb
      exact .inr ⟨String.ofList m, String.toList_inj.1 (by simpa [hs] using hc),
        String.toList_inj.1 (by simpa [hs] using hb)⟩
  constructor
  · intro h
    have hlists : a.toList ++ sep :: b.toList = c.toList ++ sep :: d.toList := by
      simpa [hs] using congrArg String.toList h
    rcases List.append_eq_append_iff.1 hlists with ⟨m, hc, hb⟩ | ⟨m, ha, hd⟩
    · exact (hreach hc hb).imp_right .inl
    · exact (hreach ha hd).imp (fun h => ⟨h.1.symm, h.2.symm⟩) .inr
  · rintro (⟨rfl, rfl⟩ | ⟨m, rfl, rfl⟩ | ⟨m, rfl, rfl⟩)
    · rfl
    · simp only [String.append_assoc]
    · simp only [String.append_assoc]

/-- Pairs of names are joined to the same text if they are the same or overlap. -/
theorem join_eq_join_iff {a b c d : String} :
    a ++ "_" ++ b = c ++ "_" ++ d ↔ (a = c ∧ b = d) ∨ Overlap a b c d ∨ Overlap c d a b :=
  append_sep_eq_iff rfl

/-- What overlaps has an underscore in its longer first name. -/
theorem Overlap.mem_longer {a b c d : String} (h : Overlap a b c d) : '_' ∈ c.toList := by
  obtain ⟨m, rfl, -⟩ := h
  simp

/-- What overlaps has an underscore in its longer second name. -/
theorem Overlap.mem_second {a b c d : String} (h : Overlap a b c d) : '_' ∈ b.toList := by
  obtain ⟨m, -, rfl⟩ := h
  simp

open String

/-! ## Splitting -/

/-- What is left to split: `m` is the word so far, which starts behind `l`, and `r` the rest. -/
theorem splitOnAux_ofList (sep : Char) (l m r : List Char) (words : List String) :
    splitOnAux (ofList (l ++ m ++ r)) (ofList [sep]) ⟨utf8Len l⟩ ⟨utf8Len l + utf8Len m⟩ 0 words =
      words.reverse ++ (List.splitOnPPrepend (· == sep) r m.reverse).map ofList := by
  induction r generalizing l m words with
  | nil =>
    have hend : Pos.Raw.atEnd (ofList (l ++ m ++ [])) ⟨utf8Len l + utf8Len m⟩ = true := by
      simpa using atEnd_of_valid (l ++ m) []
    rw [splitOnAux, if_pos hend]
    simpa using extract_of_valid l m []
  | cons c r ih =>
    have hend : ¬ Pos.Raw.atEnd (ofList (l ++ m ++ c :: r)) ⟨utf8Len l + utf8Len m⟩ = true := by
      simpa using atEnd_of_valid (l ++ m) (c :: r)
    have hget : Pos.Raw.get (ofList (l ++ m ++ c :: r)) ⟨utf8Len l + utf8Len m⟩ = c := by
      simpa using get_of_valid (l ++ m) (c :: r)
    have hnext : Pos.Raw.next (ofList (l ++ m ++ c :: r)) ⟨utf8Len l + utf8Len m⟩ =
        ⟨utf8Len l + utf8Len m + c.utf8Size⟩ := by
      simpa using next_of_valid (l ++ m) c r
    have hsepGet : Pos.Raw.get (ofList [sep]) 0 = sep := get_of_valid [] [sep]
    have hsepNext : Pos.Raw.next (ofList [sep]) 0 = ⟨sep.utf8Size⟩ := by
      simpa using next_of_valid [] sep []
    have hsepEnd : Pos.Raw.atEnd (ofList [sep]) ⟨sep.utf8Size⟩ = true := by
      simpa using atEnd_of_valid [sep] []
    rw [splitOnAux, if_neg hend, hget, hsepGet, hnext, hsepNext]
    dsimp only
    rw [if_pos hsepEnd]
    split
    · next hc =>
      obtain rfl := eq_of_beq hc
      have hback : (⟨utf8Len l + utf8Len m + c.utf8Size⟩ : Pos.Raw).unoffsetBy ⟨c.utf8Size⟩ =
          ⟨utf8Len l + utf8Len m⟩ := by
        simp [Pos.Raw.unoffsetBy]
      rw [hback, extract_of_valid l m (c :: r)]
      simpa [List.splitOnPPrepend_cons_eq_if, Nat.add_assoc] using
        ih (l ++ m ++ [c]) [] (ofList m :: words)
    · next hc =>
      have hback : (⟨utf8Len l + utf8Len m⟩ : Pos.Raw).unoffsetBy 0 = ⟨utf8Len l + utf8Len m⟩ :=
        rfl
      rw [hback, hnext]
      simpa [List.splitOnPPrepend_cons_eq_if, hc, Nat.add_assoc] using ih l (m ++ [c]) words

/-- A text that is split on a character. -/
theorem splitOn_ofList (s : String) (sep : Char) :
    s.splitOn (ofList [sep]) = (s.toList.splitOnP (· == sep)).map ofList := by
  have hsep : (ofList [sep] == "") = false := by simp
  rw [splitOn, hsep]
  simpa using splitOnAux_ofList sep [] [] s.toList []

/-! ## Pascal case -/

/-- A word with a capital at its start. -/
def capitalized (word : List Char) : List Char :=
  (word.take 1).flatMap Text.upperChar ++ word.drop 1

/-- The words between underscores, each with a capital at its start. -/
def pascalChars (name : List Char) : List Char := (name.splitOnP (· == '_')).flatMap capitalized

theorem toList_pascalCase (name : String) :
    (pascalCase name).toList =
      if (pascalChars name.toList).isEmpty then "Arg".toList else pascalChars name.toList := by
  -- Empty words have nothing to contribute, so it does not matter that they are left out.
  have hwords (words : List (List Char)) :
      (String.join (((words.map ofList).filter (!·.isEmpty)).map fun w =>
        Text.upper (ofList (w.toList.take 1)) ++ ofList (w.toList.drop 1))).toList =
      words.flatMap capitalized := by
    induction words with
    | nil => rfl
    | cons word rest ih =>
      cases word with
      | nil => simpa [capitalized] using ih
      | cons c cs => simpa [capitalized, Text.upper] using ih
  have hjoined : (String.join (((name.splitOn "_").filter (!·.isEmpty)).map fun w =>
      Text.upper (ofList (w.toList.take 1)) ++ ofList (w.toList.drop 1))).toList =
        pascalChars name.toList := by
    rw [show "_" = ofList ['_'] from rfl, splitOn_ofList, hwords]
    rfl
  have harg (s : String) : (if s.isEmpty then "Arg" else s).toList =
      if s.toList.isEmpty then "Arg".toList else s.toList := by
    rw [apply_ite String.toList]
    simp
  rw [← hjoined]
  exact harg _

theorem pascalCase_eq (name : String) :
    pascalCase name = ofList
      (if (pascalChars name.toList).isEmpty then "Arg".toList else pascalChars name.toList) := by
  rw [← toList_pascalCase, ofList_toList]

end Bindery
