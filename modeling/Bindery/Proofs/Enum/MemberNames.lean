import Bindery.Proofs.Enum.Survivors
import Bindery.Proofs.Text.SnakeCase
import Bindery.Text.Identifier

/-!
# Usable member names

The name of a variant is rewritten step by step into the name of a member. No step brings back what
an earlier one took away: an underscore behind a reserved word can make the name special, but a
letter in front of it ends that, and an underscore behind an attribute makes the name neither
reserved nor special.

* `Naming.IsWord`: the characters of an ASCII identifier.
* `Naming.IsMemberName`: names that a member of an enum can have.
* `Naming.IsPlain`, `isMemberName_iff`: such names as the steps establish them.
* `Naming.isPlain_enumMemberName`: what all steps come to.
* `member_names_usable`: every variant gets such a name, and one that has it keeps it.
-/

namespace Bindery

open Text

namespace Naming

/-! ## Words -/

/-- The characters of an ASCII identifier. -/
structure IsWord (cs : List Char) : Prop where
  nonempty : cs ≠ []
  chars : ∀ c ∈ cs, isWordChar c = true
  first : ∀ c ∈ cs.head?, c.isDigit = false

/-- A word with an underscore behind it is a word. -/
theorem IsWord.append_underscore {name : String} (h : IsWord name.toList) :
    IsWord (name ++ "_").toList := by
  have hlist : (name ++ "_").toList = name.toList ++ ['_'] := String.toList_append
  rw [hlist]
  refine ⟨List.append_ne_nil_of_left_ne_nil h.nonempty _, fun c hc => ?_, ?_⟩
  · rcases List.mem_append.1 hc with hc | hc
    · exact h.chars c hc
    · rw [List.mem_singleton.1 hc]
      rfl
  · rw [List.head?_append_of_ne_nil _ h.nonempty]
    exact h.first

theorem isWord_cons_iff {c : Char} {rest : List Char} :
    IsWord (c :: rest) ↔
      (isWordChar c = true ∧ c.isDigit = false) ∧ ∀ d ∈ rest, isWordChar d = true := by
  constructor
  · intro h
    obtain ⟨hc, hrest⟩ := List.forall_mem_cons.1 h.chars
    exact ⟨⟨hc, h.first c rfl⟩, hrest⟩
  · rintro ⟨⟨hc, hdigit⟩, hrest⟩
    refine ⟨List.cons_ne_nil _ _, List.forall_mem_cons.2 ⟨hc, hrest⟩, fun d hd => ?_⟩
    obtain rfl : c = d := Option.some.inj hd
    exact hdigit

/-- The characters of words are ASCII characters. -/
theorem toNat_lt_of_isWordChar {c : Char} (h : isWordChar c = true) : c.toNat < 128 := by
  rcases Bool.or_eq_true_iff.1 h with halphanum | hmark
  · have hbound : c.toNat ≤ 122 := by
      rcases Bool.or_eq_true_iff.1 halphanum with halpha | hdigit
      · rcases Bool.or_eq_true_iff.1 halpha with hupper | hlower
        · exact Nat.le_trans (toNat_toLower hupper).2.1 (by decide)
        · have hz : c.val ≤ 'z'.val := of_decide_eq_true (Bool.and_eq_true_iff.1 hlower).2
          exact UInt32.le_iff_toNat_le.1 hz
      · have h9 : c.val ≤ '9'.val := of_decide_eq_true (Bool.and_eq_true_iff.1 hdigit).2
        exact Nat.le_trans (UInt32.le_iff_toNat_le.1 h9) (by decide)
    omega
  · rw [of_decide_eq_true hmark]
    decide

theorem continuesIdentifier_eq {c : Char} (hc : c.toNat < 128) :
    continuesIdentifier c = isWordChar c := by
  rw [continuesIdentifier, if_pos hc, isWordChar]

theorem startsIdentifier_eq {c : Char} (hc : c.toNat < 128) :
    startsIdentifier c = (isWordChar c && !c.isDigit) := by
  have hascii : ∀ n < 128, startsIdentifier (Char.ofNat n) =
      (isWordChar (Char.ofNat n) && !(Char.ofNat n).isDigit) := by
    decide +kernel
  exact forall_ascii (P := fun c => startsIdentifier c = (isWordChar c && !c.isDigit)) hascii hc

/-- The words are the identifiers of ASCII characters. -/
theorem isWord_iff {s : String} : IsWord s.toList ↔ isIdentifier s = true ∧ IsAscii s := by
  unfold isIdentifier IsAscii
  cases s.toList with
  | nil => exact iff_of_false (fun h => h.nonempty rfl) (fun h => Bool.false_ne_true h.1)
  | cons c rest =>
    simp only [isWord_cons_iff, Bool.and_eq_true, List.all_eq_true, List.forall_mem_cons]
    constructor
    · rintro ⟨⟨hc, hdigit⟩, hrest⟩
      have hascii := toNat_lt_of_isWordChar hc
      have hrest' := fun d hd => toNat_lt_of_isWordChar (hrest d hd)
      refine ⟨⟨?_, fun d hd => ?_⟩, hascii, hrest'⟩
      · rw [startsIdentifier_eq hascii, hc, hdigit]
        rfl
      · rw [continuesIdentifier_eq (hrest' d hd), hrest d hd]
    · rintro ⟨⟨hstart, hcontinue⟩, hascii, hrest⟩
      rw [startsIdentifier_eq hascii] at hstart
      refine ⟨by simpa using hstart, fun d hd => ?_⟩
      rw [← continuesIdentifier_eq (hrest d hd), hcontinue d hd]

/-! ## Member names -/

/-- What the generated enums and every enum define themselves. -/
def enumAttributes : List String := ["name", "value", "from_value", "display_name", "mro"]

/-- The attributes of integers that are written between double underscores. -/
def specialAttributes : List String :=
  ["abs", "add", "and", "base", "bases", "basicsize", "bool", "call", "ceil", "class", "delattr",
    "dict", "dictoffset", "dir", "divmod", "doc", "eq", "flags", "float", "floor", "floordiv",
    "format", "ge", "getattribute", "getnewargs", "getstate", "gt", "hash", "index", "init",
    "init_subclass", "instancecheck", "int", "invert", "itemsize", "le", "lshift", "lt", "mod",
    "module", "mro", "mul", "name", "ne", "neg", "new", "or", "pos", "pow", "prepare", "qualname",
    "radd", "rand", "rdivmod", "reduce", "reduce_ex", "repr", "rfloordiv", "rlshift", "rmod",
    "rmul", "ror", "round", "rpow", "rrshift", "rshift", "rsub", "rtruediv", "rxor", "setattr",
    "sizeof", "str", "sub", "subclasscheck", "subclasses", "subclasshook", "text_signature",
    "truediv", "trunc", "weakrefoffset", "xor"].map fun word => "__" ++ word ++ "__"

/-- The attributes of the type of integers, its own and those that every type has. -/
def intAttributes : List String :=
  ["as_integer_ratio", "bit_count", "bit_length", "conjugate", "denominator", "from_bytes", "imag",
    "mro", "numerator", "real", "to_bytes"] ++ specialAttributes

/-- A name that a member of an enum can have: an ASCII identifier that means nothing else. -/
structure IsMemberName (name : String) : Prop where
  nonempty : name ≠ ""
  identifier : isIdentifier name = true
  ascii : IsAscii name
  keyword : name ∉ keywords
  softKeyword : name ∉ softKeywords
  notPrivate : ¬ "__".toList <+: name.toList
  notSpecial : ¬ (name.toList.head? = some '_' ∧ name.toList.getLast? = some '_')
  enumAttribute : name ∉ enumAttributes
  intAttribute : name ∉ intAttributes

/-- A name without meaning: a word that is neither reserved nor special by its underscores. -/
structure IsPlain (name : String) : Prop where
  word : IsWord name.toList
  unreserved : isReserved name = false
  plain : isUnderscored name.toList = false

theorem isReserved_iff {name : String} :
    isReserved name = true ↔ name ∈ keywords ++ softKeywords ++ helperNames := by
  simp [isReserved, or_assoc]

theorem isReserved_eq_false_iff {name : String} :
    isReserved name = false ↔
      name ∉ keywords ∧ name ∉ softKeywords ∧ name ∉ helperNames := by
  rw [← Bool.not_eq_true, isReserved_iff]
  simp

/-- A name is special if it has an underscore at both ends, or two at its start. -/
theorem isUnderscored_eq_false_iff {cs : List Char} :
    isUnderscored cs = false ↔
      ¬ (cs.head? = some '_' ∧ cs.getLast? = some '_') ∧ ¬ "__".toList <+: cs := by
  have htake : "__".toList <+: cs ↔ cs.take 2 = ['_', '_'] := by
    rw [List.prefix_iff_eq_take, eq_comm]
    rfl
  rw [htake]
  simp [isUnderscored]

/-- The attributes of integers that are not asked for start with two underscores. -/
theorem mem_integerAttributes_iff {name : String} (hplain : ¬ "__".toList <+: name.toList) :
    name ∈ integerAttributes ↔ name ∈ enumAttributes ∨ name ∈ intAttributes := by
  have hasked : ∀ name ∈ integerAttributes, name ∈ enumAttributes ∨ name ∈ intAttributes := by
    decide +kernel
  have henum : enumAttributes ⊆ integerAttributes := by decide +kernel
  have hint : ["as_integer_ratio", "bit_count", "bit_length", "conjugate", "denominator",
      "from_bytes", "imag", "mro", "numerator", "real", "to_bytes"] ⊆ integerAttributes := by
    decide +kernel
  refine ⟨hasked name, ?_⟩
  rintro (h | h)
  · exact henum h
  · rcases List.mem_append.1 h with h | h
    · exact hint h
    · obtain ⟨word, -, rfl⟩ := List.mem_map.1 h
      refine absurd ?_ hplain
      rw [String.append_assoc, String.toList_append]
      exact List.prefix_append _ _

/-- The names that members can have, apart from those that the generated code needs, are the ones
that the steps leave as they are. -/
theorem isMemberName_iff {name : String} :
    IsMemberName name ∧ name ∉ helperNames ↔ IsPlain name ∧ name ∉ integerAttributes := by
  constructor
  · rintro ⟨h, hhelper⟩
    exact ⟨⟨isWord_iff.2 ⟨h.identifier, h.ascii⟩,
      isReserved_eq_false_iff.2 ⟨h.keyword, h.softKeyword, hhelper⟩,
      isUnderscored_eq_false_iff.2 ⟨h.notSpecial, h.notPrivate⟩⟩,
      fun hmem => ((mem_integerAttributes_iff h.notPrivate).1 hmem).elim h.enumAttribute
        h.intAttribute⟩
  · rintro ⟨h, hfree⟩
    obtain ⟨hkeyword, hsoft, hhelper⟩ := isReserved_eq_false_iff.1 h.unreserved
    obtain ⟨hspecial, hprivate⟩ := isUnderscored_eq_false_iff.1 h.plain
    obtain ⟨hidentifier, hascii⟩ := isWord_iff.1 h.word
    refine ⟨⟨?_, hidentifier, hascii, hkeyword, hsoft, hprivate, hspecial, fun hmem => ?_,
      fun hmem => ?_⟩, hhelper⟩
    · rintro rfl
      exact h.word.nonempty rfl
    · exact hfree ((mem_integerAttributes_iff hprivate).2 (.inl hmem))
    · exact hfree ((mem_integerAttributes_iff hprivate).2 (.inr hmem))

/-! ## Steps -/

theorem isWordChar_toWordChar (p : CodePoint) : isWordChar (toWordChar p) = true := by
  unfold toWordChar
  cases h : p.char?.filter isWordChar with
  | none => rfl
  | some c => exact (Option.filter_eq_some_iff.1 h).2

theorem isWord_escapeReserved {name : String} (h : IsWord name.toList) :
    IsWord (escapeReserved name).toList := by
  unfold escapeReserved
  split
  · exact h.append_underscore
  · exact h

/-- A reserved word with an underscore behind it is none. -/
theorem isReserved_escapeReserved (name : String) : isReserved (escapeReserved name) = false := by
  have hwords : ∀ word ∈ keywords ++ softKeywords ++ helperNames,
      isReserved (word ++ "_") = false := by
    decide +kernel
  unfold escapeReserved
  split
  · next h => exact hwords name (isReserved_iff.1 h)
  · next h => simpa using h

/-- Whatever the variant is called, a word comes out of the first step. -/
theorem isWord_variantName (variant : String) : IsWord (variantName variant).toList := by
  unfold variantName
  split
  · exact isWord_iff.2 ⟨by decide, by decide⟩
  · next c rest hchars =>
    have hwords : ∀ d ∈ c :: rest, isWordChar d = true := by
      rw [← hchars]
      intro d hd
      obtain ⟨p, -, rfl⟩ := List.mem_map.1 hd
      exact isWordChar_toWordChar p
    refine isWord_escapeReserved ?_
    rw [String.toList_ofList]
    split
    · exact isWord_cons_iff.2 ⟨by decide, hwords⟩
    · next hdigit =>
      obtain ⟨hc, hrest⟩ := List.forall_mem_cons.1 hwords
      exact isWord_cons_iff.2 ⟨⟨hc, by simpa using hdigit⟩, hrest⟩

theorem isReserved_variantName (variant : String) : isReserved (variantName variant) = false := by
  unfold variantName
  split
  · decide
  · exact isReserved_escapeReserved _

/-- A letter in front ends the meaning of underscores, and no reserved word starts with it. -/
theorem isPlain_shielded {name : String} (hword : IsWord name.toList)
    (hunreserved : isReserved name = false) :
    IsPlain (if isUnderscored name.toList then "V" ++ name else name) := by
  split
  · have hlist : ("V" ++ name).toList = 'V' :: name.toList := String.toList_append
    have hwords : ∀ word ∈ keywords ++ softKeywords ++ helperNames,
        word.toList.head? ≠ some 'V' := by
      decide
    constructor
    · rw [hlist]
      exact isWord_cons_iff.2 ⟨by decide, hword.chars⟩
    · rw [← Bool.not_eq_true, isReserved_iff]
      exact fun hmem => hwords _ hmem (by rw [hlist]; rfl)
    · rw [hlist]
      simp [isUnderscored]
  · next h => exact ⟨hword, hunreserved, by simpa using h⟩

/-- After all steps a name is plain and no attribute. -/
theorem isPlain_enumMemberName (variant : String) :
    IsPlain (enumMemberName variant) ∧ enumMemberName variant ∉ integerAttributes := by
  -- An attribute may end in an underscore, so that another one behind it needs a look at each.
  have hsuffix : ∀ name ∈ integerAttributes, isReserved (name ++ "_") = false ∧
      isUnderscored (name ++ "_").toList = false ∧ name ++ "_" ∉ integerAttributes := by
    decide +kernel
  have hshielded := isPlain_shielded (isWord_variantName variant) (isReserved_variantName variant)
  unfold enumMemberName
  dsimp only
  generalize (if isUnderscored (variantName variant).toList then "V" ++ variantName variant
    else variantName variant) = shielded at hshielded ⊢
  split
  · next h =>
    obtain ⟨hunreserved, hplain, hfree⟩ := hsuffix _ (List.contains_iff_mem.1 h)
    exact ⟨⟨hshielded.word.append_underscore, hunreserved, hplain⟩, hfree⟩
  · next h => exact ⟨hshielded, fun hmem => h (List.contains_iff_mem.2 hmem)⟩

/-! ## Names that stay -/

/-- The characters of an ASCII text are its code points. -/
theorem points_eq_of_ascii {s : String} (h : IsAscii s) : points s = s.toList.map .char := by
  have hspelling : (s.toList.map CodePoint.char).flatMap CodePoint.spelling = s.toList := by
    rw [List.flatMap_map]
    have hchar : ∀ c ∈ s.toList, CodePoint.spelling (.char c) = [c] := fun c hc =>
      if_neg fun hmark => absurd (h c hc) (by rw [hmark]; decide)
    rw [List.flatMap_congr hchar]
    simp
  rw [points]
  conv_lhs => rw [← hspelling]
  exact CodePoint.read_flatMap_spelling _

theorem toWordChar_of_isWordChar {c : Char} (h : isWordChar c = true) :
    toWordChar (.char c) = c := by
  simp [toWordChar, CodePoint.char?, Option.filter, h]

/-- The first step leaves a word that is not reserved as it is. -/
theorem variantName_of_isWord {name : String} (hword : IsWord name.toList)
    (hunreserved : isReserved name = false) : variantName name = name := by
  have hchars : (points name).map toWordChar = name.toList := by
    rw [points_eq_of_ascii (isWord_iff.1 hword).2, List.map_map]
    have hchar : ∀ c ∈ name.toList, (toWordChar ∘ CodePoint.char) c = id c := fun c hc =>
      toWordChar_of_isWordChar (hword.chars c hc)
    rw [List.map_congr_left hchar, List.map_id]
  unfold variantName
  rw [hchars]
  split
  · next hnil => exact absurd hnil hword.nonempty
  · next c rest hcons =>
    rw [if_neg (by simp [hword.first c (by simp [hcons])]), ← hcons, String.ofList_toList,
      escapeReserved, hunreserved]
    rfl

theorem enumMemberName_of_isPlain {name : String} (h : IsPlain name)
    (hfree : name ∉ integerAttributes) : enumMemberName name = name := by
  unfold enumMemberName
  simp [variantName_of_isWord h.word h.unreserved, h.plain, hfree]

end Naming

open Naming

/-- The members of every layout have usable names. -/
theorem EnumInfo.isMemberName_of_mem_layout {e : EnumInfo} {v : Variant}
    (hv : v ∈ e.layout.variants) : IsMemberName v.name := by
  rw [e.layout_variants] at hv
  obtain ⟨p, -, rfl⟩ := List.mem_map.1 hv
  rw [EnumLayout.variantOf_name]
  exact (isMemberName_iff.2 (isPlain_enumMemberName _)).1

/-- Every variant gets a name that a member can have, whatever the variant is called. A variant that
is called by such a name keeps it, unless the generated code needs the name for something else. -/
theorem member_names_usable (variant : String) :
    IsMemberName (enumMemberName variant) ∧
    (enumMemberName variant = variant ↔ IsMemberName variant ∧ variant ∉ helperNames) := by
  have husable := isMemberName_iff.2 (isPlain_enumMemberName variant)
  refine ⟨husable.1, fun h => h ▸ husable, fun h => ?_⟩
  obtain ⟨hplain, hfree⟩ := isMemberName_iff.1 h
  exact enumMemberName_of_isPlain hplain hfree

/-- The underscore behind a reserved word makes the name special here. -/
example : enumMemberName "_" = "V__" := by decide

end Bindery
