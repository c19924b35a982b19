import Bindery.Proofs.Text.SnakeCase
import Bindery.Proofs.Verification

/-!
# Constants of slots

The constant of a slot is made of its module, class and function in upper case with double
underscores between them. Names without double underscores and without underscores at their ends are
told apart by it, but only in upper case, which different letters beyond ASCII can have in common.

* `doubleUnderscores_flatMap_upperChar`: upper case keeps underscores where they are.
* `snakeCase_eq_of_upper_eq`: what upper case loses of ASCII names.
* `Naming.IsPart`: names that a double underscore keeps apart.
* `Naming.Separable.join_eq_iff`: texts that are joined by a double underscore.
* `Entry.constant_eq_iff`: slots that have one constant.
* `constants_keep_parts_apart`: snake case, and what it comes to for constants.
* `constant_shared_beyond_ascii`: a table in which two classes have one constant.
-/

namespace Bindery

open Naming Text

/-! ## Upper case -/

theorem eq_of_ofNat_eq_underscore {n : Nat} (h : Char.ofNat n = '_') : n = 95 := by
  by_cases hvalid : n.isValidChar
  · have hchar : Char.ofNatAux n hvalid = '_' := (dif_pos hvalid).symm.trans h
    exact congrArg Char.toNat hchar
  · have hchar : '\x00' = '_' := (dif_neg hvalid).symm.trans h
    exact absurd hchar (by decide)

/-- No other character has an underscore in its upper case. -/
theorem eq_of_underscore_mem_upperChar {c : Char} (h : '_' ∈ upperChar c) : c = '_' := by
  have hascii : ∀ n < 128, '_' = (Char.ofNat n).toUpper → Char.ofNat n = '_' := by decide +kernel
  have hexpansions : ∀ e ∈ upperExpansions, '_' ∉ e.2.map Char.ofNat := by decide +kernel
  have hruns : ∀ r ∈ upperRuns, ¬ ((r.first : Int) ≤ 95 - r.shift ∧ 95 - r.shift ≤ r.last) := by
    decide +kernel
  unfold upperChar at h
  dsimp only at h
  split at h
  · next hc =>
    exact forall_ascii (P := fun c => '_' = c.toUpper → c = '_') hascii hc (List.mem_singleton.1 h)
  · split at h
    · next e he => exact absurd h (hexpansions e (List.mem_of_find?_eq_some he))
    · split at h
      · next r hr =>
        have hrange := List.find?_some hr
        have hn := eq_of_ofNat_eq_underscore (List.mem_singleton.1 h).symm
        simp only [Bool.and_eq_true, decide_eq_true_eq] at hrange
        exact absurd ⟨by omega, by omega⟩ (hruns r (List.mem_of_find?_eq_some hr))
      · exact (List.mem_singleton.1 h).symm

theorem upperChar_underscore : upperChar '_' = ['_'] := rfl

/-- Upper case takes no character away. -/
theorem upperChar_ne_nil (c : Char) : upperChar c ≠ [] := by
  have hexpansions : ∀ e ∈ upperExpansions, e.2.map Char.ofNat ≠ [] := by decide +kernel
  fun_cases upperChar c
  · exact List.cons_ne_nil _ _
  · next e he => exact hexpansions e (List.mem_of_find?_eq_some he)
  · exact List.cons_ne_nil _ _
  · exact List.cons_ne_nil _ _

/-- Upper case makes underscores of underscores only. -/
theorem eq_underscore_iff_of_mem_upperChar {c d : Char} (h : d ∈ upperChar c) :
    d = '_' ↔ c = '_' := by
  constructor
  · rintro rfl
    exact eq_of_underscore_mem_upperChar h
  · rintro rfl
    exact List.mem_singleton.1 (upperChar_underscore ▸ h)

theorem head?_flatMap_upperChar (cs : List Char) :
    (cs.flatMap upperChar).head? = some '_' ↔ cs.head? = some '_' := by
  cases cs with
  | nil => rfl
  | cons c rest =>
    obtain ⟨d, ds, hd⟩ := List.exists_cons_of_ne_nil (upperChar_ne_nil c)
    have hmem : d ∈ upperChar c := hd ▸ .head _
    rw [List.flatMap_cons, hd, List.cons_append, List.head?_cons, List.head?_cons,
      Option.some_inj, Option.some_inj, eq_underscore_iff_of_mem_upperChar hmem]

theorem getLast?_flatMap_upperChar (cs : List Char) :
    (cs.flatMap upperChar).getLast? = some '_' ↔ cs.getLast? = some '_' := by
  rcases List.eq_nil_or_concat' cs with rfl | ⟨init, c, rfl⟩
  · rfl
  · obtain ⟨ds, d, hd⟩ : ∃ ds d, upperChar c = ds ++ [d] :=
      (List.eq_nil_or_concat' _).resolve_left (upperChar_ne_nil c)
    have hmem : d ∈ upperChar c := hd ▸ List.mem_append_right _ (.head _)
    rw [List.flatMap_append, List.flatMap_singleton, hd, ← List.append_assoc,
      List.getLast?_concat, List.getLast?_concat, Option.some_inj, Option.some_inj,
      eq_underscore_iff_of_mem_upperChar hmem]

/-- A word without underscores in front adds no double ones. -/
theorem doubleUnderscores_append_of_not_mem {word : List Char} (h : '_' ∉ word) (cs : List Char) :
    doubleUnderscores (word ++ cs) = doubleUnderscores cs := by
  induction word with
  | nil => rfl
  | cons c rest ih =>
    obtain ⟨hc, hrest⟩ := List.ne_and_not_mem_of_not_mem_cons h
    rw [List.cons_append, doubleUnderscores, if_neg fun h => hc h.1.symm, ih hrest, Nat.zero_add]

/-- Upper case keeps the number of double underscores. -/
theorem doubleUnderscores_flatMap_upperChar (cs : List Char) :
    doubleUnderscores (cs.flatMap upperChar) = doubleUnderscores cs := by
  induction cs with
  | nil => rfl
  | cons c rest ih =>
    rw [List.flatMap_cons]
    by_cases hc : c = '_'
    · simp only [hc, upperChar_underscore, List.singleton_append, doubleUnderscores,
        head?_flatMap_upperChar, ih]
    · -- The expansion of a character that is no underscore has none.
      rw [doubleUnderscores_append_of_not_mem fun h => hc (eq_of_underscore_mem_upperChar h), ih]
      simp [doubleUnderscores, hc]

/-- A text of ASCII characters without capitals can be read off its upper case. -/
theorem map_toLower_flatMap_upperChar {cs : List Char}
    (h : ∀ c ∈ cs, c.toNat < 128 ∧ c.isUpper = false) :
    (cs.flatMap upperChar).map Char.toLower = cs := by
  have hascii : ∀ n < 128, (Char.ofNat n).isUpper = false →
      (Char.ofNat n).toUpper.toLower = Char.ofNat n := by
    decide +kernel
  induction cs with
  | nil => rfl
  | cons c rest ih =>
    obtain ⟨⟨hc, hupper⟩, hrest⟩ := List.forall_mem_cons.1 h
    have hchar : upperChar c = [c.toUpper] := if_pos hc
    have hback : c.toUpper.toLower = c :=
      forall_ascii (P := fun c => c.isUpper = false → c.toUpper.toLower = c) hascii hc hupper
    rw [List.flatMap_cons, hchar, List.map_append, ih hrest, List.map_singleton, hback,
      List.singleton_append]

/-- Of ASCII names, upper case loses nothing that snake case keeps. -/
theorem snakeCase_eq_of_upper_eq {name name' : String} (hname : IsAscii name)
    (hname' : IsAscii name') (h : upper (snakeCase name) = upper (snakeCase name')) :
    snakeCase name = snakeCase name' := by
  have hback {name : String} (hname : IsAscii name) :
      (upper (snakeCase name)).toList.map Char.toLower = (snakeCase name).toList := by
    have hsnake := snakeCased_snakeCase name
    rw [upper, String.toList_ofList]
    exact map_toLower_flatMap_upperChar fun c hc => ⟨hsnake.ascii hname c hc, hsnake.lower c hc⟩
  rw [← String.toList_inj, ← hback hname, h, hback hname']

/-! ## Joining -/

namespace Naming

/-- A name that a double underscore behind it keeps apart from what follows. -/
structure Separable (name : String) : Prop where
  last : name.toList.getLast? ≠ some '_'
  single : doubleUnderscores name.toList = 0

/-- A name without double underscores and without underscores at its ends. -/
structure IsPart (name : String) : Prop extends Separable name where
  nonempty : name ≠ ""
  first : name.toList.head? ≠ some '_'

instance (name : String) : Decidable (IsPart name) :=
  decidable_of_iff
    (name.toList.getLast? ≠ some '_' ∧ doubleUnderscores name.toList = 0 ∧ name ≠ "" ∧
      name.toList.head? ≠ some '_')
    ⟨fun h => ⟨⟨h.1, h.2.1⟩, h.2.2.1, h.2.2.2⟩, fun h => ⟨h.last, h.single, h.nonempty, h.first⟩⟩

/-- A text with a separator in it has a double underscore. -/
theorem doubleUnderscores_pos (cs ds : List Char) :
    0 < doubleUnderscores (cs ++ '_' :: '_' :: ds) := by
  induction cs with
  | nil => simp [doubleUnderscores]
  | cons c rest ih => rw [List.cons_append, doubleUnderscores]; omega

namespace Separable

variable {a b c d : String}

theorem snakeCase (h : Separable a) : Separable (snakeCase a) where
  last := (snakeCased_snakeCase a).last.not.2 h.last
  single := (snakeCased_snakeCase a).doubles.trans h.single

theorem upper (h : Separable a) : Separable (upper a) := by
  constructor <;> rw [Text.upper, String.toList_ofList]
  · exact (getLast?_flatMap_upperChar _).not.2 h.last
  · exact (doubleUnderscores_flatMap_upperChar _).trans h.single

/-- A separator does not begin inside of a part: if a part were longer than another text in front
of a separator, the separator would be in the part or reach out of it. -/
theorem eq_nil_of_longer {before m : List Char} {cs ds : List Char} (h : Separable a)
    (hlonger : a.toList = before ++ m) (hrest : '_' :: '_' :: cs = m ++ '_' :: '_' :: ds) :
    m = [] := by
  match m with
  | [] => rfl
  | [x] =>
    obtain rfl : '_' = x := (List.cons.inj hrest).1
    exact absurd (by rw [hlonger, List.getLast?_concat]) h.last
  | x :: y :: m =>
    simp only [List.cons_append, List.cons.injEq] at hrest
    obtain ⟨rfl, rfl, -⟩ := hrest
    have hpos := doubleUnderscores_pos before m
    rw [← hlonger, h.single] at hpos
    exact absurd hpos (Nat.lt_irrefl 0)

/-- What is joined by a double underscore can be parted at the first one. -/
theorem join_eq_iff (ha : Separable a) (hc : Separable c) :
    a ++ "__" ++ b = c ++ "__" ++ d ↔ a = c ∧ b = d := by
  constructor
  · intro h
    have hlists : a.toList ++ '_' :: '_' :: b.toList = c.toList ++ '_' :: '_' :: d.toList := by
      simpa using congrArg String.toList h
    have hfirst : a.toList = c.toList := by
      rcases List.append_eq_append_iff.1 hlists with ⟨m, hlonger, hrest⟩ | ⟨m, hlonger, hrest⟩
      · simpa [hc.eq_nil_of_longer hlonger hrest] using hlonger.symm
      · simpa [ha.eq_nil_of_longer hlonger hrest] using hlonger
    rw [hfirst] at hlists
    have hrest := (List.append_right_inj _).1 hlists
    simp only [List.cons.injEq, true_and] at hrest
    exact ⟨String.toList_inj.1 hfirst, String.toList_inj.1 hrest⟩
  · rintro ⟨rfl, rfl⟩
    rfl

end Separable

end Naming

/-! ## Constants -/

namespace Entry

/-- A slot whose class and function are named by texts, which like the name of its module have no
double underscore and no underscore at either end. -/
structure Named (e : Entry) : Prop where
  className : e.className.isText = true
  funcName : e.funcName.isText = true
  parts : ∀ name ∈ [e.module, e.className.spoken, e.funcName.spoken], IsPart name

theorem constant_eq (e : Entry) :
    e.constant = upper e.module ++ "__" ++
      (upper e.className.snakeCase ++ "__" ++ upper e.snakeName) := by
  simp [constant]

/-- Slots whose modules and classes are kept apart have one constant just when all of its parts are
the same. What the functions are called does not matter. -/
theorem constant_eq_iff {a b : Entry} (hmodule : Separable a.module) (hmodule' : Separable b.module)
    (hclass : Separable a.className.snakeCase) (hclass' : Separable b.className.snakeCase) :
    a.constant = b.constant ↔
      upper a.module = upper b.module ∧
      upper a.className.snakeCase = upper b.className.snakeCase ∧
      upper a.snakeName = upper b.snakeName := by
  rw [constant_eq, constant_eq, hmodule.upper.join_eq_iff hmodule'.upper,
    hclass.upper.join_eq_iff hclass'.upper]

end Entry

theorem Label.snakeCase_eq {l : Label} (h : l.isText = true) :
    l.snakeCase = Naming.snakeCase l.spoken := by
  obtain ⟨s, rfl⟩ := exists_of_isText h
  rfl

/-- Snake case leaves a name in snake case as it is. Of any name it lowers the capitals and puts
underscores in, none of them at an end or next to another one. So slots with such names have one
constant just when their modules, and their classes and functions in snake case, are the same in
upper case, and classes or functions with ASCII names are then the same in snake case. -/
theorem constants_keep_parts_apart :
    (∀ name, snakeCase (snakeCase name) = snakeCase name ∧ SnakeCased name (snakeCase name)) ∧
    ∀ a b : Entry, a.Named → b.Named →
      (a.constant = b.constant ↔
        upper a.module = upper b.module ∧
        upper a.className.snakeCase = upper b.className.snakeCase ∧
        upper a.snakeName = upper b.snakeName) ∧
      (a.constant = b.constant →
        (IsAscii a.className.spoken → IsAscii b.className.spoken →
          a.className.snakeCase = b.className.snakeCase) ∧
        (IsAscii a.funcName.spoken → IsAscii b.funcName.spoken → a.snakeName = b.snakeName)) := by
  refine ⟨fun name => ⟨snakeCase_idem name, snakeCased_snakeCase name⟩, fun a b ha hb => ?_⟩
  have hclass {e : Entry} (he : e.Named) : Separable e.className.snakeCase := by
    rw [Label.snakeCase_eq he.className]
    exact (he.parts _ (.tail _ (.head _))).toSeparable.snakeCase
  have hiff := Entry.constant_eq_iff (ha.parts _ (.head _)).toSeparable
    (hb.parts _ (.head _)).toSeparable (hclass ha) (hclass hb)
  refine ⟨hiff, fun h => ?_⟩
  obtain ⟨-, hclasses, hfuncs⟩ := hiff.1 h
  simp only [Entry.snakeName] at hfuncs ⊢
  rw [Label.snakeCase_eq ha.className, Label.snakeCase_eq hb.className] at hclasses ⊢
  rw [Label.snakeCase_eq ha.funcName, Label.snakeCase_eq hb.funcName] at hfuncs ⊢
  exact ⟨fun hascii hascii' => snakeCase_eq_of_upper_eq hascii hascii' hclasses,
    fun hascii hascii' => snakeCase_eq_of_upper_eq hascii hascii' hfuncs⟩

/-- A slot of a function that looks a link up, for a class of a server. -/
def linkEntry (module className funcName : String) : Entry where
  id := 0
  module := module
  className := .text className
  func := { name := .text funcName, flags := 1024 }
  cppClass := .text "UServer"
  header := .text "Server.h"

/-- Modules that differ in case, and classes and functions whose acronyms are written differently,
have one constant and are the same in snake case. -/
theorem constants_keep_parts_apart_acronyms :
    let a := linkEntry "engine" "HTTPServer" "GetURL"
    let b := linkEntry "Engine" "HttpServer" "getUrl"
    a.Named ∧ b.Named ∧ a.constant = b.constant ∧ upper a.module = upper b.module ∧
      a.className.snakeCase = b.className.snakeCase ∧ a.snakeName = b.snakeName := by
  intro a b
  have ha : a.Named := ⟨rfl, rfl, by decide⟩
  have hb : b.Named := ⟨rfl, rfl, by decide⟩
  have hconstant : a.constant = b.constant := by decide +kernel
  obtain ⟨hiff, hascii⟩ := constants_keep_parts_apart.2 a b ha hb
  obtain ⟨hclass, hfunc⟩ := hascii hconstant
  exact ⟨ha, hb, hconstant, (hiff.1 hconstant).1, hclass (by decide) (by decide),
    hfunc (by decide) (by decide)⟩

/-! ## Streets -/

/-- A class with a function that measures. -/
def streetClass (name : String) : ClassInfo where
  name := .text name
  cppName := .text ("A" ++ name)
  package := .text "Engine"
  funcs := [{ name := .text "Measure", flags := 1024 }]

/-- Two classes whose names are spelled alike in upper case. -/
def streetSchema : Schema where
  classes := [streetClass "Straße", streetClass "Strasse"]

/-- Two slots of the table have one constant, though their classes differ in snake case. The
constant is reported, since it occurs again. -/
theorem constant_shared_beyond_ascii :
    let table := (Prepared.of streetSchema overloadedConfig).table
    (∃ a ∈ table, ∃ b ∈ table, a.Named ∧ b.Named ∧ a.constant = b.constant ∧
      a.className.snakeCase = "straße" ∧ b.className.snakeCase = "strasse") ∧
    duplicateConstants table ≠ [] := by
  intro table
  have hslots : (streetSchema.slots overloadedConfig).map
      (fun e => (e.module, e.className, e.funcName, e.constant)) =
        [("engine", .text "Straße", .text "Measure", "ENGINE__STRASSE__MEASURE"),
          ("engine", .text "Strasse", .text "Measure", "ENGINE__STRASSE__MEASURE")] := by
    decide +kernel
  have hslot {name : String} (hname : name ∈ ["Straße", "Strasse"]) : ∃ e ∈ table, e.Named ∧
      e.className = .text name ∧ e.constant = "ENGINE__STRASSE__MEASURE" := by
    have hmem : ("engine", .text name, .text "Measure", "ENGINE__STRASSE__MEASURE") ∈
        table.map fun e => (e.module, e.className, e.funcName, e.constant) := by
      rw [(Schema.map_table_perm fun _ => rfl).mem_iff, hslots]
      simpa using hname
    obtain ⟨e, he, hkey⟩ := List.mem_map.1 hmem
    simp only [Prod.mk.injEq] at hkey
    obtain ⟨hmodule, hclass, hfunc, hconstant⟩ := hkey
    refine ⟨e, he, ⟨hclass ▸ rfl, hfunc ▸ rfl, ?_⟩, hclass, hconstant⟩
    have hparts : ∀ name ∈ ["Straße", "Strasse"],
        ∀ part ∈ ["engine", name, "Measure"], IsPart part := by
      decide
    rw [hmodule, hclass, hfunc]
    exact hparts name hname
  obtain ⟨a, ha, hnamed, hclass, hconstant⟩ := hslot (.head _)
  obtain ⟨b, hb, hnamed', hclass', hconstant'⟩ := hslot (.tail _ (.head _))
  refine ⟨⟨a, ha, b, hb, hnamed, hnamed', hconstant.trans hconstant'.symm, ?_, ?_⟩, fun h => ?_⟩
  · rw [hclass]
    decide
  · rw [hclass']
    decide
  · have hsame := List.inj_on_of_nodup_map (duplicateConstants_eq_nil_iff.1 h) ha hb
      (hconstant.trans hconstant'.symm)
    rw [hsame, hclass'] at hclass
    exact absurd hclass (by decide)

end Bindery
