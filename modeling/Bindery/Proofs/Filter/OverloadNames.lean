import Bindery.Proofs.Filter.Overloads
import Bindery.Proofs.Text.Words

/-!
# Names of overloads

Which names the functions of a class get. A function keeps its name if it is the first one with it.
A later one gets the next free number, counted from the functions of its name before it. Which
functions stand in which order decides who gets a name, but not which names are given out.

* `Function.NumberedAs`: the name of a function after those that come before it.
* `renameFrom_numberedAs`, `pairwise_same_renameOverloads`: every function is named so, and no two
  names are the same.
* `overloadNumber`, `overloadName`: the free numbers of a name, and the names made with them.
* `ranksFrom`: names with the number of equal ones before them, which are the same in every order.
* `TakenBy`, `renameFrom_overloadNames`: what the search for a free number finds.
* `renameOverloads_filter_perm`, `mem_renameOverloads_filter_iff`: the names of those functions that
  are kept after the renaming.
* `names_of_overloads`: renaming as a whole.
* `unnamed_repeat_looked_up_by_number`: a function whose name is empty.
-/

namespace Bindery

/-! ## The search -/

theorem le_freeSuffix (taken : List Label) (base : Label) (n fuel : Nat) :
    n ≤ freeSuffix taken base n fuel := by
  induction fuel generalizing n with
  | zero => exact le_rfl
  | succ fuel ih =>
    rw [freeSuffix]
    split
    · exact (Nat.le_succ n).trans (ih (n + 1))
    · exact le_rfl

theorem freeSuffix_le (taken : List Label) (base : Label) (n fuel : Nat) :
    freeSuffix taken base n fuel ≤ n + fuel := by
  induction fuel generalizing n with
  | zero => exact le_rfl
  | succ fuel ih =>
    rw [freeSuffix]
    split
    · have := ih (n + 1)
      omega
    · omega

/-- The search passes only numbers that are taken. -/
theorem taken_of_lt_freeSuffix {taken : List Label} {base : Label} {n m fuel : Nat} (hn : n ≤ m)
    (hm : m < freeSuffix taken base n fuel) : numbered base m ∈ taken := by
  induction fuel generalizing n with
  | zero => exact absurd hm (by rw [freeSuffix]; omega)
  | succ fuel ih =>
    rw [freeSuffix] at hm
    split at hm
    · next htaken =>
      rcases hn.eq_or_lt with rfl | hlt
      · simpa using htaken
      · exact ih hlt hm
    · omega

/-! ## One function after another -/

/-- How `f` is named after `repeats` functions of its name: it keeps its name if there are none,
and gets the least free number from `repeats` on otherwise. The search for that is over after as
many steps as there are taken names. -/
structure Function.NumberedAs (taken : List Label) (repeats : Nat) (f g : Function) : Prop where
  first : repeats = 0 → g.name = f.name
  later : 0 < repeats → ∃ n, g.name = numbered f.name n ∧
    IsLeast {n | repeats ≤ n ∧ numbered f.name n ∉ taken} n ∧ n ≤ repeats + taken.length

theorem Function.NumberedAs.of_taken {taken taken' : List Label} {repeats : Nat} {f g : Function}
    (h : f.NumberedAs taken repeats g) (hmem : ∀ l, l ∈ taken ↔ l ∈ taken')
    (hlength : taken.length ≤ taken'.length) : f.NumberedAs taken' repeats g where
  first := h.first
  later hlater := by
    obtain ⟨n, hname, hleast, hbound⟩ := h.later hlater
    simp only [hmem] at hleast
    exact ⟨n, hname, hleast, hbound.trans (Nat.add_le_add_left hlength _)⟩

/-- The search ends at the least free number. -/
theorem isLeast_freeSuffix (taken : List Label) (base : Label) (n : Nat) :
    IsLeast {m | n ≤ m ∧ numbered base m ∉ taken} (freeSuffix taken base n taken.length) := by
  refine ⟨⟨le_freeSuffix _ _ _ _, freeSuffix_not_mem _ _ _⟩, fun m hm => ?_⟩
  by_contra hlt
  exact hm.2 (taken_of_lt_freeSuffix hm.1 (not_le.1 hlt))

/-- A function and what it is renamed to, behind those with the declared names `seen`. -/
theorem renameFrom_numberedAs {seen taken : List Label} {fs : List Function}
    (htaken : ∀ f ∈ fs, f.name ∈ taken) {i : Nat} {f g : Function} (hf : fs[i]? = some f)
    (hg : (renameFrom seen taken fs)[i]? = some g) :
    f.NumberedAs (taken ++ ((renameFrom seen taken fs).take i).map (·.name))
      (seen.countP f.name.same + (fs.take i).countP fun e => f.name.same e.name) g := by
  induction fs generalizing seen taken i with
  | nil => cases hf
  | cons e rest ih =>
    have hrest : ∀ g ∈ rest, g.name ∈ taken := fun g hg => htaken g (.tail _ hg)
    unfold renameFrom at hg ⊢
    dsimp only at hg ⊢
    cases i with
    | zero =>
      obtain rfl : e = f := Option.some.inj hf
      simp only [List.take_zero, List.countP_nil, Nat.add_zero, List.map_nil, List.append_nil]
      split at hg
      · next hfirst =>
        obtain rfl := Option.some.inj hg
        exact ⟨fun _ => rfl, fun hlater => absurd hfirst hlater.ne'⟩
      · next hlater =>
        obtain rfl := Option.some.inj hg
        exact ⟨fun hfirst => absurd hfirst hlater,
          fun _ => ⟨_, rfl, isLeast_freeSuffix _ _ _, freeSuffix_le _ _ _ _⟩⟩
    | succ i =>
      rw [List.getElem?_cons_succ] at hf
      have hrepeats : seen.countP f.name.same +
          ((e :: rest).take (i + 1)).countP (fun e => f.name.same e.name) =
          (e.name :: seen).countP f.name.same +
            (rest.take i).countP (fun e => f.name.same e.name) := by
        rw [List.take_succ_cons, List.countP_cons, List.countP_cons]
        omega
      rw [hrepeats]
      -- A name that is kept was taken before, and one that is given out is taken from then on.
      split at hg
      · next hfirst =>
        rw [if_pos hfirst, List.take_succ_cons, List.map_cons]
        refine (ih hrest hf hg).of_taken (fun l => ?_) (by simp)
        have := htaken e (by simp)
        grind
      · next hlater =>
        rw [if_neg hlater, List.take_succ_cons, List.map_cons]
        refine (ih (fun g hg => .tail _ (hrest g hg)) hf hg).of_taken (fun l => ?_) ?_
        · grind
        · simp only [List.length_append, List.length_cons]
          omega

/-- Every function is named after those that come before it. -/
theorem renameOverloads_numberedAs {fs : List Function} {i : Nat} {f g : Function}
    (hf : fs[i]? = some f) (hg : (renameOverloads fs)[i]? = some g) :
    f.NumberedAs (fs.map (·.name) ++ ((renameOverloads fs).take i).map (·.name))
      ((fs.take i).countP fun e => f.name.same e.name) g := by
  have h := renameFrom_numberedAs (fun f hf => List.mem_map_of_mem hf) hf hg
  rwa [List.countP_nil, Nat.zero_add] at h

theorem Function.NumberedAs.isText {taken : List Label} {repeats : Nat} {f g : Function}
    (h : f.NumberedAs taken repeats g) (hlater : 0 < repeats) : g.name.isText = true := by
  obtain ⟨n, hname, -⟩ := h.later hlater
  rw [hname]
  rfl

/-- No two names are the same: names that are given out are texts, and of those that are kept
none is repeated before it. -/
theorem pairwise_same_renameOverloads (fs : List Function) :
    (renameOverloads fs).Pairwise fun g g' => g.name.same g'.name = false := by
  rw [List.pairwise_iff_getElem]
  intro i j hi hj hij
  have hlength := length_renameOverloads fs
  have hne : (renameOverloads fs)[i].name ≠ (renameOverloads fs)[j].name :=
    List.pairwise_iff_getElem.1 (List.pairwise_map.1 (nodup_renameOverloads fs)) i j hi hj hij
  have hi' := renameOverloads_numberedAs (List.getElem?_eq_getElem (by omega))
    (List.getElem?_eq_getElem hi)
  have hj' := renameOverloads_numberedAs (List.getElem?_eq_getElem (by omega))
    (List.getElem?_eq_getElem hj)
  rw [← Bool.not_eq_true]
  intro hsame
  rcases Nat.eq_zero_or_pos ((fs.take i).countP fun e => fs[i].name.same e.name) with
    hfirst | hlater
  · rcases Nat.eq_zero_or_pos ((fs.take j).countP fun e => fs[j].name.same e.name) with
      hfirst' | hlater'
    · rw [hi'.first hfirst, hj'.first hfirst', Label.same_comm] at hsame
      refine List.countP_eq_zero.1 hfirst' fs[i] ?_ hsame
      exact List.mem_take_iff_getElem.2 ⟨i, by omega, rfl⟩
    · exact hne ((Label.same_iff_eq (hj'.isText hlater')).1 (Label.same_comm _ _ ▸ hsame)).symm
  · exact hne ((Label.same_iff_eq (hi'.isText hlater)).1 hsame)

/-! ## Free numbers -/

/-- The numbers that are free for a name among all names, in ascending order, after a 0 for the
function that keeps the name. -/
def overloadNumber (names : List Label) (base : Label) : Nat → Nat
  | 0 => 0
  | k + 1 => freeSuffix names base (overloadNumber names base k + 1) names.length

/-- The name of a function with `rank` functions of its name before it. -/
def overloadName (names : List Label) (base : Label) (rank : Nat) : Label :=
  if rank = 0 then base else numbered base (overloadNumber names base rank)

section Numbers

variable {names : List Label} {base : Label}

theorem overloadNumber_strictMono : StrictMono (overloadNumber names base) :=
  strictMono_nat_of_lt_succ fun _ => le_freeSuffix _ _ _ _

theorem overloadNumber_not_mem {k : Nat} (hk : 0 < k) :
    numbered base (overloadNumber names base k) ∉ names := by
  obtain ⟨k, rfl⟩ := Nat.exists_eq_succ_of_ne_zero hk.ne'
  exact freeSuffix_not_mem _ _ _

/-- No free number is left out. -/
theorem exists_overloadNumber {n k : Nat} (hn : 0 < n) (hfree : numbered base n ∉ names)
    (hlt : n < overloadNumber names base k) :
    ∃ j, 0 < j ∧ j < k ∧ overloadNumber names base j = n := by
  induction k with
  | zero => exact absurd hlt (Nat.not_lt_zero n)
  | succ k ih =>
    have hle : n ≤ overloadNumber names base k := by
      by_contra h
      exact hfree (taken_of_lt_freeSuffix (by omega) hlt)
    rcases hle.eq_or_lt with rfl | hlt
    · refine ⟨k, ?_, k.lt_succ_self, rfl⟩
      by_contra hk
      obtain rfl : k = 0 := by omega
      exact absurd hn (lt_irrefl 0)
    · obtain ⟨j, hj, hjk, he⟩ := ih hlt
      exact ⟨j, hj, hjk.trans k.lt_succ_self, he⟩

/-- The names count only as a set. -/
theorem overloadNumber_congr {names' : List Label} (hmem : ∀ l, l ∈ names ↔ l ∈ names') (k : Nat) :
    overloadNumber names base k = overloadNumber names' base k := by
  induction k with
  | zero => rfl
  | succ k ih =>
    have hleast := isLeast_freeSuffix names base (overloadNumber names base k + 1)
    simp only [hmem, ih] at hleast
    rw [overloadNumber, overloadNumber, ih]
    exact hleast.unique (isLeast_freeSuffix names' base _)

theorem overloadName_congr {names' : List Label} (hmem : ∀ l, l ∈ names ↔ l ∈ names') (k : Nat) :
    overloadName names base k = overloadName names' base k := by
  rw [overloadName, overloadName, overloadNumber_congr hmem]

end Numbers

/-! ## Ranks -/

/-- Each name with the number of equal ones before it, `seen` among them. -/
def ranksFrom (seen : List Label) : List Label → List (Label × Nat)
  | [] => []
  | l :: rest => (l, seen.count l) :: ranksFrom (l :: seen) rest

theorem ranksFrom_congr {seen seen' : List Label} (h : seen.Perm seen') (ls : List Label) :
    ranksFrom seen ls = ranksFrom seen' ls := by
  induction ls generalizing seen seen' with
  | nil => rfl
  | cons l ls ih => rw [ranksFrom, ranksFrom, h.count_eq, ih (h.cons l)]

/-- In another order the ranks of a name are handed out in another order. -/
theorem ranksFrom_perm {ls ls' : List Label} (h : ls.Perm ls') (seen : List Label) :
    (ranksFrom seen ls).Perm (ranksFrom seen ls') := by
  induction h generalizing seen with
  | nil => exact .refl _
  | cons l _ ih => exact (ih (l :: seen)).cons _
  | swap a b ls =>
    by_cases hne : a = b
    · subst hne
      exact .refl _
    · simp only [ranksFrom, List.count_cons_of_ne hne, List.count_cons_of_ne (Ne.symm hne)]
      rw [ranksFrom_congr (.swap b a seen)]
      exact .swap _ _ _
  | trans _ _ ih ih' => exact (ih seen).trans (ih' seen)

/-! ## Names in any order -/

theorem underscore_not_mem_nat (n : Nat) : '_' ∉ (toString n).toList := by
  rw [Nat.toString_eq_repr, Nat.toList_repr]
  intro h
  exact absurd (Nat.isDigit_of_mem_toDigits (by decide) (by decide) h) (by decide)

/-- Numbered names of different texts are different. -/
theorem numbered_inj {a b : Label} (ha : a.isText = true) (hb : b.isText = true) {m n : Nat}
    (h : numbered a m = numbered b n) : a = b ∧ m = n := by
  have htext : a.spoken ++ "_" ++ toString m = b.spoken ++ "_" ++ toString n := by
    simpa [numbered] using h
  rcases join_eq_join_iff.1 htext with ⟨hbase, hnumber⟩ | hoverlap | hoverlap
  · exact ⟨Label.eq_of_spoken ha hb hbase, toString_nat_injective hnumber⟩
  · exact absurd hoverlap.mem_second (underscore_not_mem_nat m)
  · exact absurd hoverlap.mem_second (underscore_not_mem_nat n)

/-- Of the numbered names, those are taken that a function was declared with, and as many of the
free ones as there were repeats among the declared names `seen`. -/
def TakenBy (names seen taken : List Label) : Prop :=
  ∀ base : Label, base.isText = true → ∀ n > 0, numbered base n ∈ taken ↔
    numbered base n ∈ names ∨ ∃ k, 0 < k ∧ k < seen.count base ∧ overloadNumber names base k = n

namespace TakenBy

variable {names seen taken : List Label}

theorem start (names : List Label) : TakenBy names [] names := fun base _ n _ => by simp

/-- The search after some repeats finds the free number after those that they got. -/
theorem freeSuffix_eq (h : TakenBy names seen taken) {base : Label} (hbase : base.isText = true)
    (hlater : 0 < seen.count base) :
    freeSuffix taken base (seen.count base) taken.length =
      overloadNumber names base (seen.count base) := by
  have hmono : StrictMono (overloadNumber names base) := overloadNumber_strictMono
  refine (isLeast_freeSuffix taken base _).unique ⟨⟨hmono.id_le _, fun hmem => ?_⟩, fun m hm => ?_⟩
  · rcases (h base hbase _ (hlater.trans_le (hmono.id_le _))).1 hmem with hname | ⟨k, -, hk, he⟩
    · exact overloadNumber_not_mem hlater hname
    · exact hk.ne (hmono.injective he)
  · -- A lower number is free for the name only if a repeat before got it.
    by_contra hlt
    have hpos : 0 < m := hlater.trans_le hm.1
    have hfree : numbered base m ∉ names := fun hname => hm.2 ((h base hbase m hpos).2 (.inl hname))
    exact hm.2 ((h base hbase m hpos).2
      (.inr (exists_overloadNumber hpos hfree (not_le.1 hlt))))

/-- The first function with a name takes none of the free ones. -/
theorem first (h : TakenBy names seen taken) {l : Label} (hfirst : seen.count l = 0) :
    TakenBy names (l :: seen) taken := by
  intro base hbase n hn
  rw [h base hbase n hn]
  by_cases hl : l = base
  · subst hl
    simp only [List.count_cons_self, hfirst]
    refine or_congr_right (exists_congr fun k => ?_)
    omega
  · rw [List.count_cons_of_ne hl]

/-- A repeat takes the next one. -/
theorem later (h : TakenBy names seen taken) {l : Label} (hl : l.isText = true)
    (hlater : 0 < seen.count l) :
    TakenBy names (l :: seen) (numbered l (overloadNumber names l (seen.count l)) :: taken) := by
  intro base hbase n hn
  rw [List.mem_cons, h base hbase n hn]
  by_cases hne : l = base
  · subst hne
    rw [List.count_cons_self, (numbered_injective l).eq_iff]
    constructor
    · rintro (rfl | hname | ⟨k, hk, hlt, he⟩)
      · exact .inr ⟨_, hlater, Nat.lt_succ_self _, rfl⟩
      · exact .inl hname
      · exact .inr ⟨k, hk, hlt.trans (Nat.lt_succ_self _), he⟩
    · rintro (hname | ⟨k, hk, hlt, rfl⟩)
      · exact .inr (.inl hname)
      · rcases (Nat.lt_succ_iff.1 hlt).eq_or_lt with rfl | hlt
        · exact .inl rfl
        · exact .inr (.inr ⟨k, hk, hlt, rfl⟩)
  · rw [List.count_cons_of_ne hne]
    exact or_iff_right fun he => hne (numbered_inj hl hbase he.symm).1

end TakenBy

/-- Functions with texts for names get the names of their ranks. -/
theorem renameFrom_overloadNames {names seen taken : List Label} {fs : List Function}
    (htaken : TakenBy names seen taken) (htexts : ∀ f ∈ fs, f.name.isText = true) :
    (renameFrom seen taken fs).map (fun g => (g.declaredName, g.name)) =
      (ranksFrom seen (fs.map (·.name))).map fun r => (r.1, overloadName names r.1 r.2) := by
  induction fs generalizing seen taken with
  | nil => rfl
  | cons f rest ih =>
    have hf : f.name.isText = true := htexts f (by simp)
    have hrest : ∀ g ∈ rest, g.name.isText = true := fun g hg => htexts g (.tail _ hg)
    have hcount : seen.countP f.name.same = seen.count f.name :=
      List.countP_congr fun l _ => by rw [Label.same_iff_eq hf, beq_iff_eq, eq_comm]
    unfold renameFrom
    dsimp only
    rw [hcount, List.map_cons, ranksFrom, List.map_cons]
    split
    · next hfirst =>
      rw [List.map_cons, ih (htaken.first hfirst) hrest, overloadName, if_pos hfirst]
    · next hlater =>
      have hpos : 0 < seen.count f.name := Nat.pos_of_ne_zero hlater
      rw [htaken.freeSuffix_eq hf hpos, List.map_cons, ih (htaken.later hf hpos) hrest,
        overloadName, if_neg hlater]

/-- The order of the functions does not matter for the names that each declared name leads to. -/
theorem renameOverloads_perm {fs fs' : List Function} (hperm : fs.Perm fs')
    (htexts : ∀ f ∈ fs, f.name.isText = true) :
    ((renameOverloads fs).map fun g => (g.declaredName, g.name)).Perm
      ((renameOverloads fs').map fun g => (g.declaredName, g.name)) := by
  have hnames : (fs.map (·.name)).Perm (fs'.map (·.name)) := hperm.map _
  rw [renameOverloads, renameOverloads, renameFrom_overloadNames (.start _) htexts,
    renameFrom_overloadNames (.start _) fun f hf => htexts f (hperm.mem_iff.2 hf)]
  simp only [overloadName_congr fun l => hnames.mem_iff]
  exact (ranksFrom_perm hnames []).map _

/-- What is left of renamed functions has the same names in every order, if functions of one name
all stay or all go. -/
theorem renameOverloads_filter_perm {fs fs' : List Function} (hperm : fs.Perm fs')
    (htexts : ∀ f ∈ fs, f.name.isText = true) {keep : Function → Bool}
    (hkeep : ∀ f g, Function.Renames f g → keep g = keep f)
    (htogether : ∀ f ∈ fs, ∀ f' ∈ fs, f.name = f'.name → keep f = keep f') :
    (((renameOverloads fs).filter keep).map (·.name)).Perm
      (((renameOverloads fs').filter keep).map (·.name)) := by
  -- Whether a function is kept shows in its declared name, since functions of one name go together.
  let stays : Label → Bool := fun name => fs.any fun f => f.name = name && keep f
  have hstays : ∀ f ∈ fs, stays f.name = keep f := fun f hf => by
    cases hf' : keep f with
    | true => exact List.any_eq_true.2 ⟨f, hf, by simp [hf']⟩
    | false =>
      refine List.any_eq_false.2 fun f' hmem => ?_
      rw [Bool.and_eq_true, decide_eq_true_eq]
      rintro ⟨hname, hf''⟩
      exact Bool.false_ne_true ((htogether f hf f' hmem hname.symm ▸ hf').symm.trans hf'')
  have hfilter {gs : List Function} (hgs : ∀ f ∈ gs, f ∈ fs) :
      ((renameOverloads gs).filter keep).map (·.name) =
        (((renameOverloads gs).map fun g => (g.declaredName, g.name)).filter
          fun x => stays x.1).map (·.2) := by
    rw [List.filter_map, List.map_map]
    refine congrArg (List.map _) (List.filter_congr fun g hg => ?_)
    obtain ⟨f, hf, hfg⟩ := exists_of_mem_right (renameOverloads_renames gs) hg
    have hdeclared : g.declaredName = f.name := by rw [hfg.eq]
    rw [hkeep f g hfg, Function.comp_apply, hdeclared, hstays f (hgs f hf)]
  rw [hfilter fun f hf => hf, hfilter fun f hf => hperm.mem_iff.2 hf]
  exact ((renameOverloads_perm hperm htexts).filter _).map _

/-- The name of the first function is left if that function is. -/
theorem mem_renameOverloads_filter_iff {f : Function} {rest : List Function}
    {keep : Function → Bool} (hkeep : ∀ f g, Function.Renames f g → keep g = keep f) :
    f.name ∈ ((renameOverloads (f :: rest)).filter keep).map (·.name) ↔ keep f = true := by
  let first : Function := { f with declaredName := f.name }
  have hcons : renameOverloads (f :: rest) =
      first :: renameFrom [f.name] ((f :: rest).map (·.name)) rest := by
    rw [renameOverloads, renameFrom]
    exact if_pos rfl
  have hfirst : keep first = keep f := hkeep f first ⟨rfl, .inl rfl⟩
  have hnodup := nodup_renameOverloads (f :: rest)
  rw [hcons, List.map_cons, List.nodup_cons] at hnodup
  rw [hcons, List.mem_map]
  constructor
  · rintro ⟨g, hg, hname⟩
    obtain ⟨hmem, hg⟩ := List.mem_filter.1 hg
    rcases List.mem_cons.1 hmem with rfl | hmem
    · exact hfirst ▸ hg
    · exact absurd (List.mem_map.2 ⟨g, hmem, hname⟩) hnodup.1
  · intro hf
    exact ⟨first, List.mem_filter.2 ⟨.head _, hfirst.trans hf⟩, rfl⟩

/-! ## All about the names -/

theorem Function.Renames.lookupName_iff {f g : Function} (h : f.Renames g) :
    g.lookupName = f.name ↔ (f.name.isEmpty = true → g.name = f.name) := by
  have hdeclared : g.declaredName = f.name := by rw [h.eq]
  rw [lookupName, hdeclared]
  cases f.name.isEmpty <;> simp

/-- Renaming changes nothing but names, and no two names are the same afterwards. The first function
with a name keeps it, and a later one gets the least free number from its rank among the repeats on.
All are looked up by the names that they were declared with, unless that is empty and changed. The
names that are given out are the same for all orders of the functions. -/
theorem names_of_overloads (fs : List Function) :
    (List.Forall₂ (fun f g => g = { f with name := g.name, declaredName := f.name } ∧
      (g.lookupName = f.name ↔ (f.name.isEmpty = true → g.name = f.name)))
      fs (renameOverloads fs)) ∧
    ((renameOverloads fs).Pairwise fun g g' => g.name.same g'.name = false) ∧
    (∀ (i : Nat) (f g : Function), fs[i]? = some f → (renameOverloads fs)[i]? = some g →
      f.NumberedAs (fs.map (·.name) ++ ((renameOverloads fs).take i).map (·.name))
        ((fs.take i).countP fun e => f.name.same e.name) g) ∧
    ∀ fs' : List Function, fs.Perm fs' → (∀ f ∈ fs, f.name.isText = true) →
      ((renameOverloads fs).map fun g => (g.declaredName, g.name)).Perm
        ((renameOverloads fs').map fun g => (g.declaredName, g.name)) :=
  ⟨(renameOverloads_renames fs).imp fun _ _ h => ⟨h.eq, h.lookupName_iff⟩,
    pairwise_same_renameOverloads fs, fun _ _ _ => renameOverloads_numberedAs,
    fun _ => renameOverloads_perm⟩

/-- A function that takes nothing. -/
def functionNamed (name : String) : Function := { name := .text name, flags := 1024 }

/-- Repeats of two names, one of which looks like a numbered one. -/
def repeatedFunctions : List Function := ["Foo", "Foo_1", "Foo", "Foo_1", "Foo"].map functionNamed

/-- The names that five functions get are those that they get in the opposite order. -/
theorem names_of_overloads_reversed :
    repeatedFunctions.Perm repeatedFunctions.reverse ∧
    (∀ f ∈ repeatedFunctions, f.name.isText = true) ∧
    ((renameOverloads repeatedFunctions.reverse).map (·.name)).Perm
      (["Foo", "Foo_1", "Foo_2", "Foo_1_1", "Foo_3"].map .text) := by
  have hperm : repeatedFunctions.Perm repeatedFunctions.reverse := (List.reverse_perm _).symm
  have htexts : ∀ f ∈ repeatedFunctions, f.name.isText = true := by decide
  refine ⟨hperm, htexts, ?_⟩
  have hnames := ((names_of_overloads repeatedFunctions).2.2.2 _ hperm htexts).map Prod.snd
  rw [List.map_map, List.map_map] at hnames
  exact hnames.symm.trans (.of_eq (by decide))

/-- The second of two functions whose names are empty is looked up by the name that it got. -/
theorem unnamed_repeat_looked_up_by_number :
    let fs := [functionNamed "", functionNamed ""]
    ∃ f g, fs[1]? = some f ∧ (renameOverloads fs)[1]? = some g ∧ f.name = .text "" ∧
      g.lookupName = .text "_1" :=
  ⟨_, _, rfl, rfl, rfl, rfl⟩

end Bindery
