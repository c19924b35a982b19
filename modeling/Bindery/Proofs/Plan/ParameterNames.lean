import Bindery.Proofs.Plan.Alignment
import Bindery.Proofs.Render.BaseMembers
import Bindery.Proofs.Text.Words

/-!
# Names of parameters

A declared parameter gives a name to the method of its class and several names to the host's closure
and to the C++ wrapper, which are made with suffixes. Names that were distinct can be confused on
the way: by the escape that keeps them clear of `bodyNames`, and by suffixes.

* `Label.parameterName`: the name that a declared name gets in call plans.
* `ParamPart`, `Suffixes`: what a parameter is flattened to, and how the parts are named.
* `Suffixes.append_eq_append_iff`: when two names with suffixes are one.
* `ParamPlan.slotParts`, `cppParts`: the parts in the host's closure and in the wrapper.
* `ParamPlan.EscapesTo`, `SlotsMeet`, `WrappersMeet`: parameters that are confused.
* `parameter_names_distinct_iff`: the names of each signature are distinct up to these.
* `parameter_names_repeated`: a function with distinct names of which no signature has.
-/

namespace Bindery

/-! ## Escaped names -/

/-- The name of a parameter in call plans: its identifier, kept clear of `bodyNames`. -/
def Label.parameterName (l : Label) : String :=
  if bodyNames.contains l.identifier then l.identifier ++ "_" else l.identifier

private theorem append_underscore_not_mem_bodyNames (s : String) :
    s ++ "_" ∉ bodyNames := fun h => by
  have hends : ∀ r ∈ bodyNames, r.toList.getLast? ≠ some '_' := by decide
  -- None of the names ends in an underscore.
  exact hends _ h (by simp)

private theorem append_underscore_ne_self (s : String) : s ++ "_" ≠ "self" := fun h =>
  absurd (congrArg (fun t => t.toList.getLast?) h) (by simp)

namespace Label

/-- Names in call plans are clear of the names that bodies use. -/
theorem parameterName_not_mem (l : Label) : l.parameterName ∉ bodyNames := by
  unfold parameterName
  split
  · exact append_underscore_not_mem_bodyNames _
  · next h => exact fun hname => h (List.contains_iff_mem.2 hname)

theorem identifier_ne_self (l : Label) : l.identifier ≠ "self" := by
  unfold identifier Naming.escapeReserved
  split
  · exact append_underscore_ne_self _
  · next hreserved => exact fun h => hreserved (h ▸ by decide)

theorem parameterName_ne_self (l : Label) : l.parameterName ≠ "self" := by
  unfold parameterName
  split
  · exact append_underscore_ne_self _
  · exact l.identifier_ne_self

/-- Distinct identifiers get one name just if one is a name of `bodyNames` and the other one is what
it is escaped to. -/
theorem parameterName_eq_iff {l m : Label} (h : l.identifier ≠ m.identifier) :
    l.parameterName = m.parameterName ↔
      (l.identifier ∈ bodyNames ∧ m.identifier = l.identifier ++ "_") ∨
        m.identifier ∈ bodyNames ∧ l.identifier = m.identifier ++ "_" := by
  unfold parameterName
  simp only [List.contains_iff_mem]
  by_cases hl : l.identifier ∈ bodyNames <;> by_cases hm : m.identifier ∈ bodyNames
  · simp only [hl, hm, if_true, String.append_left_inj, h, false_iff]
    rintro (⟨-, hsuffix⟩ | ⟨-, hsuffix⟩)
    · exact append_underscore_not_mem_bodyNames _ (hsuffix ▸ hm)
    · exact append_underscore_not_mem_bodyNames _ (hsuffix ▸ hl)
  · simp [hl, hm, eq_comm]
  · simp [hl, hm]
  · simp [hl, hm, h]

end Label

/-! ## Suffixes -/

/-- What a parameter is flattened to: itself, the two places of a container, data and its length, a
buffer with its capacity and the length that is written, or the place of a result. -/
inductive ParamPart where
  | own | base | prop | data | length | buffer | capacity | written | place
deriving DecidableEq

/-- How the names of parts are made. No suffix ends like another, but for lengths: capacities end
like lengths of buffers, and written lengths like lengths of places. -/
structure Suffixes where
  text : ParamPart → String
  own : text .own = ""
  capacity : text .capacity = text .buffer ++ text .length
  written : text .written = text .place ++ text .length
  apart : ∀ a b, a ≠ .own → (text a).toList <:+ (text b).toList →
    a = b ∨ a = .length ∧ (b = .capacity ∨ b = .written)

namespace Suffixes

variable (f : Suffixes)

/-- The name `m` with the suffix of a part is the name `n`, which `m` starts with, with the suffix
of a part. -/
inductive Reaches : String → ParamPart → String → ParamPart → Prop where
  | same {n : String} {b : ParamPart} : Reaches n b n b
  | own {n : String} {b : ParamPart} : Reaches (n ++ f.text b) .own n b
  | capacity {n : String} : Reaches (n ++ f.text .buffer) .length n .capacity
  | written {n : String} : Reaches (n ++ f.text .place) .length n .written

variable {f}

/-- Names that reach each other by their suffixes are one with them. -/
theorem Reaches.append_eq {m n : String} {a b : ParamPart} (h : f.Reaches m a n b) :
    m ++ f.text a = n ++ f.text b := by
  cases h with
  | same => rfl
  | own => rw [f.own, String.append_empty]
  | capacity => rw [f.capacity, String.append_assoc]
  | written => rw [f.written, String.append_assoc]

theorem Reaches.isPrefix {m n : String} {a b : ParamPart} (h : f.Reaches m a n b) :
    n.toList <+: m.toList := by
  cases h with
  | same => exact List.prefix_rfl
  | own | capacity | written => simp

/-- The shorter suffix is that of the longer name. -/
private theorem reaches_of_append_eq {m n : String} {a b : ParamPart} {middle : List Char}
    (hm : m.toList = n.toList ++ middle) (hb : (f.text b).toList = middle ++ (f.text a).toList) :
    f.Reaches m a n b := by
  have hsplit {s t : String} (h : (s ++ t).toList = middle ++ t.toList) : m = n ++ s := by
    rw [String.toList_append] at h
    exact String.toList_inj.1 (by rw [hm, String.toList_append, List.append_cancel_right h])
  by_cases ha : a = .own
  · subst ha
    obtain rfl : m = n ++ f.text b := hsplit (t := "") (by simpa [f.own] using hb)
    exact .own
  · -- Only lengths end other suffixes, and what stands before them is a suffix of its own.
    rcases f.apart a b ha ⟨middle, hb.symm⟩ with rfl | ⟨rfl, rfl | rfl⟩
    · obtain rfl : m = n := by simpa using hsplit (s := "") (t := f.text a) (by simpa using hb)
      exact .same
    · obtain rfl := hsplit (f.capacity ▸ hb)
      exact .capacity
    · obtain rfl := hsplit (f.written ▸ hb)
      exact .written

/-- Names with suffixes are one just if one of the names reaches the other. -/
theorem append_eq_append_iff {m n : String} {a b : ParamPart} :
    m ++ f.text a = n ++ f.text b ↔ f.Reaches m a n b ∨ f.Reaches n b m a := by
  constructor
  · intro h
    have hlists : m.toList ++ (f.text a).toList = n.toList ++ (f.text b).toList := by
      simpa using congrArg String.toList h
    rcases List.append_eq_append_iff.1 hlists with ⟨middle, hn, ha⟩ | ⟨middle, hm, hb⟩
    · exact .inr (reaches_of_append_eq hn ha)
    · exact .inl (reaches_of_append_eq hm hb)
  · rintro (h | h)
    · exact h.append_eq
    · exact h.append_eq.symm

/-! ### Flattened parameters -/

/-- The names of a parameter's parts. -/
def names (f : Suffixes) (name : String) (parts : List ParamPart) : List String :=
  parts.map fun part => name ++ f.text part

/-- A part of one parameter and a part of another one have the same name, which starts with that of
the latter. -/
def Meet (f : Suffixes) (m : String) (parts : List ParamPart) (n : String)
    (parts' : List ParamPart) : Prop :=
  ∃ a ∈ parts, ∃ b ∈ parts', f.Reaches m a n b

/-- Two parameters share no name just if neither is confused with the other. -/
private theorem disjoint_names_iff {m n : String} {parts parts' : List ParamPart} :
    List.Disjoint (f.names m parts) (f.names n parts') ↔
      ¬ f.Meet m parts n parts' ∧ ¬ f.Meet n parts' m parts := by
  constructor
  · intro h
    refine ⟨?_, ?_⟩
    · rintro ⟨a, ha, b, hb, hreaches⟩
      exact h (List.mem_map_of_mem ha) (List.mem_map.2 ⟨b, hb, hreaches.append_eq.symm⟩)
    · rintro ⟨b, hb, a, ha, hreaches⟩
      exact h (List.mem_map_of_mem ha) (List.mem_map.2 ⟨b, hb, hreaches.append_eq⟩)
  · rintro ⟨hm, hn⟩ s hs hs'
    obtain ⟨a, ha, rfl⟩ := List.mem_map.1 hs
    obtain ⟨b, hb, heq⟩ := List.mem_map.1 hs'
    rcases append_eq_append_iff.1 heq with h | h
    · exact hn ⟨b, hb, a, ha, h⟩
    · exact hm ⟨a, ha, b, hb, h⟩

/-- Names of which neither starts like the other are not confused, whatever their parts. -/
theorem not_meet_of_not_isPrefix {m n : String} {parts parts' : List ParamPart}
    (h : ¬ n.toList <+: m.toList) : ¬ f.Meet m parts n parts' := by
  rintro ⟨a, -, b, -, hreaches⟩
  exact h hreaches.isPrefix

/-- The parts of several parameters have distinct names if no two parameters are confused. -/
theorem nodup_flatMap_names {α : Type} {name : α → String} {parts : α → List ParamPart}
    {xs : List α} (h : ∀ x ∈ xs, ((parts x).map f.text).Nodup) :
    (xs.flatMap fun x => f.names (name x) (parts x)).Nodup ↔
      xs.Pairwise fun x y => ¬ f.Meet (name x) (parts x) (name y) (parts y) ∧
        ¬ f.Meet (name y) (parts y) (name x) (parts x) := by
  have hown : ∀ x ∈ xs, (f.names (name x) (parts x)).Nodup := fun x hx => by
    have hsplit : f.names (name x) (parts x) = ((parts x).map f.text).map (name x ++ ·) :=
      (List.map_map).symm
    rw [hsplit]
    exact (h x hx).map fun s t => (String.append_right_inj _).1
  rw [List.nodup_flatMap, and_iff_right hown]
  exact List.Pairwise.iff fun _ _ => disjoint_names_iff

end Suffixes

/-- The suffixes in the host's closure. -/
def slotSuffixes : Suffixes where
  text
    | .own => ""
    | .base => "_base"
    | .prop => "_prop"
    | .data => "_ptr"
    | .length => "_len"
    | .buffer => "_buf"
    | .capacity => "_buf_len"
    | .written => "_out_len"
    | .place => "_out"
  own := rfl
  capacity := rfl
  written := rfl
  apart a b := by cases a <;> cases b <;> decide

/-- The suffixes in C++ wrappers, which have no use for the last one. -/
def cppSuffixes : Suffixes where
  text
    | .own => ""
    | .base => "Base"
    | .prop => "Prop"
    | .data => "Data"
    | .length => "Len"
    | .buffer => "Buf"
    | .capacity => "BufLen"
    | .written => "OutLen"
    | .place => "Out"
  own := rfl
  capacity := rfl
  written := rfl
  apart a b := by cases a <;> cases b <;> decide

/-! ## One parameter -/

namespace ParamPlan

/-- The parts in the host's closure. -/
def slotParts (p : ParamPlan) : List ParamPart :=
  match p.passing, p.direction with
  | .container, _ => [.base, .prop]
  | .text, .input => [.data, .length]
  | .text, .inOut => [.data, .length, .buffer, .capacity, .written]
  | .text, _ => [.buffer, .capacity, .written]
  | .struct, _ => [.data, .length]
  | .scalar, .input | .scalar, .inOut => [.own]
  | .scalar, _ => [.place]

/-- The parts in the C++ wrapper. Structs and the places of results are passed as a pointer. -/
def cppParts (p : ParamPlan) : List ParamPart :=
  match p.passing, p.direction with
  | .container, _ => [.base, .prop]
  | .text, .input => [.data, .length]
  | .text, .inOut => [.data, .length, .buffer, .capacity, .written]
  | .text, _ => [.buffer, .capacity, .written]
  | .struct, _ | .scalar, _ => [.own]

variable (p q : ParamPlan)

/-- The names in the host's closure are those of the parts, in their order. -/
theorem slots_names : p.slots.map (·.name) = slotSuffixes.names p.name p.slotParts := by
  unfold slots slotParts
  cases p.passing <;> cases p.direction <;>
    simp [Suffixes.names, slotSuffixes, var, String.append_assoc]

theorem cppParams_names :
    p.cppParams.map (·.name) = cppSuffixes.names (pascalCase p.name) p.cppParts := by
  unfold cppParams cppParts
  cases p.passing <;> cases p.direction <;> simp [Suffixes.names, cppSuffixes]

private theorem nodup_slotParts : (p.slotParts.map slotSuffixes.text).Nodup := by
  unfold slotParts
  cases p.passing <;> cases p.direction <;> decide

private theorem nodup_cppParts : (p.cppParts.map cppSuffixes.text).Nodup := by
  unfold cppParts
  cases p.passing <;> cases p.direction <;> decide

/-- The identifier of `p` is escaped to that of `q`. -/
def EscapesTo : Prop :=
  p.param.name.identifier ∈ bodyNames ∧
    q.param.name.identifier = p.param.name.identifier ++ "_"

/-- A slot of `p` has the name of a slot of `q`, which starts with the name of `q`. -/
def SlotsMeet : Prop := slotSuffixes.Meet p.name p.slotParts q.name q.slotParts

/-- A C++ parameter for `p` has the name of one for `q`, which starts with the C++ name of `q`. -/
def WrappersMeet : Prop :=
  cppSuffixes.Meet (pascalCase p.name) p.cppParts (pascalCase q.name) q.cppParts

variable {p q}

/-- The receivers of the host's closure are no slots of parameters. -/
theorem receivers_not_mem_slots (h : p.name ∉ bodyNames) :
    "caller" ∉ p.slots.map (·.name) ∧ "obj" ∉ p.slots.map (·.name) := by
  have hends {receiver : String} (hbody : receiver ∈ bodyNames)
      (hplain : ∀ part ≠ .own, ¬ (slotSuffixes.text part).toList <:+ receiver.toList) :
      receiver ∉ p.slots.map (·.name) := by
    rw [slots_names]
    intro hmem
    obtain ⟨part, -, rfl⟩ := List.mem_map.1 hmem
    by_cases hpart : part = .own
    · subst hpart
      rw [slotSuffixes.own, String.append_empty] at hbody
      exact h hbody
    · exact hplain part hpart (by simp)
  constructor
  · exact hends (by decide) fun part => by cases part <;> decide
  · exact hends (by decide) fun part => by cases part <;> decide

/-- Only a parameter that is passed as itself can be named like the object, since no suffix ends
like that name. -/
theorem object_mem_cppParams_iff :
    "Obj" ∈ p.cppParams.map (·.name) ↔ .own ∈ p.cppParts ∧ pascalCase p.name = "Obj" := by
  have hplain : ∀ part ≠ .own, ¬ (cppSuffixes.text part).toList <:+ "Obj".toList := fun part => by
    cases part <;> decide
  rw [cppParams_names]
  constructor
  · intro h
    obtain ⟨part, hpart, hname⟩ := List.mem_map.1 h
    by_cases hown : part = .own
    · subst hown
      rw [cppSuffixes.own, String.append_empty] at hname
      exact ⟨hpart, hname⟩
    · exact absurd (hname ▸ by simp) (hplain part hown)
  · rintro ⟨hpart, hname⟩
    exact List.mem_map.2 ⟨.own, hpart, by rw [hname, cppSuffixes.own, String.append_empty]⟩

end ParamPlan

/-! ## One plan -/

namespace CallPlan

variable {ctx : Context} {e : Entry} {plan : CallPlan}

/-- The parameters of the method, each a name and what follows it. -/
def signatureParams (plan : CallPlan) : List (String × String) :=
  (if plan.isStatic then [] else [("self", "")]) ++ plan.inputs.map fun p =>
    (p.name, ": " ++ p.inputHint plan.context ++
      if p.default.isSome then " | None = None" else "")

/-- The signature is the text of these parameters. -/
theorem signature_eq (plan : CallPlan) :
    plan.signature = ", ".intercalate (plan.signatureParams.map fun p => p.1 ++ p.2) := by
  have hinput : plan.inputText = (fun p : String × String => p.1 ++ p.2) ∘ fun p : ParamPlan =>
      (p.name, ": " ++ p.inputHint plan.context ++
        if p.default.isSome then " | None = None" else "") := by
    funext p
    simp [inputText, String.append_assoc]
  rw [signature, signatureParams, List.map_append, List.map_map, hinput]
  cases plan.isStatic <;> simp

/-- The name of a parameter in its plan is decided by the declared name alone. -/
theorem name_eq {q : ParamPlan} (hq : q ∈ (CallPlan.of ctx e).params) :
    q.name = q.param.name.parameterName := by
  obtain ⟨p, -, hplan⟩ := exists_of_mem_right (CallPlan.of_params ctx e) hq
  rw [hplan.param]
  exact congrArg ParamPlan.name hplan

/-- Parameters with distinct identifiers have distinct names up to the escape. -/
theorem name_ne_iff {p q : ParamPlan} (hp : p ∈ (CallPlan.of ctx e).params)
    (hq : q ∈ (CallPlan.of ctx e).params)
    (hne : p.param.name.identifier ≠ q.param.name.identifier) :
    p.name ≠ q.name ↔ ¬ p.EscapesTo q ∧ ¬ q.EscapesTo p := by
  rw [name_eq hp, name_eq hq, Ne, Label.parameterName_eq_iff hne, not_or]
  rfl

/-- The names of the method are distinct up to the escape, and `self` is none of them. -/
private theorem nodup_signatureParams_iff
    (hdistinct : (e.func.params.map (·.name.identifier)).Nodup) :
    ((CallPlan.of ctx e).signatureParams.map (·.1)).Nodup ↔
      (CallPlan.of ctx e).inputs.Pairwise fun p q => ¬ p.EscapesTo q ∧ ¬ q.EscapesTo p := by
  have hinputs : (CallPlan.of ctx e).inputs.Sublist (CallPlan.of ctx e).params :=
    List.filter_sublist
  have hpairs : (CallPlan.of ctx e).inputs.Pairwise fun p q =>
      p.param.name.identifier ≠ q.param.name.identifier := by
    rw [← map_param_params ctx e, List.map_map, List.Nodup, List.pairwise_map] at hdistinct
    exact hdistinct.sublist hinputs
  have hself : "self" ∉ (CallPlan.of ctx e).inputs.map (·.name) := fun h => by
    obtain ⟨q, hq, hname⟩ := List.mem_map.1 h
    exact q.param.name.parameterName_ne_self (name_eq (hinputs.subset hq) ▸ hname)
  have hnames : ((CallPlan.of ctx e).signatureParams.map (·.1)).Nodup ↔
      (CallPlan.of ctx e).inputs.Pairwise fun p q => p.name ≠ q.name := by
    rw [signatureParams, List.map_append, List.map_map]
    cases (CallPlan.of ctx e).isStatic
    · exact List.nodup_cons.trans ((and_iff_right hself).trans List.pairwise_map)
    · exact List.pairwise_map
  rw [hnames]
  constructor
  · intro h
    exact (hpairs.and h).imp_of_mem fun hp hq h =>
      (name_ne_iff (hinputs.subset hp) (hinputs.subset hq) h.1).1 h.2
  · intro h
    exact (hpairs.and h).imp_of_mem fun hp hq h =>
      (name_ne_iff (hinputs.subset hp) (hinputs.subset hq) h.1).2 h.2

theorem slots_names (plan : CallPlan) :
    plan.slots.map (·.name) = (if plan.isStatic then [] else ["obj"]) ++
      plan.params.flatMap fun p => slotSuffixes.names p.name p.slotParts := by
  rw [slots, List.map_append, List.map_flatMap]
  simp only [ParamPlan.slots_names]
  cases plan.isStatic <;> rfl

theorem cppParams_names (plan : CallPlan) :
    plan.cppParams.map (·.name) = (if plan.isStatic then [] else ["Obj"]) ++
      plan.params.flatMap fun p => cppSuffixes.names (pascalCase p.name) p.cppParts := by
  rw [cppParams, List.map_append, List.map_flatMap]
  simp only [ParamPlan.cppParams_names]
  cases plan.isStatic <;> rfl

/-- The names in the host's closure are distinct just if no two parameters are confused there. -/
private theorem nodup_slots_iff (h : ∀ q ∈ plan.params, q.name ∉ bodyNames) :
    ("caller" :: plan.slots.map (·.name)).Nodup ↔
      plan.params.Pairwise fun p q => ¬ p.SlotsMeet q ∧ ¬ q.SlotsMeet p := by
  have hreceivers : ("caller" :: if plan.isStatic then [] else ["obj"]).Nodup := by
    cases plan.isStatic <;> decide
  have hapart : ∀ receiver ∈ "caller" :: (if plan.isStatic then [] else ["obj"]),
      ∀ name ∈ plan.params.flatMap fun p => slotSuffixes.names p.name p.slotParts,
        receiver ≠ name := by
    rintro receiver hreceiver _ hname rfl
    obtain ⟨p, hp, hname⟩ := List.mem_flatMap.1 hname
    obtain ⟨hcaller, hobj⟩ := ParamPlan.receivers_not_mem_slots (h p hp)
    rw [← p.slots_names] at hname
    rcases List.mem_cons.1 hreceiver with rfl | hreceiver
    · exact hcaller hname
    · split at hreceiver
      · cases hreceiver
      · obtain rfl := List.mem_singleton.1 hreceiver
        exact hobj hname
  rw [slots_names, ← List.cons_append, List.nodup_append, and_iff_right hreceivers,
    and_iff_left hapart]
  exact Suffixes.nodup_flatMap_names fun p _ => p.nodup_slotParts

/-- The names in the C++ wrapper, where the object takes a name of its own. -/
private theorem nodup_cppParams_iff :
    (plan.cppParams.map (·.name)).Nodup ↔
      (plan.params.Pairwise fun p q => ¬ p.WrappersMeet q ∧ ¬ q.WrappersMeet p) ∧
      (plan.isStatic = false →
        ∀ p ∈ plan.params, .own ∈ p.cppParts → pascalCase p.name ≠ "Obj") := by
  have hdistinct : (plan.params.flatMap fun p =>
        cppSuffixes.names (pascalCase p.name) p.cppParts).Nodup ↔
      plan.params.Pairwise fun p q => ¬ p.WrappersMeet q ∧ ¬ q.WrappersMeet p :=
    Suffixes.nodup_flatMap_names fun p _ => p.nodup_cppParts
  have hobject : ("Obj" ∉ plan.params.flatMap fun p =>
        cppSuffixes.names (pascalCase p.name) p.cppParts) ↔
      ∀ p ∈ plan.params, .own ∈ p.cppParts → pascalCase p.name ≠ "Obj" := by
    simp only [List.mem_flatMap, ← ParamPlan.cppParams_names, ParamPlan.object_mem_cppParams_iff,
      not_exists, not_and, ne_eq]
  rw [cppParams_names]
  cases plan.isStatic
  · rw [← hdistinct, ← hobject]
    exact List.nodup_cons.trans (and_comm.trans (and_congr_right fun _ => by simp))
  · simp [hdistinct]

/-- Names of which none starts like another one are not confused. -/
theorem pairwise_not_slotsMeet (h : (plan.params.map (·.name)).Pairwise fun m n =>
      ¬ m.toList <+: n.toList ∧ ¬ n.toList <+: m.toList) :
    plan.params.Pairwise fun p q => ¬ p.SlotsMeet q ∧ ¬ q.SlotsMeet p :=
  (List.pairwise_map.1 h).imp fun h =>
    ⟨Suffixes.not_meet_of_not_isPrefix h.2, Suffixes.not_meet_of_not_isPrefix h.1⟩

/-- The same for the C++ names, which are compared in pascal case. -/
theorem pairwise_not_wrappersMeet
    (h : ((plan.params.map (·.name)).map pascalCase).Pairwise fun m n =>
      ¬ m.toList <+: n.toList ∧ ¬ n.toList <+: m.toList) :
    plan.params.Pairwise fun p q => ¬ p.WrappersMeet q ∧ ¬ q.WrappersMeet p :=
  (List.pairwise_map.1 (List.pairwise_map.1 h)).imp fun h =>
    ⟨Suffixes.not_meet_of_not_isPrefix h.2, Suffixes.not_meet_of_not_isPrefix h.1⟩

end CallPlan

/-! ## All signatures -/

open CallPlan Render

/-- The names of a function whose parameters have distinct identifiers. Those of the method, whose
signature is written with them, are distinct unless an identifier is escaped to another one, those
of the host's closure unless two parameters are confused by their suffixes, and those of the C++
wrapper, too, if no parameter is named like the object. -/
theorem parameter_names_distinct_iff (ctx : Context) (e : Entry)
    (hdistinct : (e.func.params.map (·.name.identifier)).Nodup) :
    let plan := CallPlan.of ctx e
    plan.signature = ", ".intercalate (plan.signatureParams.map fun p => p.1 ++ p.2) ∧
    ((plan.signatureParams.map (·.1)).Nodup ↔
      plan.inputs.Pairwise fun p q => ¬ p.EscapesTo q ∧ ¬ q.EscapesTo p) ∧
    (("caller" :: plan.slots.map (·.name)).Nodup ↔
      plan.params.Pairwise fun p q => ¬ p.SlotsMeet q ∧ ¬ q.SlotsMeet p) ∧
    ((plan.cppParams.map (·.name)).Nodup ↔
      (plan.params.Pairwise fun p q => ¬ p.WrappersMeet q ∧ ¬ q.WrappersMeet p) ∧
      (plan.isStatic = false →
        ∀ p ∈ plan.params, .own ∈ p.cppParts → pascalCase p.name ≠ "Obj")) := by
  refine ⟨signature_eq _, nodup_signatureParams_iff hdistinct, nodup_slots_iff fun q hq => ?_,
    nodup_cppParams_iff⟩
  rw [name_eq hq]
  exact Label.parameterName_not_mem _

/-! ## Confused names -/

def textParam (name : String) : Property where
  name := .text name
  kind := .string

def intParam (name : String) : Property where
  name := .text name
  kind := .int32

/-- A class with one function. -/
def logSchema (params : List Property) : Schema where
  classes := [{
    name := .text "Actor", cppName := .text "AActor", package := .text "Engine"
    funcs := [{ name := .text "Log", flags := 1024, params }] }]

/-- Neither of two names starts like the other one, in any spelling. -/
theorem parameter_names_distinct_count :
    ∃ e ∈ (Prepared.of (logSchema [textParam "Text", intParam "Count"]) pacedConfig).table,
      (e.func.params.map (·.name.identifier)).Nodup ∧
      let plan := CallPlan.of (Prepared.of (logSchema [textParam "Text", intParam "Count"])
        pacedConfig).context e
      (plan.signatureParams.map (·.1)).Nodup ∧ ("caller" :: plan.slots.map (·.name)).Nodup ∧
      (plan.cppParams.map (·.name)).Nodup := by
  set p := Prepared.of (logSchema [textParam "Text", intParam "Count"]) pacedConfig with hp
  obtain ⟨e, he, hdistinct, hplain, hnames⟩ :
      ∃ e ∈ p.table, (e.func.params.map (·.name.identifier)).Nodup ∧
        (∀ q ∈ (CallPlan.of p.context e).inputs, q.param.name.identifier ∉ bodyNames) ∧
        (CallPlan.of p.context e).params.map (·.name) = ["text", "count"] := by
    rw [hp]
    decide +kernel
  have hpascal : ["text", "count"].map pascalCase = ["Text", "Count"] := by
    rw [List.map_cons, List.map_cons, List.map_nil, pascalCase_eq, pascalCase_eq]
    decide
  obtain ⟨-, hsignature, hslots, hcpp⟩ := parameter_names_distinct_iff p.context e hdistinct
  refine ⟨e, he, hdistinct, hsignature.2 ?_, hslots.2 (pairwise_not_slotsMeet ?_),
    hcpp.2 ⟨pairwise_not_wrappersMeet ?_, fun _ q hq _ => ?_⟩⟩
  · refine List.pairwise_of_forall_mem_list fun q hq r hr => ?_
    exact ⟨fun h => hplain q hq h.1, fun h => hplain r hr h.1⟩
  · rw [hnames]
    decide
  · rw [hnames, hpascal]
    decide
  · have hmem := List.mem_map_of_mem (f := pascalCase) (hnames ▸ List.mem_map_of_mem hq)
    rw [hpascal] at hmem
    exact fun h => absurd (h ▸ hmem) (by decide)

/-- Parameters with distinct identifiers that are confused in every signature. -/
def confusedParams : List Property :=
  [textParam "Text", intParam "TextLen", intParam "Obj", intParam "Obj_"]

/-- The identifiers are distinct, but the names of no signature are: `obj` is escaped to `obj_`, the
length of `text` is `text_len`, and in pascal case the escape is undone and both parameters are
named like the object. -/
theorem parameter_names_repeated :
    ∃ e ∈ (Prepared.of (logSchema confusedParams) pacedConfig).table,
      e.func.params.map (·.name.identifier) = ["text", "text_len", "obj", "obj_"] ∧
      let plan := CallPlan.of (Prepared.of (logSchema confusedParams) pacedConfig).context e
      plan.signatureParams.map (·.1) = ["self", "text", "text_len", "obj_", "obj_"] ∧
      "caller" :: plan.slots.map (·.name) =
        ["caller", "obj", "text_ptr", "text_len", "text_len", "obj_", "obj_"] ∧
      plan.cppParams.map (·.name) = ["Obj", "TextData", "TextLen", "TextLen", "Obj", "Obj"] := by
  set p := Prepared.of (logSchema confusedParams) pacedConfig with hp
  obtain ⟨e, he, hidentifiers, hsignature, hslots, hstatic, hparts⟩ :
      ∃ e ∈ p.table,
        e.func.params.map (·.name.identifier) = ["text", "text_len", "obj", "obj_"] ∧
        (CallPlan.of p.context e).signatureParams.map (·.1) =
          ["self", "text", "text_len", "obj_", "obj_"] ∧
        "caller" :: (CallPlan.of p.context e).slots.map (·.name) =
          ["caller", "obj", "text_ptr", "text_len", "text_len", "obj_", "obj_"] ∧
        (CallPlan.of p.context e).isStatic = false ∧
        (CallPlan.of p.context e).params.map (fun q => (q.name, q.cppParts)) =
          [("text", [.data, .length]), ("text_len", [.own]), ("obj_", [.own]),
            ("obj_", [.own])] := by
    rw [hp]
    decide +kernel
  refine ⟨e, he, hidentifiers, hsignature, hslots, ?_⟩
  have hpascal : pascalCase "text" = "Text" ∧ pascalCase "text_len" = "TextLen" ∧
      pascalCase "obj_" = "Obj" := by
    rw [pascalCase_eq, pascalCase_eq, pascalCase_eq]
    decide
  have hflat := congrArg
    (List.flatMap fun x : String × List ParamPart => cppSuffixes.names (pascalCase x.1) x.2) hparts
  rw [List.flatMap_map] at hflat
  rw [cppParams_names, hstatic, hflat]
  simp only [List.flatMap_cons, List.flatMap_nil, hpascal]
  decide

end Bindery
