import Bindery.Proofs.Accessor.Members
import Bindery.Proofs.FuncTable.Exportable
import Bindery.Proofs.Preparation

/-!
# References of files

A file imports what the types in it mention. Types only mention what their context finds, so that
there is a binding to import.

* `Label.mem_of_mem_distinct`, `exists_mem_distinct`: labels without repetitions.
* `References.mem_runtime_concat`, `mem_hints_concat`: the references of several types.
* `References.Found`: the context finds all references.
* `Element.Of`: the elements that a context knows.
* `ClassModule.found_references`, `StructModule.found_references`: those of a file.
-/

namespace Bindery

/-! ## Labels -/

namespace Label

private theorem distinct_cons (k : Label) (rest : List Label) :
    distinct (k :: rest) = k :: distinct (rest.filter fun l => l.same k = false) :=
  List.eraseDupsBy_cons

theorem mem_of_mem_distinct {l : Label} : ∀ {ls : List Label}, l ∈ distinct ls → l ∈ ls
  | [], h => h
  | k :: rest, h => by
    rw [distinct_cons] at h
    rcases List.mem_cons.1 h with rfl | h
    · exact .head _
    · exact .tail _ (List.mem_of_mem_filter (mem_of_mem_distinct h))
termination_by ls => ls.length
decreasing_by exact Nat.lt_succ_of_le (List.length_filter_le _ _)

/-- Every label is there under its name. -/
theorem exists_mem_distinct {l : Label} :
    ∀ {ls : List Label}, l ∈ ls → ∃ k ∈ distinct ls, l.same k = true
  | k :: rest, h => by
    rw [distinct_cons]
    by_cases hk : l.same k = true
    · exact ⟨k, .head _, hk⟩
    · have hl : l ∈ rest.filter fun b => b.same k = false := by
        rcases List.mem_cons.1 h with rfl | h
        · exact absurd (same_self l) hk
        · exact List.mem_filter.2 ⟨h, by simpa using hk⟩
      obtain ⟨k', hk', hsame⟩ := exists_mem_distinct hl
      exact ⟨k', .tail _ hk', hsame⟩
termination_by ls => ls.length
decreasing_by exact Nat.lt_succ_of_le (List.length_filter_le _ _)

/-- Only a text stands for the name of a text. -/
theorem eq_text_of_same {l : Label} {s : String} (h : l.same (.text s) = true) : l = .text s := by
  unfold same at h
  split at h
  · next hnumber => cases hnumber
  · exact of_decide_eq_true h

end Label

/-! ## References -/

namespace References

theorem mem_runtime_concat {rs : List References} {name : Label} :
    name ∈ (concat rs).runtime ↔ ∃ r ∈ rs, name ∈ r.runtime := by
  induction rs with
  | nil => simp [concat]
  | cons r rest ih =>
    rw [List.exists_mem_cons_iff, ← ih]
    exact List.mem_append

theorem mem_hints_concat {rs : List References} {name : Label} :
    name ∈ (concat rs).hints ↔ ∃ r ∈ rs, name ∈ r.hints := by
  induction rs with
  | nil => simp [concat]
  | cons r rest ih =>
    rw [List.exists_mem_cons_iff, ← ih]
    exact List.mem_append

/-- What is imported is mentioned, and is not the file's own entity. -/
theorem mem_of_mem_others {own name : Label} {names : List Label} (h : name ∈ others own names) :
    name ∈ names ∧ name.same own = false := by
  obtain ⟨hname, hown⟩ := List.mem_filter.1 (List.mem_mergeSort.1 h)
  exact ⟨Label.mem_of_mem_distinct hname, by simpa using hown⟩

/-- Texts are only left out if they are the name of the file's own entity. -/
theorem mem_others {own name : Label} {names : List Label} (htexts : ∀ k ∈ names, k.isText = true)
    (hname : name ∈ names) (hown : name.same own = false) : name ∈ others own names := by
  obtain ⟨k, hk, hsame⟩ := Label.exists_mem_distinct hname
  obtain ⟨s, rfl⟩ := Label.exists_of_isText (htexts k (Label.mem_of_mem_distinct hk))
  rw [Label.eq_text_of_same hsame] at hown ⊢
  exact List.mem_mergeSort.2 (List.mem_filter.2 ⟨hk, by rw [hown]; rfl⟩)

/-- The context finds all references, each as an entity of its sort. -/
structure Found (ctx : Context) (r : References) : Prop where
  runtime : ∀ name ∈ r.runtime, (ctx.enum? name).isSome = true
  hints : ∀ name ∈ r.hints,
    (ctx.struct? name).isSome = true ∨ (ctx.class? name).isSome = true

variable {ctx : Context}

/-- References of several types are found if each of them is. -/
theorem Found.concat {rs : List References} (h : ∀ r ∈ rs, r.Found ctx) :
    (References.concat rs).Found ctx where
  runtime name hname := by
    obtain ⟨r, hr, hname⟩ := mem_runtime_concat.1 hname
    exact (h r hr).runtime name hname
  hints name hname := by
    obtain ⟨r, hr, hname⟩ := mem_hints_concat.1 hname
    exact (h r hr).hints name hname

theorem Found.append {a b : References} (ha : a.Found ctx) (hb : b.Found ctx) :
    (a ++ b).Found ctx where
  runtime name hname := (List.mem_append.1 hname).elim (ha.runtime name) (hb.runtime name)
  hints name hname := (List.mem_append.1 hname).elim (ha.hints name) (hb.hints name)

/-- A type mentions only what the context was asked for and found. -/
theorem found_ofDatum (d : Datum) : (ofDatum ctx d).Found ctx where
  runtime _ hname := (Option.filter_eq_some_iff.1 (Option.mem_toList.1 hname)).2
  hints _ hname := by
    rcases List.mem_append.1 hname with h | h
    · exact .inl (Option.filter_eq_some_iff.1 (Option.mem_toList.1 h)).2
    · exact .inr (Option.filter_eq_some_iff.1 (Option.mem_toList.1 h)).2

end References

/-! ## Elements -/

section Elements

variable {ctx : Context}

private theorem exists_of_mem_mapM {α β : Type} {f : α → Option β} {xs : List α} {ys : List β}
    (h : xs.mapM f = some ys) {y : β} (hy : y ∈ ys) : ∃ x ∈ xs, f x = some y := by
  induction xs generalizing ys with
  | nil =>
    obtain rfl : [] = ys := Option.some.inj h
    cases hy
  | cons x rest ih =>
    rw [List.mapM_cons] at h
    obtain ⟨z, hz, h⟩ := Option.bind_eq_some_iff.1 h
    obtain ⟨zs, hzs, h⟩ := Option.bind_eq_some_iff.1 h
    obtain rfl : z :: zs = ys := Option.some.inj h
    rcases List.mem_cons.1 hy with rfl | hy
    · exact ⟨x, .head _, hz⟩
    · obtain ⟨x', hx', hf⟩ := ih hzs hy
      exact ⟨x', .tail _ hx', hf⟩

/-- Every part of a container is that of a declared element. -/
theorem Property.exists_of_mem_parts {p : Property} {parts : List Element} {e : Element}
    (h : p.parts? (some ctx) = some parts) (he : e ∈ parts) :
    ∃ d, some d ∈ p.elements ∧ d.element? (some ctx) = some e := by
  unfold parts? at h
  split at h
  · obtain ⟨element, hmem, helement⟩ := exists_of_mem_mapM h he
    obtain ⟨d, rfl, hd⟩ := Option.bind_eq_some_iff.1 helement
    exact ⟨d, hmem, hd⟩
  · cases h

/-- The elements that a context knows: enums, classes and structs are found in it. -/
inductive Element.Of (ctx : Context) : Element → Prop where
  | plain {display : String} {codec : Codec} : (∀ enum repr, codec ≠ .enum enum repr) →
      Of ctx { display := .text display, codec }
  | enum {name : Label} {repr : IntType} : ctx.enumRepr? name = some repr →
      Of ctx { display := name, codec := .enum name repr }
  | object {name : Label} {display : String} : (ctx.class? name).isSome = true →
      Of ctx { display := .text display, codec := .object, classRef := some name }
  | struct {name : Label} {display : String} : (ctx.struct? name).isSome = true →
      Of ctx { display := .text display, codec := .struct, structRef := some name }

namespace Element

private theorem of_ofEnum {enum underlying : Label} {e : Element}
    (h : ofEnum (some ctx) enum underlying = some e) : Of ctx e := by
  obtain ⟨repr, hrepr, rfl⟩ := Option.map_eq_some_iff.1 h
  exact .enum hrepr

private theorem of_ofObject {target : Option Label} {e : Element}
    (h : ofObject (some ctx) target = some e) : Of ctx e := by
  unfold ofObject at h
  split at h
  · obtain rfl := Option.some.inj h
    exact .plain nofun
  · split at h
    · next hclass =>
      obtain rfl := Option.some.inj h
      exact .object hclass
    · cases h

private theorem of_ofStruct {struct : Label} {e : Element}
    (h : ofStruct (some ctx) struct = some e) :
    Of ctx e := by
  obtain ⟨s, hs, h⟩ := Option.bind_eq_some_iff.1 h
  split at h
  · obtain rfl := Option.some.inj h
    exact .struct (by rw [hs]; rfl)
  · cases h

/-- Every element that a type gets is one the context knows. -/
theorem of_element? {d : Datum} {e : Element} (h : d.element? (some ctx) = some e) :
    Of ctx e := by
  revert h
  -- The cases without a name of their own have a codec that refers to nothing.
  fun_cases Datum.element? d (some ctx) with
  | case2 => exact of_ofEnum
  | case4 => exact of_ofEnum
  | case5 =>
    intro h
    cases h
  | case11 => exact of_ofObject
  | case12 => exact of_ofObject
  | case13 => exact of_ofObject
  | case14 => exact of_ofObject
  | case15 =>
    intro h
    obtain ⟨target, -, h⟩ := Option.bind_eq_some_iff.1 h
    exact of_ofObject h
  | case16 =>
    intro h
    obtain ⟨struct, -, h⟩ := Option.bind_eq_some_iff.1 h
    exact of_ofStruct h
  | case17 =>
    intro h
    obtain ⟨t, -, rfl⟩ := Option.map_eq_some_iff.1 h
    exact .plain fun _ _ hcodec => by cases hcodec
  | _ =>
    intro h
    obtain rfl := Option.some.inj h
    exact .plain fun _ _ hcodec => by cases hcodec

/-- An enum is what its element is called. -/
theorem Of.enum?_of_enumRef {e : Element} (h : Of ctx e) {name : Label}
    (hname : e.enumRef = some name) : e.display = name ∧ (ctx.enum? name).isSome = true := by
  cases h with
  | plain hcodec =>
    unfold enumRef at hname
    split at hname
    · exact absurd ‹_› (hcodec _ _)
    · cases hname
  | enum hrepr =>
    obtain rfl := Option.some.inj hname
    exact ⟨rfl, Option.isSome_map ▸ Option.isSome_of_eq_some hrepr⟩
  | object => cases hname
  | struct => cases hname

end Element

namespace References

/-- What an element mentions was looked up in the context. -/
theorem found_ofElement {e : Element} (h : Element.Of ctx e) : (ofElement e).Found ctx where
  runtime _ hname := (h.enum?_of_enumRef (Option.mem_toList.1 hname)).2
  hints name hname := by
    cases h with
    | plain => cases hname
    | enum => cases hname
    | object hclass =>
      obtain rfl := List.mem_singleton.1 hname
      exact .inr hclass
    | struct hstruct =>
      obtain rfl := List.mem_singleton.1 hname
      exact .inl hstruct

/-- The references of a container and of its parts. -/
theorem found_ofParts {p : Property} {parts : Option (List Element)}
    (h : ∀ es, parts = some es → p.parts? (some ctx) = some es) :
    (ofParts ctx p.toDatum parts).Found ctx := by
  refine (found_ofDatum _).append (.concat fun r hr => ?_)
  obtain ⟨e, he, rfl⟩ := List.mem_map.1 hr
  cases parts with
  | none => cases he
  | some es =>
    obtain ⟨d, -, hd⟩ := Property.exists_of_mem_parts (h es rfl) he
    exact found_ofElement (Element.of_element? hd)

end References
end Elements

/-! ## Files -/

section Files

variable {ctx : Context}

/-- A plan holds the parts of its containers as the context has them. -/
theorem ParamPlan.IsPlanOf.parts {param : Property} {q : ParamPlan} (h : q.IsPlanOf ctx param) :
    q.parts = if param.mapping.conversion.passing = .container then param.parts? (some ctx)
      else none := congrArg (fun q : ParamPlan => q.parts) h

theorem ParamPlan.IsPlanOf.parts? {param : Property} {q : ParamPlan} (h : q.IsPlanOf ctx param)
    {parts : List Element} (hparts : q.parts = some parts) :
    param.parts? (some ctx) = some parts := by
  rw [h.parts] at hparts
  split at hparts
  · exact hparts
  · cases hparts

/-- The accessors, delegates and methods of a class mention what its context finds. -/
theorem ClassModule.found_references (ctx : Context) (c : ClassInfo) (entries : List Entry) :
    (ClassModule.of ctx c entries).references.Found ctx := by
  refine .concat fun r hr => ?_
  rcases List.mem_append.1 hr with hr | hr
  · rcases List.mem_append.1 hr with hr | hr
    · obtain ⟨a, ha, rfl⟩ := List.mem_map.1 hr
      obtain ⟨p, -, hp⟩ := ClassModule.accessor_of ha
      exact hp.prop ▸ References.found_ofParts hp.parts
    · obtain ⟨d, -, rfl⟩ := List.mem_map.1 hr
      refine .concat fun r hr => ?_
      obtain ⟨p, -, rfl⟩ := List.mem_map.1 hr
      exact References.found_ofDatum p
  · obtain ⟨f, hf, rfl⟩ := List.mem_map.1 hr
    obtain ⟨e, -, hplan⟩ := ClassModule.method_of hf
    refine .concat fun r hr => ?_
    obtain ⟨q, hq, rfl⟩ := List.mem_map.1 hr
    obtain ⟨p, -, hp⟩ := exists_of_mem_right (CallPlan.of_params ctx e) (hplan ▸ hq)
    exact hp.param ▸ References.found_ofParts fun _ => hp.parts?

theorem ClassModule.found_otherReferences (ctx : Context) (c : ClassInfo) (entries : List Entry) :
    (ClassModule.of ctx c entries).otherReferences.Found ctx where
  runtime := (found_references ctx c entries).runtime
  hints name hname := (found_references ctx c entries).hints name (List.mem_of_mem_filter hname)

/-- So do the accessors of a struct. -/
theorem StructModule.found_references (ctx : Context) (s : StructInfo) :
    (StructModule.of ctx s).references.Found ctx := by
  refine .concat fun r hr => ?_
  obtain ⟨a, ha, rfl⟩ := List.mem_map.1 hr
  obtain ⟨p, -, hp⟩ := StructModule.accessor_of ha
  exact hp.prop ▸ References.found_ofParts hp.parts

end Files
end Bindery
