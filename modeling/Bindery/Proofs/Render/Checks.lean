import Bindery.Check.Output
import Bindery.Proofs.Filter.Availability
import Bindery.Proofs.References
import Bindery.Proofs.Schema.Named
import Bindery.Text.Template
import Mathlib.Data.String.Basic

/-!
# What can be rendered

Once everything in a schema is named, no stage of the generator finds fault with it.

* `Template.readPieces_append`, `fill_chars`: characters that are no braces stand for themselves.
* `Template.fault?_from_value`: the conversion of a value to an enum can be filled.
* `Check.plan_ok`, `returnHint_ok`: the call plans.
* `Check.enumFile_ok`, `structFile_ok`, `classFile_ok`: the files of entities.
* `Check.render_ok`, `Check.generate_of_named`: all files.
-/

namespace Bindery.Template

/-! ## Templates -/

/-- Characters that are no braces stand for themselves. -/
theorem readPieces_append {cs : List Char} (h : '\x7b' ∉ cs ∧ '\x7d' ∉ cs) (fuel : Nat)
    (rest : List Char) :
    readPieces (cs.length + fuel) (cs ++ rest) = cs.map .char ++ readPieces fuel rest := by
  induction cs with
  | nil => simp
  | cons c cs ih =>
    simp only [List.mem_cons, not_or] at h
    have hc : (c ≠ '\x7b' && c ≠ '\x7d') = true := by simp [Ne.symm h.1.1, Ne.symm h.2.1]
    rw [List.length_cons, Nat.add_right_comm, List.cons_append, readPieces, if_pos hc,
      ih ⟨h.1.2, h.2.2⟩]
    rfl

/-- Characters take no arguments. -/
theorem fill_chars (length depth : Nat) (numbering : Numbering) (cs : List Char)
    (rest : List Piece) :
    fill length depth numbering (cs.map .char ++ rest) = fill length depth numbering rest := by
  induction cs with
  | nil => rfl
  | cons c cs ih => rw [List.map_cons, List.cons_append, fill, ih]

/-- The next argument takes the place of empty braces. -/
theorem fillPlace_empty (length depth : Nat) :
    fillPlace length depth .undecided { name := [] } = .ok (.counted 1) := by
  have hlayout : isTextLayout [] = true := by decide +kernel
  rw [fillPlace]
  simp only [argument, number?, Target.present, hlayout, List.takeWhile_nil,
    List.isEmpty_nil, if_true]
  rfl

/-- The conversion to an enum can be filled. -/
theorem fault?_from_value {name : String} (h : '\x7b' ∉ name.toList ∧ '\x7d' ∉ name.toList)
    (length : Nat) : fault? (name ++ ".from_value(\x7b\x7d)") length = none := by
  have hpieces : pieces (name ++ ".from_value(\x7b\x7d)") =
      name.toList.map .char ++ pieces ".from_value(\x7b\x7d)" := by
    rw [pieces, String.length_append, String.toList_append, ← String.length_toList]
    exact readPieces_append h _ _
  have hplace : pieces ".from_value(\x7b\x7d)" =
      ".from_value(".toList.map .char ++ [.place { name := [] }, .char ')'] := by decide +kernel
  have hclose : fill length 1 (.counted 1) [.char ')'] = .ok (.counted 1) := by rw [fill, fill]
  have hfill : fill length 1 .undecided (pieces ".from_value(\x7b\x7d)") = .ok (.counted 1) := by
    rw [hplace, fill_chars, fill, fillPlace_empty]
    exact hclose
  rw [fault?, hpieces, fill_chars, hfill]

end Bindery.Template

namespace Bindery

variable {ctx : Context}

/-! ## Names that a context finds -/

/-- What is the same as a text is a text. -/
theorem Label.isText_of_same {a l : Label} (ha : a.isText = true) (h : a.same l = true) :
    l.isText = true := by
  obtain ⟨s, rfl⟩ := Label.exists_of_isText ha
  rw [same_comm] at h
  rw [eq_text_of_same h]
  rfl

namespace Context.Named

variable (hctx : ctx.Named)

include hctx

theorem layouts : ∀ e ∈ ctx.enumIndex, e.underlying.isKey = true := fun e he =>
  (hctx.enumIndex e he).underlying.isKey

theorem isText_of_class? {name : Label} (h : (ctx.class? name).isSome = true) :
    name.isText = true := by
  obtain ⟨c, hc, hsame⟩ := List.find?_isSome.1 h
  exact Label.isText_of_same (hctx.classIndex c (List.mem_reverse.1 hc)).name hsame

theorem isText_of_struct? {name : Label} (h : (ctx.struct? name).isSome = true) :
    name.isText = true := by
  obtain ⟨s, hs, hsame⟩ := List.find?_isSome.1 h
  exact Label.isText_of_same (hctx.structIndex s (List.mem_reverse.1 hs)).name hsame

theorem isText_of_enum? {name : Label} (h : (ctx.enum? name).isSome = true) :
    name.isText = true := by
  obtain ⟨e, he, hsame⟩ := List.find?_isSome.1 h
  exact Label.isText_of_same (hctx.enumIndex e (List.mem_reverse.1 he)).name hsame

/-- Every entity goes by a text. -/
theorem isText_symbol {name : Label} {b : Binding} (hname : name.isText = true)
    (h : ctx.binding? name = some b) : b.symbol.isText = true := by
  obtain ⟨symbol, hsymbol, h⟩ := Option.bind_eq_some_iff.1 h
  obtain ⟨m, -, h⟩ := Option.bind_eq_some_iff.1 h
  obtain rfl := Option.some.inj h
  unfold symbol? at hsymbol
  split at hsymbol
  · obtain rfl := Option.some.inj hsymbol
    exact hname
  · obtain ⟨s, hs, rfl⟩ := Option.map_eq_some_iff.1 hsymbol
    exact (hctx.structIndex s (List.mem_reverse.1 (List.mem_of_find?_eq_some hs))).cppName

/-- Everything that a file refers to is named by a text. -/
theorem isText_runtime {r : References} (h : r.Found ctx) :
    ∀ name ∈ r.runtime, name.isText = true := fun name hname =>
  hctx.isText_of_enum? (h.runtime name hname)

theorem isText_hints {r : References} (h : r.Found ctx) :
    ∀ name ∈ r.hints, name.isText = true := fun name hname =>
  (h.hints name hname).elim hctx.isText_of_struct? hctx.isText_of_class?

/-- The type of an element is a text. -/
theorem isText_display_element {e : Element} (h : Element.Of ctx e) :
    e.display.isText = true := by
  cases h with
  | plain => rfl
  | enum hrepr => exact hctx.isText_of_enum? (Option.isSome_map ▸ Option.isSome_of_eq_some hrepr)
  | object => rfl
  | struct => rfl

end Context.Named

theorem Mapping.isText_display_ofObject (target : Option Label) :
    (ofObject target).display.isText = true := by
  cases target <;> rfl

/-- The type of a named value is a text. -/
theorem Datum.Named.isText_display {d : Datum} (h : d.Named) :
    d.mapping.display.isText = true := by
  fun_cases Datum.mapping d with
  | case2 _ enum henum => exact h.isText_of_enum? henum
  | case9 _ enum henum => exact h.isText_of_enum? henum
  | case11 => exact Mapping.isText_display_ofObject _
  | case12 => exact Mapping.isText_display_ofObject _
  | case13 => exact Mapping.isText_display_ofObject _
  | case14 => exact Mapping.isText_display_ofObject _
  | _ => rfl

/-- The parameters of a plan are those of its function. -/
theorem CallPlan.exists_param {e : Entry} {q : ParamPlan} (hq : q ∈ (CallPlan.of ctx e).params) :
    ∃ p ∈ e.func.params, q.IsPlanOf ctx p :=
  exists_of_mem_right (CallPlan.of_params ctx e) hq

/-- The outputs of a plan are among its parameters. -/
theorem CallPlan.mem_params_of_mem_outputs {plan : CallPlan} {q : ParamPlan}
    (h : q ∈ plan.outputs) : q ∈ plan.params :=
  (List.mem_append.1 h).elim List.mem_of_mem_filter List.mem_of_mem_filter

namespace Check

/-! ## Labels -/

theorem snakeCase_ok {l : Label} (h : l.isText = true) : snakeCase l = .ok () := by
  obtain ⟨s, rfl⟩ := Label.exists_of_isText h
  rfl

theorem accessorName_ok {l : Label} (h : l.isText = true) : accessorName l = .ok () := by
  obtain ⟨s, rfl⟩ := Label.exists_of_isText h
  rfl

theorem texts_ok {ls : List Label} (h : ∀ l ∈ ls, l.isText = true) : texts ls = .ok () :=
  require_eq_ok_iff.2 (List.all_eq_true.2 h)

theorem comparable_ok {ls : List Label} (h : ∀ l ∈ ls, l.isText = true) :
    comparable ls = .ok () := by
  refine require_eq_ok_iff.2 ?_
  rw [Label.comparable, List.all_eq_true.2 h, Bool.or_true, Bool.true_or]

variable (hctx : ctx.Named)

/-! ## Call plans -/

section Plans

include hctx

/-- A default that is a text denotes what it denotes; only its sort is checked. -/
theorem default_ok {p : Property} (h : p.Named) : default ctx p = .ok () := by
  have henum {enum : Label} (hkey : enum.isKey = true) : enumDefault ctx enum = .ok () :=
    bind_ok (key_ok hkey) (layoutOf_ok hctx.layouts _)
  unfold default
  split
  · rfl
  next hdefault =>
    have hnull : p.default ≠ .null := fun hnull => hdefault (by simp [hnull])
    obtain ⟨s, hs⟩ := Label.exists_of_isText (h.default.resolve_left hnull)
    rw [hs]
    split
    · rfl
    · rfl
    · exact henum h.datum.enumName.isKey
    · split
      · next enum hname => exact henum (h.datum.usable.enum? hname)
      · rfl
    · split <;> rfl

/-- The parameters are named, so each can be written and has a default that denotes something or
nothing. -/
theorem plan_ok {e : Entry} (h : ∀ p ∈ e.func.params, p.Named) : plan ctx e = .ok () := by
  refine bind_ok (forM_eq_ok_iff.2 fun p hp => snakeCase_ok (h p hp).datum.name) ?_
  refine upTo_eq_ok_of_all fun q hq => ?_
  obtain ⟨p, hp, hplan⟩ :=
    CallPlan.exists_param (List.mem_of_mem_filter (List.mem_reverse.1 hq))
  unfold optionalParam
  split
  · rw [hplan.param]
    exact default_ok hctx (h p hp)
  · rfl

omit hctx in
theorem returnHint_ok {e : Entry} (h : ∀ p ∈ e.func.params, p.Named) :
    returnHint (CallPlan.of ctx e) = .ok () := by
  unfold returnHint
  dsimp only
  split
  · refine texts_ok fun l hl => ?_
    obtain ⟨q, hq, rfl⟩ := List.mem_map.1 hl
    obtain ⟨p, hp, hplan⟩ := CallPlan.exists_param (CallPlan.mem_params_of_mem_outputs hq)
    unfold ParamPlan.outputHint
    split
    · rfl
    · rfl
    · rw [hplan.mapping]
      exact (h p hp).datum.isText_display
  · rfl

end Plans

/-! ## Files of entities -/

section Files

theorem enumFile_ok {e : EnumInfo} (h : e.Named) : enumFile e = .ok () :=
  bind_ok (key_ok h.underlying.isKey) (snakeCase_ok h.name)

include hctx

/-- Whether a property gets an accessor can be decided. -/
theorem access_ok {inClass : Bool} {p : Property} (h : p.Named) :
    access ctx inClass p = .ok () := by
  refine bind_ok (require_eq_ok_iff.2 (decide_eq_true h.datum.known.1)) (when_ok fun _ => ?_)
  refine bind_ok (property_ok h.usable) (when_ok fun _ => ?_)
  refine bind_ok (mapping_ok h.datum.usable) (when_ok fun _ => ?_)
  exact bind_ok (accessorName_ok h.datum.name) (when_ok fun _ => parts_ok hctx.layouts h.usable)

theorem accessorMethods_ok {inClass : Bool} {p : Property} {a : Accessor}
    (h : a.IsOf ctx inClass p) : accessorMethods ctx a = .ok () := by
  unfold accessorMethods
  split
  · refine texts_ok fun l hl => ?_
    obtain ⟨e, he, rfl⟩ := List.mem_map.1 hl
    cases hparts : a.parts with
    | none =>
      rw [hparts] at he
      cases he
    | some parts =>
      rw [hparts] at he
      obtain ⟨d, -, hd⟩ := Property.exists_of_mem_parts (h.parts parts hparts) he
      exact hctx.isText_display_element (Element.of_element? hd)
  split
  · exact layoutOf_ok hctx.layouts _
  · rfl

/-- The imports of a file can be sorted and written. -/
theorem imports_ok {own : Label} {r : References} (h : r.Found ctx) :
    imports ctx own r = .ok () := by
  have hruntime := hctx.isText_runtime h
  have hhints := hctx.isText_hints h
  refine bind_ok (comparable_ok fun l hl => hruntime l (References.mem_of_mem_others hl).1) ?_
  refine bind_ok (comparable_ok fun l hl =>
    hhints l (List.mem_of_mem_filter (References.mem_of_mem_others hl).1)) ?_
  refine forM_eq_ok_iff.2 fun b hb => snakeCase_ok ?_
  rcases List.mem_append.1 hb with hb | hb
  · obtain ⟨name, hname, hb⟩ := List.mem_filterMap.1 hb
    exact hctx.isText_symbol (hruntime name (References.mem_of_mem_others hname).1) hb
  · obtain ⟨name, hname, hb⟩ := List.mem_filterMap.1 hb
    have hname := (References.mem_of_mem_others hname).1
    exact hctx.isText_symbol (hhints name (List.mem_of_mem_filter hname)) hb

theorem structFile_ok {s : StructInfo} (h : s.Named) : structFile ctx s = .ok () := by
  have haccess : s.props.forM (access ctx false) = .ok () :=
    forM_eq_ok_iff.2 fun p hp => access_ok hctx (h.props p hp)
  have hfile : (do
      imports ctx s.name (StructModule.of ctx s).references
      (StructModule.of ctx s).accessors.forM (accessorMethods ctx)
      snakeCase s.cppName : Check) = .ok () := by
    refine bind_ok (imports_ok hctx (StructModule.found_references ctx s)) ?_
    refine bind_ok (forM_eq_ok_iff.2 fun a ha => ?_) (snakeCase_ok h.cppName)
    obtain ⟨p, -, hp⟩ := StructModule.accessor_of ha
    exact accessorMethods_ok hctx hp
  unfold structFile
  dsimp only
  split
  · exact bind_ok haccess hfile
  · exact hfile

/-- Whether a property gets a delegate can be decided. -/
theorem delegate_ok {p : Property} (h : p.Named) : delegate ctx p = .ok () := by
  unfold delegate
  split
  · rfl
  · refine bind_ok (upTo_eq_ok_of_all fun d hd => ?_)
      (when_ok fun _ => accessorName_ok h.datum.name)
    have hnamed : d.Named := by
      cases hs : p.signature with
      | none =>
        rw [hs] at hd
        cases hd
      | some s =>
        rw [hs] at hd
        exact h.data d (Property.mem_data_of_signature hs hd)
    unfold callbackParam
    split
    · rfl
    · refine bind_ok (snakeCase_ok hnamed.name) (when_ok fun _ => ?_)
      exact whenSome_ok fun enum _ => layoutOf_ok hctx.layouts enum

omit hctx in
/-- An enum without braces in its name can be put into the conversion. -/
theorem readText_ok {d : Datum} (h : d.Named) (index : Nat) (p : DelegateParam) :
    readText index p d = .ok () := by
  -- The name stands in the template itself, where braces would be placeholders.
  have hfill {enum : Label} (henum : d.enum? = some enum) (length : Nat) :
      Template.fault? (enum.spoken ++ ".from_value(\x7b\x7d)") length = none := by
    obtain ⟨s, rfl⟩ := Label.exists_of_isText (h.isText_of_enum? henum)
    exact Template.fault?_from_value (h.noBraces s (Label.eq_of_given? henum)) length
  unfold readText
  dsimp only
  split
  · next henum _ => rw [hfill henum]
  · next henum _ => rw [hfill henum]
  · rfl

omit hctx in
theorem wrapper_ok {p : Property} {d : Delegate} (h : p.Named) (hd : d.IsOf ctx p) :
    wrapper d = .ok () := by
  refine forM_eq_ok_iff.2 fun x hx => readText_ok ?_ _ _
  have hmem := (List.of_mem_zip (List.fst_mem_of_mem_zipIdx hx)).2
  exact h.data _ (Property.mem_data_of_signature hd.signature (List.mem_of_mem_filter hmem))

/-- The parts of a class file in the order in which they are checked. -/
theorem classFile_ok {c : ClassInfo} {entries : List Entry} (h : c.Named)
    (hentries : ∀ e ∈ entries, ∀ p ∈ e.func.params, p.Named) :
    classFile ctx c entries = .ok () := by
  let m := ClassModule.of ctx c entries
  have haccess : c.props.forM (access ctx true) = .ok () :=
    forM_eq_ok_iff.2 fun p hp => access_ok hctx (h.props p hp)
  have hdelegate : c.props.forM (delegate ctx) = .ok () :=
    forM_eq_ok_iff.2 fun p hp => delegate_ok hctx (h.props p hp)
  have hsignatures : m.delegates.forM (fun d => d.signature.params.forM mapping) = .ok () := by
    refine forM_eq_ok_iff.2 fun d hd => forM_eq_ok_iff.2 fun datum hdatum => ?_
    obtain ⟨p, hp, hof⟩ := ClassModule.delegate_of hd
    exact mapping_ok ((h.props p hp).data _
      (Property.mem_data_of_signature hof.signature hdatum)).usable
  have hsuper : whenSome key c.super.given? = .ok () :=
    whenSome_ok fun name hname => key_ok (Label.eq_of_given? hname ▸ h.super.isKey)
  have hparent : whenSome (fun b => snakeCase b.symbol) m.parentBinding? = .ok () := by
    refine whenSome_ok fun b hb => snakeCase_ok ?_
    obtain ⟨name, hname, hb⟩ := Option.bind_eq_some_iff.1 hb
    exact hctx.isText_symbol
      (h.super.isText_of_given? (Option.filter_eq_some_iff.1 hname).1) hb
  have hfound := ClassModule.found_references ctx c entries
  have himports : imports ctx c.name m.otherReferences = .ok () :=
    imports_ok hctx ⟨hfound.runtime, fun name hname =>
      hfound.hints name (List.mem_of_mem_filter hname)⟩
  have hname : snakeCase c.name = .ok () := snakeCase_ok h.name
  have hwrappers : m.delegates.forM wrapper = .ok () := by
    refine forM_eq_ok_iff.2 fun d hd => ?_
    obtain ⟨p, hp, hof⟩ := ClassModule.delegate_of hd
    exact wrapper_ok (h.props p hp) hof
  have haccessors : m.accessors.forM (accessorMethods ctx) = .ok () := by
    refine forM_eq_ok_iff.2 fun a ha => ?_
    obtain ⟨p, -, hof⟩ := ClassModule.accessor_of ha
    exact accessorMethods_ok hctx hof
  have hreturns : m.methods.forM (fun f => returnHint f.plan) = .ok () := by
    refine forM_eq_ok_iff.2 fun f hf => ?_
    obtain ⟨e, he, hplan⟩ := ClassModule.method_of hf
    rw [hplan]
    exact returnHint_ok (hentries e he)
  have hbody : (do
      m.delegates.forM wrapper
      m.accessors.forM (accessorMethods ctx)
      m.methods.forM fun f => returnHint f.plan
      snakeCase c.name : Check) = .ok () :=
    bind_ok hwrappers (bind_ok haccessors (bind_ok hreturns hname))
  refine bind_ok haccess (bind_ok hdelegate (bind_ok hsignatures (bind_ok hsuper
    (bind_ok hparent (bind_ok himports ?_)))))
  dsimp only
  split
  · exact bind_ok hname hbody
  · exact hbody

end Files

/-! ## All files -/

section Output

variable {schema : Schema} {config : Config} (h : schema.Named)

include h

/-- The functions of the table are those of the classes. -/
theorem named_of_mem_table {e : Entry} (he : e ∈ (Prepared.of schema config).table) :
    Label.IsReference e.header ∧ ∀ p ∈ e.func.params, p.Named := by
  obtain ⟨c, hc, f, hf, hheader, hparams⟩ := Schema.exists_function he
  rw [hheader, hparams]
  exact ⟨(h.classes c hc).header, (h.classes c hc).params f hf⟩

/-- All files can be rendered. -/
theorem render_ok : render (Prepared.of schema config) = .ok () := by
  have hctx := h.context config
  refine bind_ok (forM_eq_ok_iff.2 fun e he => plan_ok hctx (named_of_mem_table h he).2) ?_
  refine bind_ok (forM_eq_ok_iff.2 fun m _ => ?_) (forM_eq_ok_iff.2 fun owner _ => ?_)
  · -- The files of one module: enums, structs, classes.
    refine bind_ok (forM_eq_ok_iff.2 fun e he => enumFile_ok (hctx.enums m e he)) ?_
    refine bind_ok (forM_eq_ok_iff.2 fun s hs => structFile_ok hctx (hctx.structs m s hs)) ?_
    refine forM_eq_ok_iff.2 fun c hc => classFile_ok hctx (hctx.classes m c hc) fun e he => ?_
    exact (named_of_mem_table h (List.mem_of_mem_filter he)).2
  · have hheaders : ∀ l ∈ ((Prepared.of schema config).table.filter fun e =>
        e.module = owner.1 && e.className = owner.2).filterMap (·.header.given?),
        l.isText = true := fun l hl => by
      obtain ⟨e, he, hl⟩ := List.mem_filterMap.1 hl
      exact (named_of_mem_table h (List.mem_of_mem_filter he)).1.isText_of_given? hl
    refine bind_ok (forM_eq_ok_iff.2 fun l hl => key_ok (Label.isKey_of_isText (hheaders l hl))) ?_
    exact comparable_ok fun l hl => hheaders l (Label.mem_of_mem_distinct hl)

/-- A schema in which everything is named can be made into files under every configuration that
names its modules. -/
theorem generate_of_named (hc : config.Usable) : generate schema config = .ok () :=
  bind_ok (prepare_of_usable h.usable hc) (render_ok h)

end Output

end Check
end Bindery
