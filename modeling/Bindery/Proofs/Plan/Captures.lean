import Bindery.Proofs.Plan.ParameterNames

/-!
# Names that parameters capture

A parameter hides every function of its name from the body of its method. Parameters keep clear of
`bodyNames` for that reason, but a body also calls builtin functions and the types of native calls.

* `Script.Expr.callees_apply`, `callees_method`: the names that a tree calls.
* `Codec.tree`, `Property.defaultTree?`: the expressions that call bodies hold as texts.
* `ParamPlan.Calls`: the names that a parameter makes its method call, apart from `bodyNames`.
* `ParamPlan.callees`, `CallPlan.callees`: the names that the parts of a method call.
* `captured_names`: a parameter captures a name just if it is one of these.
* `len_captured`: a function with a parameter that captures a call of its own body.
-/

namespace Bindery

open Script

/-! ## Trees -/

namespace Script.Expr

/-- The names are collected tree by tree. -/
private theorem calleesOf_eq_flatMap (es : List Expr) : calleesOf es = es.flatMap callees := by
  induction es with
  | nil => rfl
  | cons e rest ih => rw [calleesOf, List.flatMap_cons, ih]

@[simp] theorem calleesOf_append (es fs : List Expr) :
    calleesOf (es ++ fs) = calleesOf es ++ calleesOf fs := by
  simp only [calleesOf_eq_flatMap, List.flatMap_append]

private theorem mem_calleesOf_flatMap {α : Type} {f : α → List Expr} {xs : List α} {s : String} :
    s ∈ calleesOf (xs.flatMap f) ↔ ∃ x ∈ xs, s ∈ calleesOf (f x) := by
  simp only [calleesOf_eq_flatMap, List.flatMap_assoc, List.mem_flatMap]

private theorem mem_calleesOf_map {α : Type} {f : α → Expr} {xs : List α} {s : String} :
    s ∈ calleesOf (xs.map f) ↔ ∃ x ∈ xs, s ∈ (f x).callees := by
  simp only [calleesOf_eq_flatMap, List.flatMap_map, List.mem_flatMap]

@[simp] theorem calleesOf_nil : calleesOf [] = [] := rfl

@[simp] theorem calleesOf_cons (e : Expr) (rest : List Expr) :
    calleesOf (e :: rest) = e.callees ++ calleesOf rest := rfl

@[simp] theorem callees_name (s : String) : (name s).callees = [] := rfl

@[simp] theorem callees_literal (s : String) : (literal s).callees = [] := rfl

@[simp] theorem callees_int (n : Int) : (int n).callees = [] := rfl

@[simp] theorem callees_str (s : String) : (str s).callees = [] := rfl

@[simp] theorem callees_attr (e : Expr) (field : String) : (e.attr field).callees = e.callees := rfl

@[simp] theorem callees_item (e index : Expr) :
    (e.item index).callees = e.callees ++ index.callees := rfl

@[simp] theorem callees_upTo (e stop : Expr) :
    (e.upTo stop).callees = e.callees ++ stop.callees := rfl

@[simp] theorem callees_keyword (field : String) (e : Expr) :
    (keyword field e).callees = e.callees := rfl

/-- A function is called by its name. -/
@[simp] theorem callees_apply (f : String) (args : List Expr) :
    (apply f args).callees = f :: calleesOf args := rfl

/-- A method is called by no name of its own. -/
@[simp] theorem callees_method (e : Expr) (m : String) (args : List Expr) :
    (e.method m args).callees = e.callees ++ calleesOf args := rfl

end Script.Expr

@[simp] theorem callees_scratch (m : String) (args : List Expr) :
    (scratch m args).callees = Expr.calleesOf args := rfl

@[simp] theorem Script.Statement.callees_assign (targets : List String) (value : Expr) :
    (assign targets value).callees = value.callees := rfl

@[simp] theorem Script.Statement.callees_run (e : Expr) : (run e).callees = e.callees := rfl

/-! ## Expressions held as texts -/

/-- The expression for a codec as a tree. -/
def Codec.tree : Codec → Expr
  | .bool => .attr (.name "elements") "BOOL"
  | .int t => .attr (.name "elements") t.tag.toUpper
  | .f32 => .attr (.name "elements") "F32"
  | .f64 => .attr (.name "elements") "F64"
  | .text => .attr (.name "elements") "STRING"
  | .name => .attr (.name "elements") "NAME"
  | .handle => .attr (.name "elements") "HANDLE"
  | .object => .attr (.name "elements") "OBJECT"
  | .struct => .attr (.name "elements") "STRUCT"
  | .enum e repr => (Expr.name "elements").method "enum_of" [.name e.spoken, .str repr.tag]

/-- The tree is what is written. -/
theorem Codec.text_tree (c : Codec) : c.tree.text = c.expr := by
  have hconstant (s : String) : (Expr.attr (.name "elements") s).text = "elements." ++ s := by
    simp [Expr.text]
  cases c with
  | enum e repr =>
    have hexpr : (enum e repr).expr =
        "elements.enum_of(" ++ e.spoken ++ ", \"" ++ repr.tag ++ "\")" := rfl
    rw [hexpr]
    refine String.toList_inj.1 ?_
    simp [tree, Expr.method, Expr.str, Expr.text, Expr.texts]
  | _ => rw [tree, hconstant]; rfl

/-- A codec is looked up, and the enum's is made by a method of its module. -/
@[simp] theorem Codec.callees_tree (c : Codec) : c.tree.callees = [] := by
  cases c <;> rfl

/-- The member of an enum that has a value. -/
def enumTree (enum : Label) (value : Int) : Expr :=
  (Expr.name enum.spoken).method "from_value" [.int value]

/-- The literal of an enum is the text of a call of its conversion. -/
theorem enumLiteral?_eq (ctx : Context) (enum : Label) (d : Document) :
    enumLiteral? ctx enum d =
      (((ctx.enum? enum).bind (·.defaultValue? d)).map (enumTree enum)).map Expr.text := by
  cases henum : ctx.enum? enum with
  | none => simp [enumLiteral?, henum]
  | some info =>
    cases hvalue : info.defaultValue? d with
    | none => simp [enumLiteral?, henum, hvalue]
    | some value =>
      simp [enumLiteral?, henum, hvalue, enumTree, Expr.method, Expr.int, Expr.text, Expr.texts,
        String.append_assoc]

/-- The default of a parameter as a tree. Only enum members are more than a literal. -/
def Property.defaultTree? (ctx : Context) (p : Property) : Option Expr :=
  let isEnum := p.kind = .enum || p.kind = .byte && p.enum?.isSome
  if p.default ≠ .null && isEnum then
    ((ctx.enum? p.enumName).bind (·.defaultValue? p.default)).map (enumTree p.enumName)
  else (p.defaultLiteral? ctx).map .literal

/-- The tree is what is written. -/
theorem Property.text_defaultTree? (ctx : Context) (p : Property) :
    (p.defaultTree? ctx).map Expr.text = p.defaultLiteral? ctx := by
  unfold defaultTree?
  dsimp only
  split
  · next h =>
    obtain ⟨hdefault, hkind⟩ : p.default ≠ .null ∧
        (p.kind = .enum ∨ p.kind = .byte ∧ p.enum?.isSome = true) := by
      simpa using h
    rw [← enumLiteral?_eq, defaultLiteral?, if_neg hdefault]
    rcases hkind with hkind | ⟨hkind, henum⟩
    · rw [hkind]
    · rw [hkind, henum]
      rfl
  · cases p.defaultLiteral? ctx <;> simp [Expr.text]

/-- A default calls no function by a plain name. -/
theorem Property.callees_defaultTree? {ctx : Context} {p : Property} {e : Expr}
    (h : p.defaultTree? ctx = some e) : e.callees = [] := by
  unfold defaultTree? at h
  dsimp only at h
  split at h
  · obtain ⟨value, -, rfl⟩ := Option.map_eq_some_iff.1 h
    rfl
  · obtain ⟨s, -, rfl⟩ := Option.map_eq_some_iff.1 h
    rfl

/-! ## One parameter -/

@[simp] private theorem calleesOf_codecArgs (parts : List Element) :
    Expr.calleesOf (codecArgs parts) = [] := by
  rw [Expr.calleesOf_eq_flatMap, codecArgs, List.flatMap_map]
  exact List.flatMap_eq_nil_iff.2 fun _ _ => rfl

namespace ParamPlan

/-- A name, none of `bodyNames`, that the body of a method calls because of a parameter: texts and
structs have lengths, texts are cut to their buffers, results need slots, and what is not yet an
integer is made one. -/
inductive Calls (q : ParamPlan) : String → Prop where
  | lengthSlot : q.passing = .text → q.direction ≠ .input → Calls q lengthWire.nativeName
  | textLength : q.passing = .text → q.isInput = true → Calls q "len"
  | structLength : q.passing = .struct → q.direction = .inOut → Calls q "len"
  | textCut : q.passing = .text → q.direction ≠ .input → Calls q "min"
  | slot : q.passing = .scalar → q.isOutput = true → Calls q q.wire.nativeName
  | cast : q.passing = .scalar → q.isInput = true → q.mapping.isHandle = false →
      q.mapping.conversion = .enumCast ∨ q.mapping.conversion = .intCast → Calls q "int"

/-- The names that the parts of a method call because of a parameter. -/
def callees (q : ParamPlan) : List String :=
  (q.nativePrep ++ q.guestPrep).flatMap Statement.callees
  ++ Expr.calleesOf (q.nativeArgs ++ q.guestArgs)
  ++ if q.returned then Expr.calleesOf [q.nativeResult, q.guestResult] else []

variable (q : ParamPlan)

@[simp] theorem callees_ref (suffix : String) : (q.ref suffix).callees = [] := rfl

@[simp] theorem calleesOf_staged : Expr.calleesOf q.staged = [] := rfl

theorem callees_containerRead : q.containerRead.callees = ["read_" ++ q.viewWord] := by
  simp [containerRead]

theorem callees_containerWrite : q.containerWrite.callees = ["write_" ++ q.viewWord] := by
  simp [containerWrite]

/-- The names of the functions that copy containers are kept clear of. -/
private theorem read_mem_bodyNames : "read_" ++ q.viewWord ∈ bodyNames := by
  unfold viewWord
  split <;> decide

private theorem write_mem_bodyNames : "write_" ++ q.viewWord ∈ bodyNames := by
  unfold viewWord
  split <;> decide

/-- Converting bytes calls nothing but what makes the bytes. -/
private theorem callees_convertBytes (data : Expr) :
    (q.convertBytes data).callees = data.callees := by
  unfold convertBytes
  split
  · simp
  split
  · simp
  · rfl

/-- A result is wrapped in a class of the runtime or by `wrap_int`. -/
private theorem callees_convertOut {raw : Expr} (hraw : raw.callees = []) :
    (q.convertOut raw).callees ⊆ ["UObjectRef", "FNameHandle", "wrap_int"] := by
  unfold convertOut
  split <;> simp [hraw]

/-- Of the conversions of an input only `int` is a builtin function. -/
private theorem mem_callees_scalarIn {name : String} (hbody : name ∉ bodyNames) :
    name ∈ q.scalarIn.callees ↔ q.mapping.isHandle = false ∧
      (q.mapping.conversion = .enumCast ∨ q.mapping.conversion = .intCast) ∧ name = "int" := by
  have hwrap : name ≠ "wrap_int" := fun h => hbody (h ▸ by decide)
  have hraw : name ≠ "raw_handle" := fun h => hbody (h ▸ by decide)
  have hvalue : name ≠ "name_value" := fun h => hbody (h ▸ by decide)
  unfold scalarIn
  split
  · simp_all
  split <;> simp_all

/-- The reasons for calls by the names that are called. -/
private theorem calls_iff {name : String} : q.Calls name ↔
    (q.passing = .text ∧ q.direction ≠ .input) ∧ name = lengthWire.nativeName ∨
      (q.passing = .text ∧ q.isInput = true ∨ q.passing = .struct ∧ q.direction = .inOut) ∧
        name = "len" ∨
      (q.passing = .text ∧ q.direction ≠ .input) ∧ name = "min" ∨
      (q.passing = .scalar ∧ q.isOutput = true) ∧ name = q.wire.nativeName ∨
      q.passing = .scalar ∧ q.isInput = true ∧ q.mapping.isHandle = false ∧
        (q.mapping.conversion = .enumCast ∨ q.mapping.conversion = .intCast) ∧ name = "int" := by
  constructor
  · rintro (⟨h, h'⟩ | ⟨h, h'⟩ | ⟨h, h'⟩ | ⟨h, h'⟩ | ⟨h, h'⟩ | ⟨h, h', hhandle, hcast⟩)
    · exact .inl ⟨⟨h, h'⟩, rfl⟩
    · exact .inr (.inl ⟨.inl ⟨h, h'⟩, rfl⟩)
    · exact .inr (.inl ⟨.inr ⟨h, h'⟩, rfl⟩)
    · exact .inr (.inr (.inl ⟨⟨h, h'⟩, rfl⟩))
    · exact .inr (.inr (.inr (.inl ⟨⟨h, h'⟩, rfl⟩)))
    · exact .inr (.inr (.inr (.inr ⟨h, h', hhandle, hcast, rfl⟩)))
  · rintro (⟨⟨h, h'⟩, rfl⟩ | ⟨⟨h, h'⟩ | ⟨h, h'⟩, rfl⟩ | ⟨⟨h, h'⟩, rfl⟩ | ⟨⟨h, h'⟩, rfl⟩ |
      ⟨h, h', hhandle, hcast, rfl⟩)
    · exact .lengthSlot h h'
    · exact .textLength h h'
    · exact .structLength h h'
    · exact .textCut h h'
    · exact .slot h h'
    · exact .cast h h' hhandle hcast

/-- Apart from `bodyNames` and the classes of results, a parameter makes the body call just what
`Calls` says. -/
theorem mem_callees_iff {name : String} (hbody : name ∉ bodyNames)
    (hclass : name ∉ ["UObjectRef", "FNameHandle"]) : name ∈ q.callees ↔ q.Calls name := by
  -- None of the functions of the runtime that the body calls is meant.
  have hread : name ≠ "read_" ++ q.viewWord := fun h => hbody (h ▸ q.read_mem_bodyNames)
  have hlength : lengthWire.nativeName = "c_uint32" := rfl
  have hscalar := q.mem_callees_scalarIn hbody
  have hout {raw : Expr} (hraw : raw.callees = []) : name ∉ (q.convertOut raw).callees := by
    intro h
    have hname := q.callees_convertOut hraw h
    simp only [List.mem_cons, List.not_mem_nil, or_false] at hname hclass
    rcases hname with rfl | rfl | rfl
    · exact hclass (.inl rfl)
    · exact hclass (.inr rfl)
    · exact hbody (by decide)
  have hnative : name ∉ (q.convertOut ((q.ref "out").attr "value")).callees := hout rfl
  have hguest : name ∉ (q.convertOut (scratch "read_value"
      [q.ref "out", .str q.wire.tag])).callees := hout rfl
  simp only [bodyNames, List.mem_cons, List.not_mem_nil, not_or, or_false] at hbody
  rw [calls_iff, callees]
  -- By the way in which the parameter is passed and its direction the body is fixed.
  cases hpassing : q.passing with
  | container =>
    cases hdirection : q.direction <;>
      simp [hpassing, hdirection, nativePrep, guestPrep, nativeArgs, guestArgs, nativeResult,
        guestResult, staged, callees_containerRead, hread, hbody]
  | text =>
    cases hdirection : q.direction <;>
      simp [hpassing, hdirection, nativePrep, guestPrep, nativeArgs, guestArgs, nativeResult,
        guestResult, returned, isInput, isOutput, encoded, nativeTextOut, callees_convertBytes,
        hbody, hlength]
  | struct =>
    cases hdirection : q.direction <;>
      simp [hpassing, hdirection, nativePrep, guestPrep, nativeArgs, guestArgs, nativeResult,
        guestResult, isInput, isOutput, callees_convertBytes, hbody]
  | scalar =>
    cases hdirection : q.direction <;>
      simp [hpassing, hdirection, nativePrep, guestPrep, nativeArgs, guestArgs, nativeResult,
        guestResult, returned, isInput, isOutput, newSlot, hscalar, hnative, hguest, hbody]

end ParamPlan

/-! ## One plan -/

namespace CallPlan

variable {plan : CallPlan}

/-- The statements of both bodies of a method. -/
def statements (plan : CallPlan) : List Statement :=
  plan.defaultFills ++ plan.containerPopulate ++ plan.nativePrep ++ plan.nativeWriteback
    ++ plan.guestPrep ++ plan.guestWriteback

/-- The arguments and results of both bodies of a method. -/
def expressions (plan : CallPlan) : List Expr :=
  plan.nativeArgs ++ plan.nativeResults ++ plan.guestArgs ++ plan.guestResults

/-- What the statements and expressions hold as texts: codecs and defaults. -/
def spelled (plan : CallPlan) : List Expr :=
  plan.params.flatMap fun q =>
    (q.parts.getD []).map (·.codec.tree) ++ (q.param.defaultTree? plan.context).toList

/-- What is held as a text is the text of the trees. -/
theorem text_spelled (plan : CallPlan) :
    plan.spelled.map Expr.text = plan.params.flatMap fun q =>
      (q.parts.getD []).map (·.codec.expr) ++ (q.param.defaultLiteral? plan.context).toList := by
  rw [spelled, List.map_flatMap]
  refine List.flatMap_congr fun q _ => ?_
  rw [List.map_append, List.map_map, ← Option.toList_map, Property.text_defaultTree?]
  exact congrArg (· ++ _) (List.map_congr_left fun part _ => part.codec.text_tree)

/-- The plain names that the parts of a method call. -/
def callees (plan : CallPlan) : List String :=
  plan.statements.flatMap Statement.callees ++ Expr.calleesOf (plan.expressions ++ plan.spelled)

/-- The outputs are the parameters that are returned. -/
private theorem mem_outputs_iff {q : ParamPlan} :
    q ∈ plan.outputs ↔ q ∈ plan.params ∧ q.returned = true := by
  have hresult : q.direction = .result → q.returned = true := fun h => by
    simp [ParamPlan.returned, ParamPlan.isOutput, h]
  simp only [outputs, List.mem_append, List.mem_filter, decide_eq_true_eq, Bool.and_eq_true,
    bne_iff_ne]
  by_cases hdirection : q.direction = .result
  · simp [hdirection, hresult hdirection]
  · simp [hdirection]

/-- Codecs and defaults call nothing by a plain name. -/
private theorem calleesOf_spelled (plan : CallPlan) : Expr.calleesOf plan.spelled = [] := by
  rw [Expr.calleesOf_eq_flatMap, List.flatMap_eq_nil_iff]
  intro e he
  obtain ⟨q, -, he⟩ := List.mem_flatMap.1 he
  rcases List.mem_append.1 he with he | he
  · obtain ⟨part, -, rfl⟩ := List.mem_map.1 he
    exact part.codec.callees_tree
  · exact Property.callees_defaultTree? (Option.mem_toList.1 he)

section Calls

variable {name : String} (hbody : name ∉ bodyNames)

include hbody

/-- The other statements call one of `bodyNames` or nothing. -/
theorem mem_callees_statements :
    (∃ s ∈ plan.statements, name ∈ s.callees) ↔
      ∃ q ∈ plan.params, ∃ s ∈ q.nativePrep ++ q.guestPrep, name ∈ s.callees := by
  have hfills : ∀ s ∈ plan.defaultFills, name ∉ s.callees := by
    intro s hs
    obtain ⟨q, -, hq⟩ := List.mem_filterMap.1 hs
    obtain ⟨literal, -, rfl⟩ := Option.map_eq_some_iff.1 hq
    exact List.not_mem_nil
  have hpopulate : ∀ s ∈ plan.containerPopulate, name ∉ s.callees := by
    intro s hs hname
    obtain ⟨q, -, rfl⟩ := List.mem_map.1 hs
    rw [Statement.callees_run, q.callees_containerWrite, List.mem_singleton] at hname
    exact hbody (hname ▸ q.write_mem_bodyNames)
  have hupdate : name ≠ "update_struct" := fun h => hbody (h ▸ by decide)
  have hnative : ∀ s ∈ plan.nativeWriteback, name ∉ s.callees := by
    intro s hs
    obtain ⟨q, -, rfl⟩ := List.mem_map.1 hs
    simpa using hupdate
  have hguest : ∀ s ∈ plan.guestWriteback, name ∉ s.callees := by
    intro s hs
    obtain ⟨q, -, rfl⟩ := List.mem_map.1 hs
    simpa using hupdate
  constructor
  · rintro ⟨s, hs, hname⟩
    -- The statements come in six lists, and only those that prepare arguments can call it.
    simp only [statements, List.mem_append] at hs
    rcases hs with ((((hs | hs) | hs) | hs) | hs) | hs
    · exact absurd hname (hfills s hs)
    · exact absurd hname (hpopulate s hs)
    · obtain ⟨q, hq, hs⟩ := List.mem_flatMap.1 hs
      exact ⟨q, hq, s, List.mem_append_left _ hs, hname⟩
    · exact absurd hname (hnative s hs)
    · obtain ⟨q, hq, hs⟩ := List.mem_flatMap.1 hs
      exact ⟨q, hq, s, List.mem_append_right _ hs, hname⟩
    · exact absurd hname (hguest s hs)
  · rintro ⟨q, hq, s, hs, hname⟩
    refine ⟨s, ?_, hname⟩
    simp only [statements, List.mem_append]
    rcases List.mem_append.1 hs with hs | hs
    · exact .inl (.inl (.inl (.inr (List.mem_flatMap.2 ⟨q, hq, hs⟩))))
    · exact .inl (.inr (List.mem_flatMap.2 ⟨q, hq, hs⟩))

/-- For the object itself, only one of `bodyNames` is called. -/
theorem mem_calleesOf_args :
    name ∈ Expr.calleesOf (plan.nativeArgs ++ plan.guestArgs) ↔
      ∃ q ∈ plan.params, name ∈ Expr.calleesOf (q.nativeArgs ++ q.guestArgs) := by
  have hwasm : name ≠ "to_wasm" := fun h => hbody (h ▸ by decide)
  simp only [nativeArgs, guestArgs, Expr.calleesOf_append, List.mem_append,
    Expr.mem_calleesOf_flatMap, and_or_left, exists_or]
  cases plan.isStatic <;> simp [hwasm]

omit hbody in
/-- Only results that are returned are converted. -/
theorem mem_calleesOf_results :
    name ∈ Expr.calleesOf (plan.nativeResults ++ plan.guestResults) ↔
      ∃ q ∈ plan.params, q.returned = true ∧
        name ∈ Expr.calleesOf [q.nativeResult, q.guestResult] := by
  rw [nativeResults, guestResults, Expr.calleesOf_append, List.mem_append, Expr.mem_calleesOf_map,
    Expr.mem_calleesOf_map]
  simp only [mem_outputs_iff, Expr.calleesOf_cons, Expr.calleesOf_nil, List.append_nil,
    List.mem_append, and_assoc, and_or_left, exists_or]

/-- Apart from `bodyNames`, all calls are due to parameters. -/
theorem mem_callees_iff : name ∈ plan.callees ↔ ∃ q ∈ plan.params, name ∈ q.callees := by
  have hreturned (q : ParamPlan) (names : List String) :
      name ∈ (if q.returned then names else []) ↔ q.returned = true ∧ name ∈ names := by
    cases q.returned <;> simp
  have hparam (q : ParamPlan) : name ∈ q.callees ↔
      (∃ s ∈ q.nativePrep ++ q.guestPrep, name ∈ s.callees) ∨
        name ∈ Expr.calleesOf (q.nativeArgs ++ q.guestArgs) ∨
        q.returned = true ∧ name ∈ Expr.calleesOf [q.nativeResult, q.guestResult] := by
    rw [ParamPlan.callees, List.mem_append, List.mem_append, List.mem_flatMap, hreturned, or_assoc]
  have hexpressions : name ∈ Expr.calleesOf plan.expressions ↔
      name ∈ Expr.calleesOf (plan.nativeArgs ++ plan.guestArgs) ∨
        name ∈ Expr.calleesOf (plan.nativeResults ++ plan.guestResults) := by
    simp only [expressions, Expr.calleesOf_append, List.mem_append]
    tauto
  rw [callees, Expr.calleesOf_append, calleesOf_spelled, List.append_nil, List.mem_append,
    List.mem_flatMap, mem_callees_statements hbody, hexpressions, mem_calleesOf_args hbody,
    mem_calleesOf_results]
  simp only [hparam, and_or_left, exists_or]

end Calls

end CallPlan

/-! ## Captured names -/

/-- Names of parameters have no capitals. -/
theorem Label.isUpper_of_mem_parameterName {l : Label} (hl : l.isText = true) {c : Char}
    (h : c ∈ l.parameterName.toList) : c.isUpper = false := by
  have hsuffix {s : String} (hs : ∀ d ∈ s.toList, d.isUpper = false) :
      ∀ d ∈ (s ++ "_").toList, d.isUpper = false := fun d hd => by
    rw [String.toList_append] at hd
    rcases List.mem_append.1 hd with hd | hd
    · exact hs d hd
    · obtain rfl : d = '_' := by simpa using hd
      rfl
  obtain ⟨s, rfl⟩ := exists_of_isText hl
  have hsnake : ∀ d ∈ (Naming.snakeCase s).toList, d.isUpper = false := fun _ =>
    Naming.isUpper_of_mem_snakeCase
  have hidentifier : ∀ d ∈ (Naming.identifier s).toList, d.isUpper = false := by
    unfold Naming.identifier Naming.escapeReserved
    split
    · exact hsuffix hsnake
    · exact hsnake
  rw [parameterName, identifier_text] at h
  split at h
  · exact hsuffix hidentifier c h
  · exact hidentifier c h

private theorem Label.parameterName_not_mem_classes {l : Label} (hl : l.isText = true) :
    l.parameterName ∉ ["UObjectRef", "FNameHandle"] := by
  have hcapital : ∀ s ∈ ["UObjectRef", "FNameHandle"], s.toList.any Char.isUpper = true := by
    decide
  intro h
  obtain ⟨c, hc, hupper⟩ := List.any_eq_true.1 (hcapital _ h)
  exact absurd hupper (by simp [isUpper_of_mem_parameterName hl hc])

open CallPlan Render

/-- A parameter captures a name that its method calls just if a parameter, itself or another one,
makes the method call it. Such a name is that of a builtin function or of the type of a slot. What
the method holds as texts counts by the trees that these are the texts of. -/
theorem captured_names (ctx : Context) (e : Entry) :
    let plan := CallPlan.of ctx e
    (plan.spelled.map Expr.text = plan.params.flatMap fun q =>
      (q.parts.getD []).map (·.codec.expr) ++ (q.param.defaultLiteral? ctx).toList) ∧
    ∀ p ∈ plan.params, p.param.name.isText = true →
      (p.name ∈ plan.callees ↔ ∃ q ∈ plan.params, q.Calls p.name) ∧
      (p.name ∈ plan.callees →
        p.name ∈ ["len", "min", "int"] ∨ ∃ w : Wire, p.name = w.nativeName) := by
  intro plan
  refine ⟨plan.text_spelled, fun p hp htext => ?_⟩
  have hbody : p.name ∉ bodyNames := name_eq hp ▸ Label.parameterName_not_mem _
  have hclass : p.name ∉ ["UObjectRef", "FNameHandle"] :=
    name_eq hp ▸ Label.parameterName_not_mem_classes htext
  have hcallees : p.name ∈ plan.callees ↔ ∃ q ∈ plan.params, q.Calls p.name := by
    rw [CallPlan.mem_callees_iff hbody]
    exact exists_congr fun q => and_congr_right fun _ => q.mem_callees_iff hbody hclass
  refine ⟨hcallees, fun h => ?_⟩
  obtain ⟨q, -, hcall⟩ := hcallees.1 h
  generalize p.name = name at hcall
  cases hcall with
  | lengthSlot => exact .inr ⟨lengthWire, rfl⟩
  | slot => exact .inr ⟨q.wire, rfl⟩
  | textLength | structLength | textCut | cast => exact .inl (by decide)

/-- The types of slots are those of C. -/
private theorem Wire.take_nativeName (w : Wire) : w.nativeName.toList.take 2 = ['c', '_'] := by
  cases w with
  | int t =>
    obtain ⟨width, signed⟩ := t
    cases width <;> cases signed <;> decide
  | _ => decide

/-- Only `len` is called for a text. -/
theorem captured_names_count :
    ∃ e ∈ (Prepared.of (logSchema [textParam "Text", intParam "Count"]) pacedConfig).table,
      let plan := CallPlan.of (Prepared.of (logSchema [textParam "Text", intParam "Count"])
        pacedConfig).context e
      ∃ p ∈ plan.params, p.name = "count" ∧ p.param.name.isText = true ∧ p.name ∉ plan.callees := by
  set prepared := Prepared.of (logSchema [textParam "Text", intParam "Count"]) pacedConfig
    with hprepared
  obtain ⟨e, he, p, hp, hname, htext⟩ : ∃ e ∈ prepared.table,
      ∃ p ∈ (CallPlan.of prepared.context e).params,
        p.name = "count" ∧ p.param.name.isText = true := by
    rw [hprepared]
    decide +kernel
  refine ⟨e, he, p, hp, hname, htext, fun hcall => ?_⟩
  rcases ((captured_names prepared.context e).2 p hp htext).2 hcall with h | ⟨w, h⟩
  · exact absurd (hname ▸ h) (by decide)
  · have hprefix : "count".toList.take 2 = ['c', '_'] := by
      rw [← hname, h]
      exact w.take_nativeName
    exact absurd hprefix (by decide)

/-- The length of a text is asked of an integer. -/
theorem len_captured :
    ∃ e ∈ (Prepared.of (logSchema [textParam "Text", intParam "Len"]) pacedConfig).table,
      let plan := CallPlan.of (Prepared.of (logSchema [textParam "Text", intParam "Len"])
        pacedConfig).context e
      "len" ∈ plan.params.map (·.name) ∧ "len" ∈ plan.callees ∧
      "len(text_data)" ∈ Expr.texts plan.nativeArgs := by
  decide +kernel

end Bindery
