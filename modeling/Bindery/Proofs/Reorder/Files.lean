import Bindery.Check.Output
import Bindery.Output
import Bindery.Proofs.Accessor.Members
import Bindery.Proofs.Reorder.Lookups
import Bindery.Render.TableFile
import Mathlib.Data.List.Basic

/-!
# Files in contexts that answer alike

What the file of a class or struct contains, and how it is spelled out, depends on the context only
through look-ups. A call plan keeps the context that it was made in, so plans of two contexts that
answer alike are not equal: they differ in that context and in nothing else. Every check of an
entity has the same outcome in both, the fault included.

* `CallPlan.within`: the plan with another context.
* `Context.Agrees.callPlan`: plans of one entry.
* `Context.Agrees.signature`, `returnHint`: the types of the method, which are looked up again.
* `Render.importsFile_within` and its like: the files made from plans alone.
* `Context.Agrees.collectAccessors`, `collectDelegates`: the members of an entity.
* `ClassModule.within`: the content of a class's file with another context in place of its own.
* `Context.Agrees.classModule`: the contents of one class.
* `Context.Agrees.classFile`, `structFile`: the files.
* `Check.members_congr`: the check of the members of a class.
* `Check.tableFunction_congr`, `Check.plan_congr`: those of the functions of the table.
* `Check.structFile_congr`, `Check.classFile_congr`: those of the files of entities.
-/

namespace Bindery

/-! ## Plans -/

/-- The plan as another context has it. -/
def CallPlan.within (ctx : Context) (plan : CallPlan) : CallPlan := { plan with context := ctx }

namespace Context.Agrees

variable {ctx ctx' : Context} (h : ctx.Agrees ctx')

include h

theorem paramPlan : ParamPlan.of ctx = ParamPlan.of ctx' := by
  funext param
  simp only [ParamPlan.of, h.struct?, h.parts?]

theorem defaultable? : ParamPlan.defaultable? ctx = ParamPlan.defaultable? ctx' := by
  funext p
  simp only [ParamPlan.defaultable?, h.defaultLiteral?]

theorem inputHint : ParamPlan.inputHint ctx = ParamPlan.inputHint ctx' := by
  funext p
  simp only [ParamPlan.inputHint, h.valueDisplay?]

theorem outputHint : ParamPlan.outputHint ctx = ParamPlan.outputHint ctx' := by
  funext p
  simp only [ParamPlan.outputHint, h.valueDisplay?]

theorem assignDefaults : assignDefaults ctx = assignDefaults ctx' := by
  funext ps
  induction ps with
  | nil => rfl
  | cons p rest ih => simp only [Bindery.assignDefaults, ih, h.defaultable?]

/-- Plans of one entry differ in their context and in nothing else. -/
theorem callPlan (e : Entry) : (CallPlan.of ctx e).within ctx' = CallPlan.of ctx' e := by
  simp only [CallPlan.of, CallPlan.within, h.paramPlan, h.assignDefaults]

/-- The types in the signature are looked up again, to the same end. -/
theorem signature {plan : CallPlan} (hplan : plan.context = ctx) :
    (plan.within ctx').signature = plan.signature := by
  have hinput : (plan.within ctx').inputText = plan.inputText := by
    funext p
    simp only [CallPlan.inputText, CallPlan.within, hplan, h.inputHint]
  rw [CallPlan.signature, CallPlan.signature, hinput]
  rfl

theorem returnHint {plan : CallPlan} (hplan : plan.context = ctx) :
    (plan.within ctx').returnHint = plan.returnHint := by
  have houtput : ParamPlan.outputHint (plan.within ctx').context =
      ParamPlan.outputHint plan.context := by
    rw [hplan, h.outputHint, CallPlan.within]
  rw [CallPlan.returnHint, CallPlan.returnHint, houtput]
  rfl

end Context.Agrees

/-! ## Files made from plans -/

namespace Render

variable (ctx : Context) (plans : List CallPlan)

private theorem importablePlans_within :
    importablePlans (plans.map (·.within ctx)) = (importablePlans plans).map (·.within ctx) := by
  rw [importablePlans, List.filter_map]
  rfl

/-- The files of closures never look at the context of a plan. -/
theorem importsFile_within : importsFile (plans.map (·.within ctx)) = importsFile plans := by
  simp only [importsFile, importDeclarations, importablePlans_within, List.map_map]
  rfl

theorem closuresFile_within : closuresFile (plans.map (·.within ctx)) = closuresFile plans := by
  simp only [closuresFile, importDefinitions, importablePlans_within, List.map_map,
    List.flatMap_map, List.length_map]
  rfl

theorem fillFile_within : fillFile (plans.map (·.within ctx)) = fillFile plans := by
  simp only [fillFile, List.map_map]
  rfl

theorem sourceFile_within : sourceFile (plans.map (·.within ctx)) = sourceFile plans := by
  simp only [sourceFile, List.filterMap_map, List.flatMap_map]
  rfl

end Render

namespace Context.Agrees

variable {ctx ctx' : Context} (h : ctx.Agrees ctx')

include h

/-! ## Members -/

theorem access (inClass : Bool) (p : Property) : p.access ctx inClass = p.access ctx' inClass := by
  simp only [Property.access, h.propertySkip?, h.parts?]

/-- What is left out of the accessors is decided by answers of the context. -/
theorem collectFrom : collectFrom ctx = collectFrom ctx' := by
  funext owner inClass functions seen props
  induction props generalizing seen with
  | nil => rfl
  | cons p rest ih => simp only [Bindery.collectFrom, h.access, ih]

theorem collectAccessors : collectAccessors ctx = collectAccessors ctx' := by
  funext owner inClass functions props
  simp only [Bindery.collectAccessors, h.collectFrom]

theorem delegateParam? : Datum.delegateParam? ctx = Datum.delegateParam? ctx' := by
  funext p
  simp only [Datum.delegateParam?, h.enumRepr?]

theorem readParams : readParams ctx = readParams ctx' := by
  funext ps
  induction ps with
  | nil => rfl
  | cons p rest ih => simp only [Bindery.readParams, h.delegateParam?, ih]

theorem delegate : Property.delegate ctx = Property.delegate ctx' := by
  funext owner p
  simp only [Property.delegate, h.delegateSkip?, h.readParams]

/-- The delegates that get an accessor, and the ones that are skipped. -/
theorem collectDelegates : collectDelegates ctx = collectDelegates ctx' := by
  funext owner taken props
  induction props generalizing taken with
  | nil => rfl
  | cons p rest ih => simp only [Bindery.collectDelegates, h.delegate, ih]

/-! ## References -/

theorem ofDatum : References.ofDatum ctx = References.ofDatum ctx' := by
  funext d
  simp only [References.ofDatum, h.isSome_class?, h.struct?, h.enum?]

theorem ofParts : References.ofParts ctx = References.ofParts ctx' := by
  funext d parts
  simp only [References.ofParts, h.ofDatum]

theorem runtimeBindings (r : References) : r.runtimeBindings ctx = r.runtimeBindings ctx' := by
  funext own
  simp only [References.runtimeBindings, h.binding?]

theorem hintBindings (r : References) : r.hintBindings ctx = r.hintBindings ctx' := by
  funext own
  simp only [References.hintBindings, h.binding?]

/-- The lines that import what an entity refers to. -/
theorem lines (r : References) : r.lines ctx = r.lines ctx' := by
  funext own
  simp only [References.lines, h.runtimeBindings, h.hintBindings]

end Context.Agrees

/-! ## Contents of files -/

/-- The method as another context has it. -/
def Method.within (ctx : Context) (f : Method) : Method := { f with plan := f.plan.within ctx }

/-- Methods are bound by their names, which no context changes. -/
theorem bindMethods_within (ctx : Context) (owner : Label) (taken : List String)
    (fs : List Method) :
    bindMethods owner taken (fs.map (·.within ctx)) =
      ((bindMethods owner taken fs).1.map (·.within ctx), (bindMethods owner taken fs).2) := by
  induction fs generalizing taken with
  | nil => rfl
  | cons f rest ih =>
    have hname : (f.within ctx).name = f.name := rfl
    simp only [List.map_cons, bindMethods, hname, ih]
    split <;> rfl

/-- The methods of a class's file are planned in its context. -/
theorem ClassModule.context_of_mem {ctx : Context} {c : ClassInfo} {entries : List Entry}
    {f : Method} (hf : f ∈ (ClassModule.of ctx c entries).methods) : f.plan.context = ctx := by
  obtain ⟨e, -, hplan⟩ := ClassModule.method_of hf
  rw [hplan]
  rfl

/-- The content of a class's file as another context has it. -/
def ClassModule.within (ctx : Context) (m : ClassModule) : ClassModule :=
  { m with context := ctx, methods := m.methods.map (·.within ctx) }

namespace Context.Agrees

variable {ctx ctx' : Context} (h : ctx.Agrees ctx')

include h

/-- The contents of one class, made in two contexts, differ in the context they keep. -/
theorem classModule (c : ClassInfo) (entries : List Entry) :
    (ClassModule.of ctx c entries).within ctx' = ClassModule.of ctx' c entries := by
  have hcandidates : (entries.map fun e => (⟨e.methodName, CallPlan.of ctx' e⟩ : Method)) =
      (entries.map fun e => (⟨e.methodName, CallPlan.of ctx e⟩ : Method)).map
        (·.within ctx') := by
    simp only [List.map_map, Function.comp_def, Method.within, h.callPlan]
  have hnames : ((entries.map fun e => (⟨e.methodName, CallPlan.of ctx e⟩ : Method)).map
        (·.within ctx')).map (·.name) =
      (entries.map fun e => (⟨e.methodName, CallPlan.of ctx e⟩ : Method)).map (·.name) := by
    simp only [List.map_map]
    rfl
  simp only [ClassModule.of, ClassModule.within, hcandidates, hnames, h.collectAccessors,
    h.collectDelegates, bindMethods_within]

theorem parent? {m : ClassModule} (hm : m.context = ctx) : (m.within ctx').parent? = m.parent? := by
  simp only [ClassModule.parent?, ClassModule.within, hm, h.isSome_class?]

theorem references {m : ClassModule} (hm : m.context = ctx) :
    (m.within ctx').references = m.references := by
  simp only [ClassModule.references, ClassModule.within, hm, h.ofDatum, h.ofParts, List.map_map]
  rfl

theorem otherReferences {m : ClassModule} (hm : m.context = ctx) :
    (m.within ctx').otherReferences = m.otherReferences := by
  simp only [ClassModule.otherReferences, h.references hm, h.parent? hm]

theorem parentBinding? {m : ClassModule} (hm : m.context = ctx) :
    (m.within ctx').parentBinding? = m.parentBinding? := by
  rw [ClassModule.parentBinding?, ClassModule.parentBinding?, h.parent? hm, hm, h.binding?]
  rfl

theorem structModule (s : StructInfo) :
    { StructModule.of ctx s with context := ctx' } = StructModule.of ctx' s := by
  simp only [StructModule.of, h.collectAccessors]

theorem structReferences (s : StructInfo) :
    (StructModule.of ctx s).references = (StructModule.of ctx' s).references := by
  simp only [← h.structModule s, StructModule.references]
  rw [← h.ofParts]
  rfl

end Context.Agrees

/-! ## Spelling -/

namespace Context.Agrees

open Render

variable {ctx ctx' : Context} (h : ctx.Agrees ctx') (binding : String) (inClass : Bool)

include h

theorem structWrapper? : structWrapper? ctx = structWrapper? ctx' := by
  funext a
  simp only [Render.structWrapper?, h.struct?]

theorem valueHint : valueHint ctx = valueHint ctx' := by
  funext a
  simp only [Render.valueHint, h.structWrapper?]

theorem fromHost : fromHost ctx = fromHost ctx' := by
  funext a raw
  simp only [Render.fromHost, h.structWrapper?]

theorem elementWire? : elementWire? ctx = elementWire? ctx' := by
  funext a
  simp only [Render.elementWire?, h.enumRepr?]

theorem accessorMethods :
    accessorMethods ⟨ctx, binding, inClass⟩ = accessorMethods ⟨ctx', binding, inClass⟩ := by
  funext a
  simp only [Render.accessorMethods, viewMethod, arrayMethods, scalarMethods, h.valueHint,
    h.fromHost, h.elementWire?]
  rfl

/-- A method is spelled out alike if its plan was made in the first context. -/
theorem methodLines {f : Method} (hf : f.plan.context = ctx) :
    methodLines binding (f.within ctx') = methodLines binding f := by
  have hsignature := h.signature hf
  have hreturn := h.returnHint hf
  simp only [Render.methodLines, Method.within, hsignature, hreturn]
  rfl

/-- The body of a class, whose methods were all planned in the first context. -/
theorem classBody {m : ClassModule} (hm : m.context = ctx)
    (hmethods : ∀ f ∈ m.methods, f.plan.context = ctx) :
    classBody (m.within ctx') = classBody m := by
  have hlines : (m.within ctx').methods.flatMap (Render.methodLines m.info.name.spoken) =
      m.methods.flatMap (Render.methodLines m.info.name.spoken) := by
    rw [ClassModule.within, List.flatMap_map]
    exact List.flatMap_congr fun f hf => h.methodLines _ (hmethods f hf)
  have haccessors := h.accessorMethods m.info.name.spoken true
  rw [← hm] at haccessors
  simp only [Render.classBody, h.parent? hm, haccessors]
  rw [← hlines]
  rfl

/-- The file does not show which context its content keeps. -/
theorem classFile_within {m : ClassModule} (hm : m.context = ctx)
    (hmethods : ∀ f ∈ m.methods, f.plan.context = ctx) :
    classFile (m.within ctx') = classFile m := by
  have hslots : (m.within ctx').methods.flatMap (fun f => slotLines f.plan) =
      m.methods.flatMap fun f => slotLines f.plan := by
    rw [ClassModule.within, List.flatMap_map]
    rfl
  have hlines : (m.within ctx').otherReferences.lines ctx' = m.otherReferences.lines ctx := by
    rw [h.otherReferences hm, h.lines]
  simp only [classFile, h.parentBinding? hm, h.classBody hm hmethods, hslots, hm]
  rw [← hlines]
  rfl

/-- The file of a class. The two contents are not equal, since each keeps its context. -/
theorem classFile (c : ClassInfo) (entries : List Entry) :
    classFile (.of ctx c entries) = classFile (.of ctx' c entries) := by
  rw [← h.classModule, h.classFile_within rfl fun f => ClassModule.context_of_mem]

/-- The file of a struct. -/
theorem structFile (s : StructInfo) :
    structFile (.of ctx s) = structFile (.of ctx' s) := by
  have haccessors := h.accessorMethods s.cppName.spoken false
  simp only [Render.structFile, h.structReferences]
  simp only [StructModule.of, h.collectAccessors, h.lines, haccessors]
  rfl

end Context.Agrees

namespace Check

variable {ctx ctx' : Context} (h : ctx.Agrees ctx')

include h

/-! ## Checks of types -/

private theorem layoutOf_congr : layoutOf ctx = layoutOf ctx' := by
  funext name
  simp only [layoutOf, h.enum?]

private theorem enumElement_congr : enumElement (some ctx) = enumElement (some ctx') := by
  funext d enum
  simp only [enumElement, Option.all_some, whenSome, h.enum?, layoutOf_congr h]

private theorem element_congr : element (some ctx) = element (some ctx') := by
  funext d
  simp only [element, enumElement_congr h, Option.isSome_some]

theorem parts_congr : parts (some ctx) = parts (some ctx') := by
  funext p
  simp only [parts, h.element?, element_congr h]

private theorem enumDefault_congr : enumDefault ctx = enumDefault ctx' := by
  funext enum
  simp only [enumDefault, layoutOf_congr h]

private theorem default_congr : default ctx = default ctx' := by
  funext p
  simp only [default, enumDefault_congr h]

/-! ## Checks of members -/

theorem references_congr : references ctx = references ctx' := by
  funext names
  simp only [references, h.isAvailable]

private theorem delegateParam_congr : delegateParam ctx = delegateParam ctx' := by
  funext p
  simp only [delegateParam, references_congr h]

private theorem signature_congr : signature ctx = signature ctx' := by
  funext s
  -- The first parameter that is skipped ends the check, and it is the same one in both contexts.
  simp only [signature, h.delegateParamSkip?, delegateParam_congr h]

theorem property_congr : property ctx = property ctx' := by
  funext p
  simp only [property, signature_congr h, references_congr h]

private theorem paramElement_congr : paramElement ctx = paramElement ctx' := by
  funext d
  simp only [paramElement, references_congr h]

private theorem param_congr : param ctx = param ctx' := by
  funext p
  simp only [param, h.elementExportable, h.missing?, paramElement_congr h, references_congr h]

theorem function_congr : function ctx = function ctx' := by
  funext blocklist owner names f
  simp only [function, h.paramSkip?, param_congr h]

/-- The check of a class's members looks names up and nothing else. -/
theorem members_congr : members ctx = members ctx' := by
  funext blocklist c
  simp only [members, property_congr h, function_congr h]

omit h in
/-- Nor does it depend on the order of a blocklist. -/
theorem members_blocklist_congr {b b' : Blocklist} (hb : b.Reordered b') :
    members ctx b = members ctx b' := by
  have hfunction : function ctx b = function ctx b' := by
    funext owner names f
    simp only [function, hb.blocks, hb.paramSkip?]
  funext c
  simp only [members, hfunction]

/-! ## Checks of the table -/

/-- The check of a function of the table. -/
theorem tableFunction_congr : tableFunction ctx = tableFunction ctx' := by
  funext f
  simp only [tableFunction, h.parts?, parts_congr h]

private theorem optionalParam_congr : optionalParam ctx = optionalParam ctx' := by
  funext p
  simp only [optionalParam, default_congr h]

/-- The check of a plan, which is made on the way. -/
theorem plan_congr : plan ctx = plan ctx' := by
  funext e
  simp only [plan, h.defaultable?, optionalParam_congr h, ← h.callPlan]
  rfl

private theorem returnHint_congr {p : CallPlan} (hp : p.context = ctx) :
    returnHint (p.within ctx') = returnHint p := by
  simp only [returnHint, hp, h.outputHint]
  rfl

/-! ## Checks of files -/

private theorem access_congr : access ctx = access ctx' := by
  funext inClass p
  simp only [access, h.propertySkip?, property_congr h, parts_congr h]

private theorem accessorMethods_congr : accessorMethods ctx = accessorMethods ctx' := by
  funext a
  simp only [accessorMethods, layoutOf_congr h]

private theorem imports_congr : imports ctx = imports ctx' := by
  funext own r
  simp only [imports, h.runtimeBindings, h.hintBindings]

/-- The check of a struct's file. -/
theorem structFile_congr : structFile ctx = structFile ctx' := by
  funext s
  have haccessors : (StructModule.of ctx s).accessors = (StructModule.of ctx' s).accessors := by
    rw [← h.structModule]
  simp only [structFile, access_congr h, imports_congr h, accessorMethods_congr h,
    h.structReferences, haccessors]

private theorem callbackParam_congr : callbackParam ctx = callbackParam ctx' := by
  funext d
  simp only [callbackParam, layoutOf_congr h]

private theorem delegate_congr : delegate ctx = delegate ctx' := by
  funext p
  simp only [delegate, h.delegateSkip?, h.delegateParam?, h.readParams, callbackParam_congr h]

omit h in
theorem forM_congr {α : Type} {f g : α → Check} {xs : List α} (hfg : ∀ a ∈ xs, f a = g a) :
    xs.forM f = xs.forM g := by
  induction xs with
  | nil => rfl
  | cons a rest ih =>
    show (f a >>= fun _ => rest.forM f) = g a >>= fun _ => rest.forM g
    rw [hfg a (.head _), ih fun b hb => hfg b (.tail _ hb)]

/-- The check of a class's file, whose methods are planned on the way. -/
theorem classFile_congr : classFile ctx = classFile ctx' := by
  funext c entries
  have hreturns : ((ClassModule.of ctx c entries).within ctx').methods.forM
        (fun f => returnHint f.plan) =
      (ClassModule.of ctx c entries).methods.forM fun f => returnHint f.plan := by
    simp only [ClassModule.within, List.forM_eq_forM, List.forM_map]
    exact forM_congr fun f hf => returnHint_congr h (ClassModule.context_of_mem hf)
  -- What asks for the context of the content is rewritten first, so that the rest agrees by `rfl`.
  have hempty : ((ClassModule.of ctx c entries).within ctx').methods.isEmpty =
      (ClassModule.of ctx c entries).methods.isEmpty := List.isEmpty_map
  have hparent := h.parentBinding? (m := ClassModule.of ctx c entries) rfl
  have hreferences := h.otherReferences (m := ClassModule.of ctx c entries) rfl
  simp only [classFile, access_congr h, delegate_congr h, imports_congr h,
    accessorMethods_congr h, ← h.classModule, hreturns, hempty, hparent, hreferences]
  rfl

end Check

end Bindery
