import Bindery.Check.Filter
import Bindery.Output
import Bindery.Plan.Basic

/-!
# Checks of the output

What the files ask of a context whose function table has been made.

* `Check.plan`: the names and defaults of a function's parameters.
* `Check.returnHint`: the result type of a bound method.
* `Check.enumFile`, `Check.structFile`, `Check.classFile`: the files of entities.
* `Check.render`: all files.
* `Check.generate`: everything from a schema and a configuration on.
-/

namespace Bindery.Check

/-! ## Call plans -/

/-- The default of a parameter that may be optional. -/
def optionalParam (ctx : Context) (p : ParamPlan) : Check :=
  if p.direction = .input && !p.isContainer then default ctx p.param else .ok ()

/-- The plan of a table entry. Defaults are looked at from the last input on, up to one that cannot
be optional. -/
def plan (ctx : Context) (e : Entry) : Check := do
  e.func.params.forM fun p => snakeCase p.name
  upTo (fun p => (p.defaultable? ctx).isNone) (optionalParam ctx)
    (CallPlan.of ctx e).inputs.reverse

/-- The result type of a bound method; several types are joined. -/
def returnHint (p : CallPlan) : Check :=
  let types := p.outputs.map (ParamPlan.outputHint p.context)
  if 2 ≤ types.length then texts types else .ok ()

/-! ## Files -/

/-- An enum and its file. -/
def enumFile (e : EnumInfo) : Check := do
  layout e
  snakeCase e.name

/-- A property that may get an accessor. -/
def access (ctx : Context) (inClass : Bool) (p : Property) : Check := do
  require (p.kind ≠ .absent) .noSuchMember
  if !p.hasAccessor && !p.kind.isDelegate then
    property ctx p
    if (propertySkip? ctx p).isNone then
      mapping p.toDatum
      if p.mapping.supported then
        accessorName p.name
        if inClass && p.arrayDim ≤ 1 then parts (some ctx) p

/-- The methods of an accessor. -/
def accessorMethods (ctx : Context) (a : Accessor) : Check :=
  if a.isView then viewDisplay a.parts
  else if 1 < a.prop.arrayDim && a.mapping.conversion = .enumCast then layoutOf ctx a.prop.enumName
  else .ok ()

/-- The imports of the file of entity `own`. -/
def imports (ctx : Context) (own : Label) (r : References) : Check := do
  comparable (References.others own r.runtime)
  comparable (References.others own (r.hints.filter fun n => !r.runtime.any n.same))
  (r.runtimeBindings ctx own ++ r.hintBindings ctx own).forM fun b => snakeCase b.symbol

/-- A struct and its file. -/
def structFile (ctx : Context) (s : StructInfo) : Check := do
  if s.hasStaticStruct then s.props.forM (access ctx false)
  let m := StructModule.of ctx s
  imports ctx s.name m.references
  m.accessors.forM (accessorMethods ctx)
  snakeCase s.cppName

/-- A parameter of a delegate as callbacks receive it. -/
def callbackParam (ctx : Context) (d : Datum) : Check :=
  if d.direction = .result then .ok ()
  else do
    snakeCase d.name
    if d.kind = .byte || d.kind = .enum then whenSome (layoutOf ctx) d.enum?

/-- A property that may be a delegate. -/
def delegate (ctx : Context) (p : Property) : Check :=
  if !p.kind.isDelegate || (delegateSkip? ctx p).isSome then .ok ()
  else do
    let params := (p.signature.map (·.params)).getD []
    let refused := fun d => d.direction ≠ .result && (d.delegateParam? ctx).isNone
    upTo refused (callbackParam ctx) params
    if (readParams ctx params).isOk then accessorName p.name

/-- The expression by which a delegate's wrapper reads a parameter. Enum names are templates, as
they stand, of the conversions. -/
def readText (index : Nat) (p : DelegateParam) (d : Datum) : Check :=
  match d.enum?, d.kind with
  | some enum, .byte | some enum, .enum =>
    let read := DelegateParam.readText { p with convert := none } index
    match Template.fault? (enum.spoken ++ ".from_value(\x7b\x7d)") (Text.size read) with
    | some f => .error f
    | none => .ok ()
  | _, _ => .ok ()

/-- The wrapper of a delegate. -/
def wrapper (d : Delegate) : Check :=
  ((d.params.zip (d.signature.params.filter (·.direction ≠ .result))).zipIdx).forM fun p =>
    readText p.2 p.1.1 p.1.2

/-- A class and its file. -/
def classFile (ctx : Context) (c : ClassInfo) (entries : List Entry) : Check := do
  c.props.forM (access ctx true)
  c.props.forM (delegate ctx)
  let m := ClassModule.of ctx c entries
  m.delegates.forM fun d => d.signature.params.forM mapping
  whenSome key c.super.given?
  whenSome (fun b => snakeCase b.symbol) m.parentBinding?
  imports ctx c.name m.otherReferences
  if !m.methods.isEmpty then snakeCase c.name
  m.delegates.forM wrapper
  m.accessors.forM (accessorMethods ctx)
  m.methods.forM fun f => returnHint f.plan
  snakeCase c.name

/-- The files of a module. -/
def moduleFiles (p : Prepared) (module : String) : Check := do
  let ctx := p.context
  (ctx.enums.at module).forM enumFile
  (ctx.structs.at module).forM (structFile ctx)
  (ctx.classes.at module).forM fun c =>
    classFile ctx c (p.table.filter fun e => e.module = module && e.className = c.name)

/-- The headers of the C++ file of a class. -/
def headers (p : Prepared) (owner : String × Label) : Check := do
  let found := (p.table.filter fun e => e.module = owner.1 && e.className = owner.2).filterMap
    (·.header.given?)
  found.forM key
  comparable (Label.distinct found)

/-- The call plans of a prepared context. -/
def plans (p : Prepared) : Check := p.table.forM (plan p.context)

/-- The files of a prepared context. -/
def render (p : Prepared) : Check := do
  plans p
  p.context.modules.forM (moduleFiles p)
  (Render.tableClasses p.table).forM (headers p)

/-- The files of a schema under a configuration. -/
def generate (schema : Schema) (config : Config) : Check := do
  prepare schema config
  render (Prepared.of schema config)

end Bindery.Check
