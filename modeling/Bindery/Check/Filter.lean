import Bindery.Check.Types
import Bindery.FuncTable

/-!
# Checks before the function table

What grouping, filtering and numbering ask of a schema and a configuration.

* `Check.build`: the entities and the modules.
* `Check.filter`: the members of the enabled classes.
* `Check.table`: the types of the parameters of the functions that stay.
* `Check.prepare`: all of them in turn; `Check.listing`: with look-ups in between.
-/

namespace Bindery.Check

/-! ## Grouping -/

/-- The mapping of a package. -/
def moduleMapping (m : ModuleMapping) : Check := do
  key m.module
  key m.feature

/-- Entities grouped by module. -/
def groups {α : Type} (name : α → Label) (groups : Groups α) : Check :=
  groups.forM fun g => do
    (g.2.map name).forM key
    comparable (g.2.map name)

/-- The entities of a schema and the modules of a configuration. Packages are texts, and so are
enabled modules. -/
def build (schema : Schema) (config : Config) : Check := do
  config.modules.forM moduleMapping
  texts (schema.classes.map (·.package) ++ schema.structs.map (·.package)
    ++ schema.enums.map (·.package))
  let ctx := Context.build schema config
  groups (·.name) ctx.classes
  groups (·.name) ctx.structs
  groups (·.name) ctx.enums
  texts ((config.modules.filter (·.isEnabled config.features)).map (·.module))

/-- Look-ups of names in a context. -/
def lookups (ctx : Context) (names : List Label) : Check :=
  names.forM fun name => do
    key name
    whenSome (fun b => snakeCase b.symbol) (ctx.binding? name)
    layoutOf ctx name

/-! ## Filtering -/

/-- Names that a type refers to, up to one that is not available. -/
def references (ctx : Context) (names : List Label) : Check :=
  upTo (fun name => !ctx.isAvailable name) key names

/-- A parameter of a delegate. -/
def delegateParam (ctx : Context) (p : Datum) : Check := do
  kind p
  if p.kind.isSupported && !p.kind.isDelegate && !p.kind.isContainer then
    references ctx p.delegateReferences

/-- The parameters of a delegate, up to one for which it cannot be bound. -/
def signature (ctx : Context) (s : Signature) : Check :=
  upTo (fun p => (delegateParamSkip? ctx p).isSome) (delegateParam ctx) s.params

/-- A property. -/
def property (ctx : Context) (p : Property) : Check := do
  kind p.toDatum
  if p.kind.isSupported && !(1 < p.arrayDim && p.kind.variableLength) && !p.isPrivate
      && !p.isProtected then
    if p.kind.isDelegate then whenSome (signature ctx) p.signature
    else references ctx p.references

/-- An element of a container parameter. -/
def paramElement (ctx : Context) (d : Datum) : Check := do
  kind d
  if d.kind.isSupported && !d.kind.isContainer then references ctx d.references

/-- A function parameter. -/
def param (ctx : Context) (p : Property) : Check := do
  kind p.toDatum
  if p.kind.isSupported && !p.kind.isDelegate then
    if p.kind.isContainer then
      upTo (fun e => !elementExportable ctx e) (whenSome (paramElement ctx)) p.elements
    if !p.kind.isContainer || p.elements.all (elementExportable ctx) then
      references ctx p.references
      if (p.missing? ctx).isNone then key p.structName

/-- A function of a class whose functions have the given names. -/
def function (ctx : Context) (blocklist : Blocklist) (owner : Label) (names : List Label)
    (f : Function) : Check :=
  if blocklist.blocks owner f.name || !f.isNative then .ok ()
  else do
    require f.name.isText .noSuchMember
    if !(wrapped? f.name).any fun target => names.contains (.text target) then
      upTo (fun p => (paramSkip? ctx blocklist.structs p).isSome) (param ctx) f.params

/-- The members of a class. -/
def members (ctx : Context) (blocklist : Blocklist) (c : ClassInfo) : Check := do
  c.props.forM (property ctx)
  let names := c.funcs.map (·.name)
  names.forM key
  c.funcs.forM (function ctx blocklist c.name names)

/-- The members of the classes that are not blocked. -/
def filter (ctx : Context) (blocklist : Blocklist) : Check :=
  let remaining := ctx.unblocked blocklist
  remaining.classes.forM fun g => g.2.forM (members remaining blocklist)

/-! ## Numbering -/

/-- The parameters of a function that passed the filter. -/
def tableFunction (ctx : Context) (f : Function) : Check := do
  upTo (fun p => !p.mapping.supported) (fun p => mapping p.toDatum) f.params
  if f.params.all fun p => p.mapping.supported then
    upTo (fun p => p.kind.isContainer && (p.parts? (some ctx)).isNone) (parts (some ctx)) f.params

/-- The functions of a filtered context. -/
def table (ctx : Context) : Check :=
  ctx.classesInOrder.forM fun c =>
    if c.2.super = .text "Interface" then .ok () else c.2.funcs.forM (tableFunction ctx)

/-- The constants of a function table. -/
def constants (entries : List Entry) : Check := entries.forM fun e => do
  snakeCase e.className
  snakeCase e.funcName

/-- All stages up to the function table. -/
def prepare (schema : Schema) (config : Config) : Check := do
  build schema config
  let ctx := Context.build schema config
  filter ctx config.blocklist
  table (ctx.filtered config.blocklist).1

/-- All stages up to the constants of the function table, with look-ups of names in the context and
all its classes in order. -/
def listing (schema : Schema) (config : Config) (names : List Label) : Check := do
  build schema config
  let ctx := Context.build schema config
  lookups ctx names
  filter ctx config.blocklist
  let filtered := (ctx.filtered config.blocklist).1
  comparable (Label.distinct (filtered.classIndex.map (·.name)))
  table filtered
  constants filtered.funcTable

end Bindery.Check
