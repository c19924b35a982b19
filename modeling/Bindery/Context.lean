import Bindery.Config
import Bindery.Enum.Layout

/-!
# Build context

The entities of the enabled modules, grouped by module and indexed by name.

* `Context.build`: the context of a schema under a configuration. Packages without a mapping form
  a module named after them, which is enabled only along with a mapped module of that name.
* `Context.class?`, `struct?`, `enum?`: look-up by name; of several entities with a name the last
  one counts.
* `Context.binding?`: how a generated file refers to an entity of another one.
-/

namespace Bindery

/-- Entities of one sort, by module. Modules stand in the order of their first entity, entities
in the order of their names. -/
abbrev Groups (α : Type) := List (String × List α)

/-- The entities of a module. -/
def Groups.at {α : Type} (groups : Groups α) (module : String) : List α :=
  (Assoc.get? module groups).getD []

/-- Entities grouped by module. -/
def Groups.of {α : Type} (moduleOf : α → String) (name : α → Label) (entities : List α) :
    Groups α :=
  (entities.map moduleOf).eraseDups.map fun m =>
    (m, Label.sortOn name (entities.filter fun e => moduleOf e = m))

/-- The entities of the enabled modules. -/
structure Context where
  /-- Package and generated module. -/
  packages : List (String × Label) := []
  /-- Generated module and the feature that enables it. -/
  features : List (Label × Label) := []
  enabled : List String := []
  classes : Groups ClassInfo := []
  structs : Groups StructInfo := []
  enums : Groups EnumInfo := []
  classIndex : List ClassInfo := []
  structIndex : List StructInfo := []
  enumIndex : List EnumInfo := []

/-- How a generated file refers to an entity that another file of module `module` defines. -/
structure Binding where
  module : String
  symbol : Label
deriving DecidableEq

/-- The name of the file, without extension, that defines an entity. -/
def Binding.file (b : Binding) : String := b.symbol.identifier

/-- The import of a binding from a file of a sibling module. -/
def Binding.importLine (b : Binding) : String :=
  "from .." ++ b.module ++ "." ++ b.file ++ " import " ++ b.symbol.spoken

namespace Context

/-- The mapped packages, a later mapping replacing an earlier one. -/
def mappedPackages (config : Config) : List (String × Label) :=
  config.modules.foldl (fun acc m => Assoc.set m.package m.module acc) []

/-- The packages with those that entities add, each mapped to a module named after it. -/
def addPackages (packages : List (String × Label)) (entityPackages : List Label) :
    List (String × Label) :=
  entityPackages.foldl
    (fun acc p =>
      if (Assoc.get? p.spoken acc).isSome then acc
      else acc ++ [(p.spoken, .text p.identifier)])
    packages

/-- The enabled modules of a configuration. -/
def enabledModules (config : Config) : List String :=
  ((config.modules.filter (·.isEnabled config.features)).filterMap (·.module.text?)).eraseDups

/-- The features of the mapped modules, a later mapping replacing an earlier one. -/
def mappedFeatures (config : Config) : List (Label × Label) :=
  config.modules.foldl
    (fun acc m => Assoc.set (Label.among (acc.map (·.1)) m.module) m.feature acc) []

/-- The module of a package. -/
def moduleForPackage? (ctx : Context) (package : Label) : Option Label :=
  package.text?.bind fun p => Assoc.get? p ctx.packages

/-- The feature that enables a module. -/
def featureForModule? (ctx : Context) (module : Label) : Option Label :=
  (ctx.features.find? fun f => f.1.same module).map (·.2)

/-- The packages of a schema and a configuration, with the generated module of each. -/
def packagesOf (schema : Schema) (config : Config) : List (String × Label) :=
  addPackages (mappedPackages config)
    (schema.classes.map (·.package) ++ schema.structs.map (·.package)
      ++ schema.enums.map (·.package))

/-- The module of a package, if it is one of the enabled ones. -/
def enabledModule? (packages : List (String × Label)) (enabled : List String) (package : Label) :
    Option String :=
  ((Assoc.get? package.spoken packages).bind Document.text?).filter enabled.contains

/-- The context of a schema under a configuration. -/
def build (schema : Schema) (config : Config) : Context :=
  let packages := packagesOf schema config
  let enabled := enabledModules config
  let module? := enabledModule? packages enabled
  let moduleOf := fun package => (module? package).getD ""
  let classes := schema.classes.filter fun c => (module? c.package).isSome
  let structs := schema.structs.filter fun s => (module? s.package).isSome
  let enums := schema.enums.filter fun e => (module? e.package).isSome
  { packages, enabled
    features := mappedFeatures config
    classes := .of (fun c => moduleOf c.package) (·.name) classes
    structs := .of (fun s => moduleOf s.package) (·.name) structs
    enums := .of (fun e => moduleOf e.package) (·.name) enums
    classIndex := classes, structIndex := structs, enumIndex := enums }

/-- The class of a name. -/
def class? (ctx : Context) (name : Label) : Option ClassInfo :=
  ctx.classIndex.reverse.find? fun c => c.name.same name

/-- The struct of a name. -/
def struct? (ctx : Context) (name : Label) : Option StructInfo :=
  ctx.structIndex.reverse.find? fun s => s.name.same name

/-- The enum of a name. -/
def enum? (ctx : Context) (name : Label) : Option EnumInfo :=
  ctx.enumIndex.reverse.find? fun e => e.name.same name

/-- Whether an entity of some sort has the name. -/
def isAvailable (ctx : Context) (name : Label) : Bool :=
  (ctx.class? name).isSome || (ctx.struct? name).isSome || (ctx.enum? name).isSome

/-- The package of the entity of a name. -/
def packageOf? (ctx : Context) (name : Label) : Option Label :=
  ((ctx.class? name).map (·.package)).or
    (((ctx.struct? name).map (·.package)).or ((ctx.enum? name).map (·.package)))

/-- The module of the entity of a name. -/
def moduleOf? (ctx : Context) (name : Label) : Option String :=
  (ctx.packageOf? name >>= ctx.moduleForPackage?) >>= Document.text?

/-- The symbol that stands for an entity in the bindings: structs go by their C++ name. -/
def symbol? (ctx : Context) (name : Label) : Option Label :=
  if (ctx.class? name).isSome || (ctx.enum? name).isSome then some name
  else (ctx.struct? name).map (·.cppName)

/-- The binding of the entity of a name. -/
def binding? (ctx : Context) (name : Label) : Option Binding := do
  let symbol ← ctx.symbol? name
  let module ← ctx.moduleOf? name
  return { module, symbol }

/-- The type that the host stores an enum in. -/
def enumRepr? (ctx : Context) (name : Label) : Option IntType :=
  (ctx.enum? name).map (·.layout.repr)

/-- Modules and their classes, both in order of their names. -/
def classesInOrder (ctx : Context) : List (String × ClassInfo) :=
  (sortOn (·.1) ctx.classes).flatMap fun g => g.2.map (g.1, ·)

/-- The enabled modules in order of their names. -/
def modules (ctx : Context) : List String := sortTexts ctx.enabled

end Context
end Bindery
