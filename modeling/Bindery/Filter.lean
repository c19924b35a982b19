import Bindery.Element

/-!
# Filtering

Which members of the enabled classes can be bound. What is left out is recorded with a reason,
and overloads that stay get names of their own.

* `Skip`: the record of a member left out.
* `propertySkip?`, `functionSkip?`: why a member is left out, `none` if it stays.
* `renameOverloads`: distinct names for functions of one class.
* `Context.filtered`: the filtered context and the records.
-/

namespace Bindery

/-- A schema member that is left out of the bindings. -/
structure Skip where
  owner : Label
  member : Label
  reason : String
deriving DecidableEq

/-- The names of classes, structs, enums and interfaces that a type refers to. -/
def Datum.references (d : Datum) : List Label :=
  [d.className, d.structName, d.enumName, d.interfaceName,
    if d.kind = .classRef then d.metaClassName else .null].filterMap Label.given?

/-- The first reference of a type that is not available. -/
def Datum.missing? (d : Datum) (ctx : Context) : Option Label :=
  d.references.find? fun name => !ctx.isAvailable name

/-- Kinds whose fixed arrays cannot be copied element by element. -/
def PropertyKind.variableLength : PropertyKind → Bool
  | string | name | text => true
  | _ => false

/-- The names that count when a delegate's parameter is checked. -/
def Datum.delegateReferences (d : Datum) : List Label :=
  [d.className, d.structName, d.enumName].filterMap Label.given?

/-- Why a delegate cannot be bound because of a parameter. -/
def delegateParamSkip? (ctx : Context) (p : Datum) : Option String :=
  let start := "delegate parameter " ++ p.name.spoken
  if !p.kind.isSupported then some (start ++ " has unsupported type " ++ p.kind.tag)
  else if p.kind.isDelegate || p.kind.isContainer then some (start ++ " is a " ++ p.kind.tag)
  else
    (p.delegateReferences.find? fun name => !ctx.isAvailable name).map fun name =>
      start ++ " references unavailable type " ++ name.spoken

/-- Why a delegate property cannot be bound. -/
def delegateSkip? (ctx : Context) (p : Property) : Option String :=
  match p.signature with
  | none => some "delegate without signature"
  | some s => s.params.findSome? (delegateParamSkip? ctx)

/-- Why a property cannot be bound. -/
def propertySkip? (ctx : Context) (p : Property) : Option String :=
  if !p.kind.isSupported then some ("unsupported type " ++ p.kind.tag)
  else if 1 < p.arrayDim && p.kind.variableLength then some ("fixed array of " ++ p.kind.tag)
  else if p.isPrivate then some "private"
  else if p.isProtected then some "protected"
  else if p.kind.isDelegate then delegateSkip? ctx p
  else (p.missing? ctx).map fun name => "references unavailable type " ++ name.spoken

/-- Whether a container with this element can be a parameter. -/
def elementExportable (ctx : Context) (element : Option Datum) : Bool :=
  match element with
  | none => false
  | some d => d.kind.isSupported && !d.kind.isContainer && (d.missing? ctx).isNone

/-- Why a function cannot be bound because of a parameter. -/
def paramSkip? (ctx : Context) (blockedStructs : List String) (p : Property) : Option String :=
  let start := "parameter " ++ p.name.spoken
  if !p.kind.isSupported then some (start ++ " has unsupported type " ++ p.kind.tag)
  else if p.kind.isDelegate then some (start ++ " is a delegate")
  else if p.kind.isContainer && !p.elements.all (elementExportable ctx) then
    some ("container " ++ start ++ " has unresolvable elements")
  else
    match p.missing? ctx with
    | some name => some (start ++ " references unavailable type " ++ name.spoken)
    | none =>
      if p.structName.isOneOf blockedStructs then
        some (start ++ " uses blocked struct " ++ p.structName.spoken)
      else none

/-- The name that a convenience wrapper wraps: wrappers are marked by `K2_`. -/
def wrapped? (name : Label) : Option String :=
  name.text?.bind fun s =>
    if "K2_".toList.isPrefixOf s.toList then some (String.ofList (s.toList.drop 3)) else none

/-- Whether a function of a class is blocked. -/
def Blocklist.blocks (blocklist : Blocklist) (owner name : Label) : Bool :=
  blocklist.functionPairs.any fun p => .text p.1 = owner && .text p.2 = name

/-- Why a function of a class cannot be bound. `names` are the names of all functions of the
class: a convenience wrapper gives way to the function that it wraps. -/
def functionSkip? (ctx : Context) (blocklist : Blocklist) (owner : Label) (names : List Label)
    (f : Function) : Option String :=
  if blocklist.blocks owner f.name then some "blocked"
  else if !f.isNative then some "not native"
  else
    match (wrapped? f.name).filter fun target => names.contains (.text target) with
    | some target => some ("duplicate of " ++ target)
    | none => f.params.findSome? (paramSkip? ctx blocklist.structs)

/-- A name with a number. -/
def numbered (base : Label) (n : Nat) : Label := .text (base.spoken ++ "_" ++ toString n)

/-- The first of `base_n`, `base_(n + 1)`, … that is not taken, with the names in `taken` bounding
the search. -/
def freeSuffix (taken : List Label) (base : Label) (n : Nat) : Nat → Nat
  | 0 => n
  | fuel + 1 =>
    if taken.contains (numbered base n) then freeSuffix taken base (n + 1) fuel else n

/-- Renames the functions after those with the declared names `seen`, keeping clear of the names in
`taken`. -/
def renameFrom (seen taken : List Label) : List Function → List Function
  | [] => []
  | f :: rest =>
    let repeats := seen.countP f.name.same
    let f := { f with declaredName := f.name }
    if repeats = 0 then f :: renameFrom (f.name :: seen) taken rest
    else
      let n := freeSuffix taken f.name repeats taken.length
      let name := numbered f.name n
      { f with name } :: renameFrom (f.name :: seen) (name :: taken) rest

/-- Distinct names for functions of one class: the first declaration of a name keeps it, a later
one gets the next free number. -/
def renameOverloads (fs : List Function) : List Function :=
  renameFrom [] (fs.map (·.name)) fs

/-- The members for which a reason is given, as records. -/
def skipsOf {α : Type} (owner : Label) (name : α → Label) (reason : α → Option String)
    (members : List α) : List Skip :=
  members.filterMap fun m => (reason m).map fun r => ⟨owner, name m, r⟩

/-- A class without the members that cannot be bound, and the records of those. -/
def filterClass (ctx : Context) (blocklist : Blocklist) (c : ClassInfo) : ClassInfo × List Skip :=
  let propReason := propertySkip? ctx
  let funcReason := functionSkip? ctx blocklist c.name (c.funcs.map (·.name))
  ({ c with
      props := c.props.filter fun p => (propReason p).isNone
      funcs := renameOverloads (c.funcs.filter fun f => (funcReason f).isNone) },
    skipsOf c.name (·.name) propReason c.props ++ skipsOf c.name (·.name) funcReason c.funcs)

namespace Context

/-- The context without the blocked classes. -/
def unblocked (ctx : Context) (blocklist : Blocklist) : Context :=
  { ctx with
    classIndex := ctx.classIndex.filter fun c => !c.name.isOneOf blocklist.classes
    classes := ctx.classes.map fun g =>
      (g.1, g.2.filter fun c => !c.name.isOneOf blocklist.classes) }

/-- The context with what can be bound, and the records of what cannot. -/
def filtered (ctx : Context) (blocklist : Blocklist) : Context × List Skip :=
  let remaining := ctx.unblocked blocklist
  let results := remaining.classes.map fun g => (g.1, g.2.map (filterClass remaining blocklist))
  ({ remaining with classes := results.map fun g => (g.1, g.2.map (·.1)) },
    results.flatMap fun g => g.2.flatMap (·.2))

end Context
end Bindery
