import Bindery.Accessor
import Bindery.Delegate
import Bindery.Plan.Sandbox
import Bindery.References

/-!
# Modules of classes and structs

What the generated file of a class or struct contains, before it is spelled out.

* `ClassModule.of`: the accessors, delegates and bound functions of a class, with distinct method
  names.
* `ClassModule.methodNames`: the names of all its methods.
* `StructModule.of`: the accessors of a struct.
-/

namespace Bindery

/-- Members of the class binding that functions must not hide. -/
def classReserved : List String := [
  "handle", "checked", "cast", "as_ref", "static_class", "CLASS_NAME"]

/-- A function bound as a method. -/
structure Method where
  name : String
  plan : CallPlan

/-- The method name of a table entry. -/
def Entry.methodName (e : Entry) : String :=
  let name := Naming.escapeReserved e.snakeName
  if classReserved.contains name then name ++ "_" else name

/-- The content of the file of a class. -/
structure ClassModule where
  context : Context
  info : ClassInfo
  accessors : List Accessor
  delegates : List Delegate
  methods : List Method
  /-- Records of the members that were left out here. -/
  skips : List Skip

/-- The methods whose names are not in `taken`, and the records of the others. -/
def bindMethods (owner : Label) (taken : List String) : List Method → List Method × List Skip
  | [] => ([], [])
  | m :: rest =>
    if taken.contains m.name then
      let (methods, skips) := bindMethods owner taken rest
      (methods, ⟨owner, m.plan.entry.funcName,
        "method name " ++ m.name ++ " collides with an accessor"⟩ :: skips)
    else
      let (methods, skips) := bindMethods owner (m.name :: taken) rest
      (m :: methods, skips)

namespace ClassModule

/-- The content of the file of a class whose functions have the given table entries. -/
def of (ctx : Context) (c : ClassInfo) (entries : List Entry) : ClassModule :=
  let candidates := entries.map fun e => (⟨e.methodName, CallPlan.of ctx e⟩ : Method)
  let (accessors, accessorSkips) :=
    collectAccessors ctx c.name true (candidates.map (·.name)) c.props
  let taken := accessors.flatMap (·.methods)
  let (delegates, delegateSkips) := collectDelegates ctx c.name taken c.props
  let (methods, methodSkips) :=
    bindMethods c.name (taken ++ delegates.map (·.accessor)) candidates
  { context := ctx, info := c, accessors, delegates, methods
    skips := accessorSkips ++ delegateSkips ++ methodSkips }

/-- The class that the generated class extends, if it is bound too. -/
def parent? (m : ClassModule) : Option Label :=
  m.info.super.given?.filter fun s => (m.context.class? s).isSome && !s.same m.info.name

/-- The entities that the file refers to. -/
def references (m : ClassModule) : References :=
  .concat (
    m.accessors.map (fun a => .ofParts m.context a.prop.toDatum a.parts)
    ++ m.delegates.map (fun d => .concat (d.signature.params.map (.ofDatum m.context)))
    ++ m.methods.map fun f =>
      .concat (f.plan.params.map fun p => .ofParts m.context p.param.toDatum p.parts))

/-- The references apart from the parent, which has an import of its own. -/
def otherReferences (m : ClassModule) : References :=
  let r := m.references
  { r with hints := r.hints.filter fun n => some n != m.parent? }

/-- The import of the parent. -/
def parentBinding? (m : ClassModule) : Option Binding := m.parent? >>= m.context.binding?

/-- The names of all methods of the generated class. -/
def methodNames (m : ClassModule) : List String :=
  m.accessors.flatMap (·.methods) ++ m.delegates.map (·.accessor) ++ m.methods.map (·.name)

end ClassModule

/-- The content of the file of a struct. -/
structure StructModule where
  context : Context
  info : StructInfo
  accessors : List Accessor
  skips : List Skip

namespace StructModule

/-- The content of the file of a struct. Fields are only accessible in structs that the host can
look up by name. -/
def of (ctx : Context) (s : StructInfo) : StructModule :=
  let (accessors, skips) :=
    if s.hasStaticStruct then collectAccessors ctx s.name false [] s.props else ([], [])
  { context := ctx, info := s, accessors, skips }

/-- The entities that the file refers to. -/
def references (m : StructModule) : References :=
  .concat (m.accessors.map fun a => .ofParts m.context a.prop.toDatum a.parts)

end StructModule
end Bindery
