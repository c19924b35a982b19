import Bindery.Filter

/-!
# Property accessors

The methods through which a generated class or struct gives access to its properties.

* `Accessor`: a bound property with the names of its methods.
* `Property.access`: what becomes of one property, seen on its own.
* `collectAccessors`: the accessors of an entity, with distinct method names, and the records of
  the properties left out.
-/

namespace Bindery

/-- A bound property and its methods. Containers have a view instead of a getter and a setter. -/
structure Accessor where
  prop : Property
  mapping : Mapping
  getter : String
  setter : Option String := none
  parts : Option (List Element) := none

namespace Accessor

/-- Whether the accessor is a view on a container. -/
def isView (a : Accessor) : Bool := a.mapping.conversion.isContainer

/-- The names of the accessor's methods. -/
def methods (a : Accessor) : List String := a.getter :: a.setter.toList

end Accessor

/-- Members of the binding base classes that views must not hide. -/
def viewReserved : List String := [
  "handle", "checked", "cast", "as_ref", "static_class", "value", "as_ptr", "static_struct",
  "CLASS_NAME", "STRUCT_NAME"]

/-- What becomes of a property. -/
inductive Access where
  /-- It is left out, and the reason is recorded. -/
  | skipped (reason : String)
  /-- It is left out silently: other parts of the bindings cover it or cannot do so. -/
  | ignored
  | view (name : String) (parts : List Element)
  | fields (getter setter : String)

/-- What becomes of a property, apart from clashes of names. Containers are only bound on
classes. -/
def Property.access (ctx : Context) (inClass : Bool) (p : Property) : Access :=
  if p.hasAccessor then .skipped "has an explicit getter/setter"
  else if p.kind.isDelegate then .ignored
  else
    match propertySkip? ctx p with
    | some reason => .skipped reason
    | none =>
      match p.mapping.unsupported with
      | some reason => .skipped reason
      | none =>
        let base := p.name.accessorName
        if p.mapping.conversion.isContainer then
          if !inClass || 1 < p.arrayDim then .ignored
          else
            match p.parts? (some ctx) with
            | none => .skipped "container with unresolvable elements"
            | some parts =>
              let name := Naming.escapeReserved base
              .view (if viewReserved.contains name then name ++ "_" else name) parts
        else .fields ("get_" ++ base) ("set_" ++ base)

/-- The accessors of properties and the records of those left out. A property whose getter or
view has a name in `seen` is dropped; a setter whose name is taken by a function or in `seen` is
dropped and its getter kept. -/
def collectFrom (ctx : Context) (owner : Label) (inClass : Bool) (functions seen : List String) :
    List Property → List Accessor × List Skip
  | [] => ([], [])
  | p :: rest =>
    match p.access ctx inClass with
    | .skipped reason =>
      let (accessors, skips) := collectFrom ctx owner inClass functions seen rest
      (accessors, ⟨owner, p.name, reason⟩ :: skips)
    | .ignored => collectFrom ctx owner inClass functions seen rest
    | .view name parts =>
      if seen.contains name then collectFrom ctx owner inClass functions seen rest
      else
        let (accessors, skips) := collectFrom ctx owner inClass functions (name :: seen) rest
        ({ prop := p, mapping := p.mapping, getter := name, parts := some parts } :: accessors,
          skips)
    | .fields getter setter =>
      if seen.contains getter then collectFrom ctx owner inClass functions seen rest
      else
        let seen := getter :: seen
        let setter? :=
          if functions.contains setter || seen.contains setter then none else some setter
        let (accessors, skips) :=
          collectFrom ctx owner inClass functions (setter?.toList ++ seen) rest
        ({ prop := p, mapping := p.mapping, getter, setter := setter? } :: accessors, skips)

/-- The accessors of an entity's properties. -/
def collectAccessors (ctx : Context) (owner : Label) (inClass : Bool) (functions : List String)
    (props : List Property) : List Accessor × List Skip :=
  collectFrom ctx owner inClass functions [] props

end Bindery
