import Bindery.Element

/-!
# References between generated files

Which other bindings a generated file refers to: enums when its code runs, classes and structs
only in type hints.

* `References`: the two sets, as lists with possible repetitions.
* `References.runtimeBindings`, `hintBindings`: the bindings to import, in order of their names.
* `References.lines`: the import lines.
-/

namespace Bindery

/-- The entities that a generated file refers to. -/
structure References where
  runtime : List Label := []
  hints : List Label := []

namespace References

/-- The references of both. -/
def append (a b : References) : References := ⟨a.runtime ++ b.runtime, a.hints ++ b.hints⟩

instance : Append References := ⟨append⟩

/-- The references of all. -/
def concat (rs : List References) : References := rs.foldr (· ++ ·) {}

/-- The references of a type. The class of an object is referred to by its wording. -/
def ofDatum (ctx : Context) (d : Datum) : References :=
  { runtime := (d.enum?.filter fun e => (ctx.enum? e).isSome).toList
    hints := (d.structName.given?.filter fun s => (ctx.struct? s).isSome).toList
      ++ ((d.target?.map fun c => Document.text c.spoken).filter fun c =>
        (ctx.class? c).isSome).toList }

/-- The references of a container element. -/
def ofElement (e : Element) : References :=
  { runtime := e.enumRef.toList, hints := e.classRef.toList ++ e.structRef.toList }

/-- The references of a type and, for containers, of its elements. -/
def ofParts (ctx : Context) (d : Datum) (parts : Option (List Element)) : References :=
  ofDatum ctx d ++ concat ((parts.getD []).map ofElement)

/-- Names in order, without repetitions and without `own`. -/
def others (own : Label) (names : List Label) : List Label :=
  Label.sortOn id ((Label.distinct names).filter fun n => !n.same own)

/-- The bindings that the file of entity `own` needs when it runs. -/
def runtimeBindings (r : References) (ctx : Context) (own : Label) : List Binding :=
  (others own r.runtime).filterMap ctx.binding?

/-- The bindings that the file of entity `own` only needs for type hints. -/
def hintBindings (r : References) (ctx : Context) (own : Label) : List Binding :=
  (others own (r.hints.filter fun n => !r.runtime.any n.same)).filterMap ctx.binding?

/-- The import lines of the file of entity `own`. -/
def lines (r : References) (ctx : Context) (own : Label) : List String :=
  let runtime := (r.runtimeBindings ctx own).map (·.importLine)
  let hints := (r.hintBindings ctx own).map fun b => "    " ++ b.importLine
  if hints.isEmpty then runtime
  else runtime ++ (if runtime.isEmpty then [] else [""]) ++ "if TYPE_CHECKING:" :: hints

end References
end Bindery
