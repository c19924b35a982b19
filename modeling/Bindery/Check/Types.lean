import Bindery.Default
import Bindery.Element
import Bindery.Schema.Label

/-!
# Checks

Schema documents are not typed, so a value can stand where the generator has no use for it. A check
finds the first such value that a stage of the generator meets. The stages themselves are total
functions and count on nothing, so what they make of a value that fails its check does not matter.

* `Check`: the outcome, the first fault if there is one.
* `Check.require`: one condition.
* `Check.upTo`: the members of a list up to one after which no more are looked at.
* `Check.key`, `texts`, `comparable`, `snakeCase`, `accessorName`: what stages ask of labels.
* `Check.mapping`: the representation of a type.
* `Check.element`, `Check.parts`: the elements of containers.
* `Check.default`: the literal of a default.
-/

namespace Bindery

/-- The outcome of a check. -/
abbrev Check := Except Fault Unit

namespace Check

/-- A condition, with the fault if it does not hold. -/
def require (ok : Bool) (fault : Fault := .wrongType) : Check :=
  if ok then .ok () else .error fault

@[simp] theorem require_eq_ok_iff {ok : Bool} {fault : Fault} :
    require ok fault = .ok () ↔ ok = true := by
  cases ok <;> simp [require]

/-- Checks what is there. -/
def whenSome {α : Type} (check : α → Check) : Option α → Check
  | none => .ok ()
  | some a => check a

/-- Checks members in order, up to and including the first one that `stop` holds of. -/
def upTo {α : Type} (stop : α → Bool) (check : α → Check) : List α → Check
  | [] => .ok ()
  | a :: rest => do
    check a
    if !stop a then upTo stop check rest

theorem upTo_eq_ok_of_all {α : Type} {stop : α → Bool} {check : α → Check} {xs : List α}
    (h : ∀ a ∈ xs, check a = .ok ()) : upTo stop check xs = .ok () := by
  induction xs with
  | nil => rfl
  | cons a rest ih =>
    have ha : check a = .ok () := h a (by simp)
    have hrest := ih fun b hb => h b (by simp [hb])
    cases hs : stop a <;> simp [upTo, ha, hs, hrest, bind, Except.bind, pure, Except.pure]

/-- A label that entities are looked up by. -/
def key (l : Label) : Check := require l.isKey

/-- Labels that are joined to one text. -/
def texts (ls : List Label) : Check := require (ls.all Label.isText)

/-- Labels that are put in order. -/
def comparable (ls : List Label) : Check := require (Label.comparable ls)

/-- A label that is put in snake case. -/
def snakeCase (l : Label) : Check := l.snakeCase?.map fun _ => ()

/-- A label that an accessor is named after. -/
def accessorName (l : Label) : Check := l.accessorName?.map fun _ => ()

end Check
end Bindery

namespace Bindery.Check

/-! ## Types -/

/-- The kind of an entry. A null entry has none, and some values denote none. -/
def kind (d : Datum) : Check := do
  require (d.kind ≠ .absent) .noSuchMember
  require (d.kind ≠ .unusable)

/-- The declared integer type of an enum that a type refers to. -/
def underlying (l : Label) : Check := whenSome key l.given?

/-- The layout of an enum. -/
def layout (e : EnumInfo) : Check := key e.underlying

/-- The layout of the enum of a name, if there is one. -/
def layoutOf (ctx : Context) (name : Label) : Check := whenSome layout (ctx.enum? name)

/-- The representation of a type. -/
def mapping (d : Datum) : Check := do
  kind d
  if (d.kind = .byte || d.kind = .enum) && d.enum?.isSome then underlying d.enumUnderlying

/-- The enum of a container element. -/
def enumElement (ctx : Option Context) (d : Datum) (enum : Label) : Check := do
  key enum
  if ctx.all fun ctx => (ctx.enum? enum).isSome then
    underlying d.enumUnderlying
    whenSome (fun ctx => layoutOf ctx enum) ctx

/-- A container element. -/
def element (ctx : Option Context) (d : Datum) : Check := do
  kind d
  if d.kind = .byte || d.kind = .enum then whenSome (enumElement ctx d) d.enum?
  else if d.kind = .struct then
    if ctx.isSome then whenSome key d.structName.given?
  else whenSome key d.target?

/-- The elements of a container, up to one that cannot be stored. -/
def parts (ctx : Option Context) (p : Property) : Check :=
  if p.kind.isContainer then
    upTo (fun e => (e.bind fun d => d.element? ctx).isNone) (whenSome (element ctx)) p.elements
  else .ok ()

/-- The type of a view on a container, joined from the types of its elements. -/
def viewDisplay (elements : Option (List Element)) : Check :=
  texts ((elements.getD []).map (·.display))

/-- Everything that represents a type: in slots, as an element, and as a container. -/
def representation (ctx : Option Context) (p : Property) : Check := do
  mapping p.toDatum
  element ctx p.toDatum
  parts ctx p
  viewDisplay (p.parts? ctx)

/-- The default of an enum. -/
def enumDefault (ctx : Context) (enum : Label) : Check := do
  key enum
  layoutOf ctx enum

/-- The default of a number with a fraction. -/
def floatDefault : Document → Check
  | .int n => require (Number.Double.ofInt n).isFinite .outOfRange
  | .null | .list _ | .table _ | .moment _ => .error .wrongType
  | _ => .ok ()

/-- The default of a parameter whose type has been checked. -/
def default (ctx : Context) (p : Property) : Check :=
  if p.default = .null || p.mapping.conversion = .structBytes then .ok ()
  else
    match p.kind with
    | .float | .double => floatDefault p.default
    | .enum => enumDefault ctx p.enumName
    | .byte =>
      match p.enum? with
      | some enum => enumDefault ctx enum
      | none => texts [p.default]
    | kind => if kind.intRow?.isSome then texts [p.default] else .ok ()

end Bindery.Check
