import Bindery.Script.Call

/-!
# Scopes

What the names of a script stand for: those that the script itself binds, those of the script around
it, and those that every script knows. The body of an enum makes members of what it binds.

* `Scope`: the names that are bound.
* `Scope.find`: what a name stands for.
* `Scope.bind`, `Scope.unbind`: binding a name and taking that back.
* `Scope.memberValues`: the members that the body of an enum makes.
-/

namespace Bindery.Script

/-- The names that are bound where a script runs. -/
structure Scope where
  /-- The names that the script around it has bound. -/
  outer : List (String × Datum) := []
  inner : List (String × Datum) := []
  /-- The enum of which the script is the body, if it is one. -/
  enum : Option String := none
  /-- The names of the members of the enum. -/
  members : List String := []
  /-- Names that belong to the script around it. -/
  shared : List String := []

namespace Scope

/-- What a name stands for. -/
def find (scope : Scope) (s : String) : Except Fault Datum :=
  let own := if scope.shared.contains s then none else Assoc.get? s scope.inner
  match own.or ((Assoc.get? s scope.outer).or (Builtin.find? s)) with
  | some d => .ok d
  | none => .error .unbound

/-- Whether a name starts and ends with so many underscores and something else is between them. -/
def isFramed (count : Nat) (s : String) : Bool :=
  let frame := List.replicate count '_'
  let rest := s.toList.drop count
  2 * count < s.length && frame.isPrefixOf s.toList && frame.isSuffixOf s.toList
    && rest.head? ≠ some '_' && (rest.reverse.drop count).head? ≠ some '_'

/-- The framed names that an enum has a use for. -/
def reserved : List String := [
  "_order_", "_generate_next_value_", "_missing_", "_ignore_", "_iter_member_",
  "_iter_member_by_value_", "_iter_member_by_def_"]

/-- Whether a name in the body of an enum never makes a member: it is private to the class, or one
that every class can have. -/
def isPlainIn (enum s : String) : Bool :=
  EnumLayout.isPrivateTo enum s || isFramed 2 s || reserved.contains s
    || ("__".toList.isPrefixOf s.toList && !"__".toList.isSuffixOf s.toList
      && enum.toList.any (· ≠ '_'))

/-- Whether a datum in the body of an enum is no member of it. -/
def isNoMember : Datum → Bool
  | .lambda => true
  | .ofKind "property" | .ofKind "classmethod" | .ofKind "staticmethod" => true
  | d => Operation.isOpen d

/-- A scope with one more name, or with another meaning of a name. An enum has every name once, and
the refusal tells what the name stands for already, unless that has been deleted. -/
def bind (scope : Scope) (s : String) (d : Datum) : Except Fault Scope :=
  if scope.shared.contains s then .ok { scope with outer := Assoc.set s d scope.outer }
  else
    let bound := { scope with inner := Assoc.set s d scope.inner }
    match scope.enum with
    | none => .ok bound
    | some enum =>
      if isPlainIn enum s then .ok bound
      else if isFramed 1 s then .error .malformed
      else if scope.members.contains s then
        .error (if (Assoc.get? s scope.inner).isSome then .wrongType else .noSuchKey)
      else if isNoMember d then .ok bound
      else if (Assoc.get? s scope.inner).isSome then .error .wrongType
      else .ok { bound with members := scope.members ++ [s] }

/-- A scope without a name that is bound in it. -/
def unbind (scope : Scope) (s : String) : Except Fault Scope :=
  if scope.shared.contains s then
    if (Assoc.get? s scope.outer).isSome then .ok { scope with outer := Assoc.erase s scope.outer }
    else .error .unbound
  else if (Assoc.get? s scope.inner).isSome then
    .ok { scope with inner := Assoc.erase s scope.inner }
  else .error .unbound

/-- A scope in which it is no longer known what a name stands for, if it is bound. -/
def forget (scope : Scope) (s : String) : Scope :=
  if (Assoc.get? s scope.inner).isSome then
    { scope with inner := Assoc.set s .unknown scope.inner }
  else scope

/-- The integer of a member of an enum. The items of a tuple are the arguments that make it. -/
def memberValue (d : Datum) : Except Fault (Option Int) :=
  match d with
  | .sequence .tuple args => Call.integer args
  | d => Call.integer [d]

/-- The members that the body of an enum makes, with their integers. -/
def memberValues (scope : Scope) : Except Fault (List (String × Int)) :=
  scope.members.foldlM
    (fun known s => do
      match Assoc.get? s scope.inner with
      | none => throw .noSuchKey
      | some d => return known ++ ((← memberValue d).map fun n => (s, n)).toList)
    []

end Scope
end Bindery.Script
