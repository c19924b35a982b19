import Bindery.Session.State
import Bindery.Value.Document

/-!
# Commands

A command has a name and fields. It says which fields it needs and which ones it may have, and with
other fields it is refused.

* `Fields`: the fields of a command, with `Fields.value`, `valueD`, `flag` and `text`.
* `Command`: a command, with `Command.apply`; `Commands` are commands by their names.
* `Scope`: a command that runs other commands inside of it.
-/

namespace Bindery

/-- The fields of a command by their names. -/
abbrev Fields := List (String × Value)

namespace Fields

variable (fields : Fields) (key : String)

/-- A field that may be missing. -/
def value? : Option Value := fields.lookup key

/-- A field, with what it is if it is missing. -/
def valueD (default : Value) : Value := (fields.value? key).getD default

/-- A field that has to be there. -/
def value : Act Session Value :=
  match fields.value? key with
  | some v => return v
  | none => throw .wrongType

/-- Whether a field is there and counts as true. -/
def flag : Bool := (fields.valueD key .null).isTruthy

/-- A field that is a text. -/
def text : Act Session String := do
  match ← fields.value key with
  | .text s => return s
  | _ => throw .wrongType

/-- A field that is the key of a table. -/
def asKey : Act Session Value := do (← fields.value key).asKey

/-- The arguments of a call. -/
def args : Value := fields.valueD "args" (.list [])

/-- Whether the fields hold those that are needed, and none that is not expected. -/
def fit (required optional : List String) : Bool :=
  (required.all fun name => (fields.value? name).isSome)
    && fields.all fun f => (required ++ optional).contains f.1

end Fields

/-- A command. -/
structure Command where
  /-- The fields that it needs. -/
  required : List String
  /-- The fields that it may have besides. -/
  optional : List String
  run : Fields → Act Session Value

namespace Command

/-- A command without fields. -/
def plain (run : Act Session Value) : Command := ⟨[], [], fun _ => run⟩

/-- A command with the fields that it needs. -/
def taking (required : List String) (run : Fields → Act Session Value) : Command :=
  ⟨required, [], run⟩

/-- Runs a command, if the fields are what it takes. -/
def apply (c : Command) (fields : Fields) : Act Session Value := do
  if !fields.fit c.required c.optional then throw .wrongType
  c.run fields

/-- A command without an answer. -/
def done (act : Act Session Unit) : Act Session Value := do
  act
  return .null

end Command

/-- Commands by their names, none for a name that is no command. -/
abbrev Commands := String → Option Command

/-- A command that runs other commands inside of it. What is inside gets the fields of the answer
that are the command's own. -/
structure Scope where
  /-- The fields that it needs. -/
  required : List String
  run : {α : Type} → Fields → (Fields → Act Session α) → Act Session α

/-- Runs what is inside of a scope, if the fields are what the scope takes. -/
def Scope.apply {α : Type} (s : Scope) (fields : Fields) (inside : Fields → Act Session α) :
    Act Session α := do
  if !fields.fit s.required [] then throw .wrongType
  s.run fields inside

end Bindery
