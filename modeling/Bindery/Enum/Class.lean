import Bindery.Check.Types
import Bindery.Render.EnumFile
import Bindery.Script.Passage
import Bindery.Text.Normal
import Bindery.Value.Equality

/-!
# Enum classes

The class of a generated enum in use: the file of the enum is loaded, and the class answers the
member for an integer of the host.

* `EnumClass`: a loaded class.
* `EnumClass.load`: loads the file of an enum, which has to be a valid script.
* `EnumClass.fromValue`, `EnumClass.displayOf`: the member for a value of the host, and its text.
-/

namespace Bindery

/-- A generated enum: its name and its layout. -/
structure EnumClass where
  name : String
  layout : EnumLayout
  /-- Members that come before those of the layout. They have no texts. -/
  extra : List (String × Int) := []
  /-- Whether the name of the conversion to integers stands for something that can be called. -/
  converts : Bool := true

namespace EnumClass

/-- Whether all that the file of an enum holds of the schema can be part of a script. -/
def checkTexts (texts : List String) : Except Fault Unit :=
  if !texts.all Text.isPlain then .error .unencodable
  else if texts.any fun s => s.contains '\x00' then .error .malformed
  else .ok ()

/-- Whether a text starts with blanks that indent what follows them. -/
def isIndented (s : String) : Bool :=
  Script.Indent.ofBlanks (s.toList.takeWhile Script.isBlank) ≠ {}

/-- The names that mean something where the class is defined, after those that the title has
bound. -/
def moduleScope (e : EnumInfo) (title : Script.Scope) : Except Fault Script.Scope := do
  let scope ← title.bind "enum" (.module "enum")
  let scope ← scope.bind "Optional" (.ofKind "_SpecialForm")
  let scope ← scope.bind "wrap_int" .lambda
  scope.bind "_REPR" (.text e.layout.repr.tag)

/-- The scope of the class's body. -/
def bodyScope (name : String) (isPlain : Bool) (module : Script.Scope) : Script.Scope := {
  outer := module.inner ++ module.outer
  inner := [("__module__", .text "builtins"), ("__qualname__", .text name)]
  enum := if isPlain then none else some name }

/-- Refuses a name that is no expression, as which the annotation of a result reads it. -/
def checkAnnotation (name : String) (scope : Script.Scope) : Except Fault Unit := do
  let kind ← scope.find "Optional"
  discard (Script.Operation.itemAt kind (.text name))
  if kind.kindName = "_SpecialForm" && isIndented name then throw .badScript

/-- The scope of the class's body behind its members and functions. -/
def runBody (e : EnumInfo) (isPlain : Bool) (scope : Script.Scope) :
    Except Fault Script.Scope := do
  let scope ← e.layout.variants.foldlM (fun scope v => scope.bind v.name (.int v.value)) scope
  let decorator ← scope.find "classmethod"
  discard (scope.find "int")
  if !isPlain then checkAnnotation e.name.spoken scope
  discard (Script.Call.apply decorator [(.inOrder, .lambda)])
  let scope ← scope.bind "from_value" .lambda
  discard (scope.find "str")
  scope.bind "display_name" .lambda

/-- The texts around the name of the class where a function tells what its result is. -/
def resultMarks (isPlain : Bool) : String × String :=
  if isPlain then ("\"", "\"") else ("Optional[\"", "\"]")

/-- What the schema gives to the file of an enum. -/
structure Parts where
  title : Script.Passage
  header : Script.ClassHeader
  doc : Script.Passage

/-- The names that the file of an enum mentions before the body of its class. -/
def mentioned (e : EnumInfo) (isPlain : Bool) (title : Script.Passage)
    (header : Script.ClassHeader) : List String :=
  let fuel := Script.Passage.fuelOf e.name.spoken.length
  let bases := (header.bases isPlain).flatMap fun b => b.2.mentions fuel
  ["_REPR", e.name.spoken] ++ bases ++ ((title.mentions? .script).map (·.seen)).getD []

/-- What the schema gives to the file of an enum, if that is a valid script. Where the class has
members, its name stands behind them once more, and no comment can be part of that. -/
def parts (e : EnumInfo) (isPlain : Bool) : Except Fault Parts := do
  let name := e.name.spoken
  let title ← Script.Passage.read (Script.fileText (Script.header (Render.enumHeading e)))
  let header ← Script.ClassHeader.ofName name
  let doc ← Script.Passage.readBody (Script.docstring (Render.enumDoc e))
  if header.isClosed then
    Script.ClassHeader.checkResult (resultMarks isPlain).1 name (resultMarks isPlain).2
    if !isPlain then throw .badScript
  title.check .script []
  doc.check .classBody (mentioned e isPlain title header)
  return { title, header, doc }

/-- Defines the class of an enum where some names mean something. It answers the members that come
before those of the layout. A class whose body ends too early lacks what follows. -/
def define (e : EnumInfo) (isPlain : Bool) (parts : Parts) (module : Script.Scope) :
    Except Fault (List (String × Int)) := do
  let fuel := Script.Passage.fuelOf e.name.spoken.length
  let (bases, module) ←
    (Script.Evaluation.evalArguments fuel (parts.header.bases isPlain)).runIn module
  let body ← parts.doc.run (bodyScope e.name.spoken isPlain module)
  let body ← if parts.doc.after.isSome then pure body else runBody e isPlain body
  if !parts.doc.doc?.all Text.isPlain then throw .unencodable
  Script.Derivation.check bases
  let members ← body.memberValues
  if let some after := parts.doc.after then
    discard (parts.doc.runAfter after (← module.bind e.name.spoken (.kind e.name.spoken)))
    throw .noSuchMember
  if ("from_value" :: e.layout.variants.map (·.name)).any body.shared.contains then
    throw .noSuchMember
  return members.filter fun m => !e.layout.variants.any fun v => v.name = m.1

/-- Loads the file of an enum, which has to be a valid script. The class is then found by the name
that it has in the schema, which has to be the one that the script knows it by. -/
def load (e : EnumInfo) : Except Fault EnumClass := do
  Check.layout e
  let name := e.name.spoken
  let isPlain := e.layout.variants.isEmpty
  checkTexts (name :: e.package.spoken :: if isPlain then [] else [Render.enumTitle e])
  let parts ← parts e isPlain
  let module ← moduleScope e (← parts.title.run {})
  let extra ← define e isPlain parts module
  if !Text.isIdentifier name || !Text.isNormal name then throw .noSuchKey
  return ⟨name, e.layout, extra, (← module.find "int").isCallable⟩

/-- Whether the host's integers are taken as they are, since no variant can be bound. -/
def isPlain (e : EnumClass) : Bool := e.layout.variants.isEmpty

/-- What a class named like something that its own file refers to makes of an integer. -/
def shadowed? (e : EnumClass) : Option Fault :=
  match e.name with
  | "wrap_int" => some .wrongType
  | "_REPR" => some .noSuchKey
  | _ => none

/-- The integer that a value stands for. A class named like the conversion takes its place, and only
converts the values of its own members. -/
def intOf (e : EnumClass) (raw : Value) : Except Fault Int :=
  if !e.converts then .error .wrongType
  else if e.name = "int" && !e.isPlain then
    match (e.layout.members e.name).find? fun v => raw.equal (.int v.value) with
    | some v => .ok v.value
    | none => .error .malformed
  else raw.toInt

/-- The member for an integer of the host, none if there is no such member. Of members with the same
integer the first one counts, but it has the text of the one in the layout. -/
def memberOf (e : EnumClass) (n : Int) : Except Fault (Option Value) :=
  match e.extra.find? fun m => m.2 = e.layout.repr.wrap n, e.layout.fromValue e.name n with
  | none, found => .ok (found.map .member)
  | some m, some v => .ok (some (.member { v with name := m.1 }))
  | some _, none => .error .noSuchKey

/-- The member for a value of the host, none if there is no such member or the value is no numeral.
An enum without variants answers the integer itself. -/
def fromValue (e : EnumClass) (raw : Value) : Except Fault (Option Value) := do
  if e.name = "_DISPLAY_NAMES" && !e.isPlain then throw .noSuchMember
  let known : Except Fault (Option Value) := do
    let n ← e.intOf raw
    if let some fault := e.shadowed? then throw fault
    if e.isPlain then return some (.int (e.layout.repr.wrap n))
    memberOf e n
  if e.isPlain then known
  else
    let found ← match known with
      | .error .malformed => pure none
      | outcome => outcome
    if found.isNone && e.name = "ValueError" then throw .wrongType
    return found

/-- The text of a member, null if there is none. -/
def displayOf (e : EnumClass) : Option Value → Value
  | some (.member v) => .text v.display
  | some (.int n) => if e.name = "str" then .int n else .text (toString n)
  | _ => .null

end EnumClass
end Bindery
