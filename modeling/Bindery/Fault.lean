import Bindery.Host.Error

/-!
# Faults

Why an operation fails: of the bindings at run time, or of the generator on values that it cannot
work with.

* `Fault`: the causes.
* `Fault.ofKind`: an error of the host with its detail.
-/

namespace Bindery

/-- Why an operation failed. -/
inductive Fault where
  /-- An error of the bindings or of the host. -/
  | host (e : Host.HostError)
  /-- A call that cannot fail did. -/
  | promise (text : String)
  /-- A key that a table does not have, such as a tag that names no slot type. -/
  | noSuchKey
  /-- A value that no slot of the type can hold, or too few bytes for one. -/
  | badSlot
  /-- A number beyond the range of its type. -/
  | outOfRange
  /-- A value of the right type that does not denote what is asked for. -/
  | malformed
  /-- A value of the wrong type. -/
  | wrongType
  /-- A position beyond the end of a list. -/
  | noSuchIndex
  /-- A value without the operation that is asked for. -/
  | noSuchMember
  /-- Raised by user code. -/
  | user
  /-- Calls nested too deeply. -/
  | tooDeep
  /-- More bytes than any memory holds. -/
  | tooLarge
  /-- An argument that a native call cannot take. -/
  | badArgument
  /-- An entry of a schema that cannot be read, with the message. -/
  | unreadable (message : String)
  /-- A text with half of a surrogate pair, for which there are no bytes. -/
  | unencodable
  /-- A name that no encoding has. -/
  | noSuchEncoding
  /-- A generated file that is no valid script. -/
  | badScript
  /-- A generated file with a line that is indented wrongly. -/
  | badIndent
  /-- A generated file that is indented by tabs and spaces in a way that cannot be told. -/
  | badTabs
  /-- A generated file that refers to a name that means nothing. -/
  | unbound
  /-- What a generated file raised itself, by the name of its kind. -/
  | raised (kind : String)
deriving DecidableEq, Repr

/-- A host error with a detail. -/
def Fault.ofKind (kind : Host.ErrorKind) (detail : String := "") : Fault := .host ⟨kind, detail⟩

end Bindery
