/-!
# Host errors

The errors that the codes of host primitives stand for.

* `ErrorKind`: the kinds of error, each with its code, its name and its wording.
* `HostError`: an error with its detail; `HostError.text` is the message, and only some kinds
  show the detail in it.
* `promiseText`: the message about a call that cannot fail and did.
-/

namespace Bindery.Host

/-- A kind of recoverable error. -/
inductive ErrorKind where
  | objectDestroyed
  | invalidCast
  | propertyNotFound
  | functionNotFound
  | typeMismatch
  | nullArgument
  | indexOutOfRange
  | invalidOperation
  | internal
  | bufferTooSmall
deriving DecidableEq, Repr

namespace ErrorKind

/-- All kinds, in the order of their codes. -/
def all : List ErrorKind :=
  [objectDestroyed, invalidCast, propertyNotFound, functionNotFound, typeMismatch, nullArgument,
    indexOutOfRange, invalidOperation, internal, bufferTooSmall]

/-- The code that a primitive answers; zero is left for success. -/
def code : ErrorKind → Nat
  | objectDestroyed => 1
  | invalidCast => 2
  | propertyNotFound => 3
  | functionNotFound => 4
  | typeMismatch => 5
  | nullArgument => 6
  | indexOutOfRange => 7
  | invalidOperation => 8
  | internal => 9
  | bufferTooSmall => 10

/-- The name of a code. -/
def codeName : ErrorKind → String
  | objectDestroyed => "OBJECT_DESTROYED"
  | invalidCast => "INVALID_CAST"
  | propertyNotFound => "PROPERTY_NOT_FOUND"
  | functionNotFound => "FUNCTION_NOT_FOUND"
  | typeMismatch => "TYPE_MISMATCH"
  | nullArgument => "NULL_ARGUMENT"
  | indexOutOfRange => "INDEX_OUT_OF_RANGE"
  | invalidOperation => "INVALID_OPERATION"
  | internal => "INTERNAL_ERROR"
  | bufferTooSmall => "BUFFER_TOO_SMALL"

/-- What went wrong. -/
def wording : ErrorKind → String
  | objectDestroyed => "object has been destroyed"
  | invalidCast => "invalid cast"
  | propertyNotFound => "property not found"
  | functionNotFound => "function not found"
  | typeMismatch => "type mismatch"
  | nullArgument => "null argument"
  | indexOutOfRange => "index out of range"
  | invalidOperation => "invalid operation"
  | internal => "internal error"
  | bufferTooSmall => "buffer too small"

/-- Whether the message of an error shows its detail. -/
def showsDetail : ErrorKind → Bool
  | propertyNotFound | functionNotFound | invalidOperation | internal => true
  | _ => false

/-- Whether the caller's name for what was looked up belongs into the error. -/
def takesName : ErrorKind → Bool
  | propertyNotFound | functionNotFound | invalidOperation => true
  | _ => false

end ErrorKind

/-- A recoverable error of the bindings. -/
structure HostError where
  kind : ErrorKind
  detail : String := ""
deriving DecidableEq, Repr

namespace HostError

/-- The message. -/
def text (e : HostError) : String :=
  if e.kind.showsDetail then e.kind.wording ++ ": " ++ e.detail else e.kind.wording

end HostError

/-- The message about a call that cannot fail and did, which may name the call. -/
def promiseText (call : Option String) (code : String) : String :=
  let subject := match call with
    | none => "FFI call"
    | some name => "FFI '" ++ name ++ "'"
  subject ++ " returned " ++ code ++ " after pre-validation"

end Bindery.Host
