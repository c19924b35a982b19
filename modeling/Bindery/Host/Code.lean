import Bindery.Value.Basic
import Bindery.Value.Display
import Bindery.Value.Equality

/-!
# Codes as values

A code that comes from outside can be any value. It stands for the kind of error whose code it
equals as a number, and every other value is an unknown code.

* `Code.kind?`: the kind that a value stands for.
* `Code.error`: the error for a value with a detail, and the detail as it was given.
* `Code.check`, `Code.accept`: nothing for the code for success, and the error for any other value.
* `Code.call`: the checks of codes by name, with untyped arguments.
-/

namespace Bindery.Host.Code

/-- Whether a value is the code for success. -/
def isOk (code : Value) : Bool := code.equal (.int 0)

/-- The kind of error whose code a value is. -/
def kind? (code : Value) : Option ErrorKind :=
  ErrorKind.all.find? fun k => code.equal (.int k.code)

/-- The detail of an error as a text. One that the message does not show may have no text. -/
def detailText (kind : ErrorKind) (detail : Value) : Except Fault String :=
  if kind.showsDetail then detail.spoken else .ok (detail.spoken.toOption.getD "")

/-- The error for a code, with its detail as a value. The detail is given for known kinds only. -/
def error (code detail : Value) : Except Fault (HostError × Value) := do
  let unknown := fun text => (⟨.internal, text⟩, .text text)
  if isOk code then return unknown "unexpected Ok error code"
  match kind? (← code.asKey) with
  | some kind => return (⟨kind, ← detailText kind detail⟩, detail)
  | none => return unknown ("unknown error code " ++ (← code.spoken))

/-- Accepts the code for success only; any other one fails with its error. -/
def check (code : Value) (detail : Value := .text "") : Except Fault Unit := do
  if !isOk code then
    let (e, _) ← error code detail
    throw (.host e)

/-- Goes on after the code for success only; any other one fails with its error. -/
def accept {σ : Type} (code : Value) : Act σ Unit := Act.ofExcept (check code)

/-- Accepts the code for success only; an error of a look-up carries the name. -/
def checkNamed (code name : Value) : Except Fault Unit :=
  check code (if (kind? code).any ErrorKind.takesName then name else .text "")

/-- How messages call a code. -/
def text (code : Value) : Except Fault String :=
  if isOk code then .ok "OK"
  else match kind? code with
    | some kind => .ok kind.codeName
    | none => code.spoken

/-- Accepts the code for success only, of a call that cannot fail and that may have a name. -/
def checkInfallible (call : Option Value) (code : Value) : Except Fault Unit := do
  if !isOk code then
    let call ← call.mapM Value.spoken
    throw (.promise (promiseText call (← text code)))

variable {σ : Type} (args : Arguments)

/-- The detail among the arguments, empty if there is none. -/
def detail : Act σ Value := if args.values.length < 2 then return .text "" else args.value 1

/-- Calls a check of codes by its name. -/
def call (name : String) : Option (Act σ Unit) :=
  match name with
  | "check_ffi" => some do
    args.exactly 1
    Act.ofExcept (check (← args.value 0))
  | "check_ffi_ctx" => some do
    args.exactly 2
    Act.ofExcept (checkNamed (← args.value 0) (← args.value 1))
  | "ffi_infallible" => some do
    args.exactly 1
    Act.ofExcept (checkInfallible none (← args.value 0))
  | "ffi_infallible_ctx" => some do
    args.exactly 2
    Act.ofExcept (checkInfallible (some (← args.value 1)) (← args.value 0))
  | _ => none

/-- The error for the code among the arguments, with its detail as a value. -/
def describe : Act σ (HostError × Value) := do
  args.between 1 2
  Act.ofExcept (error (← args.value 0) (← detail args))

end Bindery.Host.Code
