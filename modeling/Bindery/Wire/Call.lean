import Bindery.Value.Basic
import Bindery.Wire.Pack

/-!
# Slot operations by name

* `Wire.call`: calls an operation on slots with untyped arguments, among them the tag of the slot
  type.
-/

namespace Bindery.Wire

variable {σ : Type} (args : Arguments)

/-- The slot type whose tag is an argument. -/
def tagged (i : Nat) : Act σ Wire := do Act.ofExcept (ofValue (← args.value i))

/-- Carries a value across the border of the sandbox. A value whose tag is unknown is left alone. -/
def cross (f : Wire → Value → Except Fault Value) : Act σ Value := do
  let v ← args.value 1
  match ← Act.ofExcept (ofValue? (← args.value 0)) with
  | some w => Act.ofExcept (f w v)
  | none => return v

/-- Calls the operation with a name. -/
def call (operation : String) : Act σ Value :=
  match operation with
  | "size_of" => do
    args.exactly 1
    return .int (← tagged args 0).size
  | "wrap_int" => do
    args.exactly 2
    let t ← Act.ofExcept (intOfValue (← args.value 1))
    return .int (← Act.ofExcept (wrapValue t (← args.value 0)))
  | "pack" => do
    args.exactly 2
    return .bytes (← Act.ofExcept ((← tagged args 0).pack (← args.value 1)))
  | "unpack" => do
    args.between 2 3
    let w ← tagged args 0
    let data ← args.data 1
    Act.ofExcept (w.unpackAt data (← if args.values.length < 3 then pure 0 else args.int 2))
  | "to_wasm" => do
    args.exactly 2
    cross args toSandbox
  | "from_wasm" => do
    args.exactly 2
    cross args fromSandbox
  | _ => throw .noSuchMember

end Bindery.Wire
