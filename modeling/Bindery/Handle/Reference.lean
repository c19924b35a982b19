import Bindery.Host.Primitives

/-!
# References to host objects

Operations on references, weak references, names and structs. None of them keeps an object alive,
so each asks the host whether the object is still there.

* `Value.rawHandle`: the handle of whatever can stand for an object.
* `Value.nameIndex`: the index of whatever can stand for a name.
* `isValid`, `checked`, `bind`: whether an object is there, and failure if not.
* `makeWeak`, `resolveWeak`: weak references.
* `Value.updateStruct`: bytes written by the host, copied back into a mutable argument.

Operations that need a host take `dispatch`, which answers the primitives of the host in use or
fails when there is none; they ask for it only once they need it.
-/

namespace Bindery

open Host

namespace Value

/-- The handle of whatever can stand for an object; numbers are addresses, and zero is null. -/
def rawHandle (v : Value) : Except Fault Value :=
  match v with
  | null => .ok null
  | ref h | object _ h => .ok h
  | _ => (fun n => if n = 0 then null else int n) <$> v.toInt

/-- The index of whatever can stand for a name. -/
def nameIndex (v : Value) : Except Fault Value :=
  match v with
  | null => .ok (int 0)
  | name index => .ok index
  | _ => int <$> v.toInt

/-- The bytes of `old` with those of `new` from the start on; the length stays. -/
def overwrite (old new : Bytes) : Bytes := new.take old.length ++ old.drop new.length

/-- Bytes with those that a value denotes copied into them; what does not fit is cut off first. -/
def overwriteWith (old : Bytes) (data : Value) : Except Fault Bytes := do
  return overwrite old (← (← data.cut old.length).plainBytes)

/-- The mutable value with bytes copied into it; other values are refused. -/
def updateStruct (target data : Value) : Except Fault Value :=
  match target with
  | struct old => struct <$> overwriteWith old data
  | record c old => record c <$> overwriteWith old data
  | buffer old => buffer <$> overwriteWith old data
  | _ => .error .wrongType

end Value

/-- Whether a class derives from another one, or is it. -/
def BindingClass.derivesFrom (c other : BindingClass) : Bool :=
  other.lineage.head?.any c.lineage.contains

/-- The object as one of a class that its own class derives from. -/
def BindingClass.cast (target : BindingClass) (c : BindingClass) (h : Value) :
    Except Fault Value :=
  if c.derivesFrom target then .ok (.object target h) else .error (.ofKind .invalidCast)

namespace Reference

variable {σ : Type} (dispatch : Act σ (Primitives σ))

/-- Whether the object of a handle is there; the null object never is. -/
def isValid (h : Value) : Act σ Value := do
  if h.isNull then return .bool false else (← dispatch).isValid h

/-- Fails unless the object of a handle is there. -/
def checked (h : Value) : Act σ Unit := do
  if !(← isValid dispatch h).isTruthy then throw (.ofKind .objectDestroyed)

/-- The object of a binding class for whatever stands for an object that is there. -/
def bind (c : BindingClass) (v : Value) : Act σ Value := do
  let h ← v.rawHandle
  checked dispatch h
  return .object c h

/-- A weak reference to whatever can stand for an object. -/
def makeWeak (v : Value) : Act σ Value := do
  let h ← v.rawHandle
  if h.isTruthy then return .weak (← (← dispatch).makeWeak h) else return .weak (.int 0)

/-- The object of a weak reference, null once it is gone. -/
def resolveWeak (index : Value) : Act σ Value := do
  if !index.isTruthy then return .null
  let h ← (← dispatch).resolveWeak index
  return if h.isTruthy then .ref h else .null

/-- Whether the object of a weak reference is there. -/
def isWeakValid (index : Value) : Act σ Value := do
  if index.isTruthy then (← dispatch).isWeakValid index else return .bool false

end Reference
end Bindery
