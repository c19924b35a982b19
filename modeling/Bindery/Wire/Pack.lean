import Bindery.Value.Equality
import Bindery.Wire.Basic

/-!
# Slots

Values in fixed-size slots: as bytes for the native path, and as sandbox values for the guest.

* `IntType.encode`, `IntType.decode`: an integer in the bytes of its type, lowest byte first.
* `Wire.pack`, `Wire.unpack`: a value in the bytes of a slot. Integers are reduced to the range of
  the slot; handles and names have to fit.
* `Wire.toSandbox`, `Wire.fromSandbox`: a value as the sandbox value that carries the slot.
* `Bytes.framed`: a byte string behind its length in a slot.
-/

namespace Bindery

open Number

namespace IntType

/-- The bytes of an integer reduced to the type. -/
def encode (t : IntType) (v : Int) : Bytes :=
  Bytes.ofNat t.width.bytes (v % Nat.pow 2 t.bits).toNat

/-- The integer of the type with the given bytes. -/
def decode (t : IntType) (bytes : Bytes) : Int := t.wrap (Bytes.toNat bytes)

end IntType

namespace Wire

/-- The slot type whose tag is a value; none if the value is no tag. -/
def ofValue? (tag : Value) : Except Fault (Option Wire) :=
  match tag with
  | .text s => .ok (ofTag? s)
  | _ => if tag.isHashable then .ok none else .error .wrongType

/-- The slot type whose tag is a value. -/
def ofValue (tag : Value) : Except Fault Wire := do
  match ← ofValue? tag with
  | some w => return w
  | none => throw .noSuchKey

/-- The integer type whose tag is a value. -/
def intOfValue (tag : Value) : Except Fault IntType := do
  match ← ofValue tag with
  | int t => return t
  | _ => throw .noSuchKey

/-- What counts as false stands for zero. -/
def orZero (v : Value) : Value := if v.isTruthy then v else .int 0

/-- The bytes of an address or index; it has to fit into eight bytes. -/
def packAddress (v : Value) : Except Fault Bytes :=
  match (orZero v).index? with
  | some n => if IntType.u64.wrap n = n then .ok (IntType.u64.encode n) else .error .badSlot
  | none => .error .badSlot

/-- The double of a number in a slot. -/
def packedDouble (v : Value) : Except Fault Double :=
  match v with
  | .float d => .ok d
  | _ =>
    match v.index? with
    | some n => if (Double.ofInt n).isFinite then .ok (Double.ofInt n) else .error .badSlot
    | none => .error .badSlot

/-- The bytes of a number in single precision. One that is too large for it is a bad integer, or a
double out of range. -/
def packSingle (v : Value) : Except Fault Bytes := do
  let d ← packedDouble v
  if d.overflowsSingle then throw (if v.index?.isSome then .badSlot else .outOfRange)
  return Bytes.ofNat 4 d.toSingle.toNat

/-- The bytes of a value in a slot. -/
def pack (w : Wire) (v : Value) : Except Fault Bytes :=
  match w with
  | bool => .ok [if v.isTruthy then 1 else 0]
  | int t => t.encode <$> v.toInt
  | f32 => packSingle v
  | f64 => return Bytes.ofNat 8 (← packedDouble v).bits.toNat
  | handle => packAddress v
  | name => packAddress v

/-- The value in the bytes of a slot. -/
def decode (w : Wire) (bytes : Bytes) : Value :=
  let n := Bytes.toNat bytes
  match w with
  | bool => .bool (n ≠ 0)
  | int t => .int (t.decode bytes)
  | f32 => .float (.ofSingle (UInt32.ofNat n))
  | f64 => .float ⟨UInt64.ofNat n⟩
  | handle => .ofAddress n
  | name => .int n

/-- The value in the slot at the start of a byte string. -/
def unpack (w : Wire) (data : Bytes) : Except Fault Value :=
  if data.length < w.size then .error .badSlot else .ok (w.decode (data.take w.size))

/-- The value in the slot at an offset; a negative offset counts from the end. -/
def unpackAt (w : Wire) (data : Bytes) (offset : Int) : Except Fault Value :=
  if IntType.i64.wrap offset ≠ offset then .error .outOfRange else
  let start := if offset < 0 then offset + data.length else offset
  if start < 0 then .error .badSlot else w.unpack (data.drop start.toNat)

/-- The signed integer type of the sandbox value that carries an integer. -/
def carrier (t : IntType) : IntType := if t.width = .eight then .i64 else .i32

/-- An integer reduced to a type; other values are refused. -/
def wrapValue (t : IntType) (v : Value) : Except Fault Int := t.wrap <$> v.index

/-- The sandbox value for a value. -/
def toSandbox (w : Wire) (v : Value) : Except Fault Value :=
  match w with
  | bool => .ok (.int (if v.isTruthy then 1 else 0))
  | int t => (fun n => .int ((carrier t).wrap n)) <$> v.toInt
  | f32 => .ok v
  | f64 => .ok v
  | handle => .int <$> wrapValue .i64 (orZero v)
  | name => .int <$> wrapValue .i64 (orZero v)

/-- Whether a value is a number equal to zero. -/
def isZero (v : Value) : Bool :=
  match v with
  | .float d => d.isZero
  | _ => v.index? = some 0

/-- The value for a sandbox value. -/
def fromSandbox (w : Wire) (v : Value) : Except Fault Value :=
  match w with
  | bool => .ok (.bool (!isZero v))
  | int t => .int <$> wrapValue t v
  | f32 => .ok v
  | f64 => .ok v
  | handle => (fun n => .ofAddress n.toNat) <$> wrapValue .u64 v
  | name => .int <$> wrapValue .u64 v

end Wire

/-- The frame of a byte string, whose length has to fit into four bytes. -/
def Bytes.framed (data : Bytes) : Except Fault Bytes :=
  if data.length < Nat.pow 2 32 then .ok data.frame else .error .badSlot

end Bindery
