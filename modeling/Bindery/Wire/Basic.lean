/-!
# Wire types

The fixed-size slots in which values cross the boundary between the bindings and the host.

* `IntType`: the eight integer types, with `IntType.wrap`, the reduction of an integer to their
  range.
* `Wire`: the slot types, their tags, sizes and the value type that carries each of them through
  the sandbox.
-/

namespace Bindery

/-- Number of bytes of an integer type. -/
inductive Width where
  | one | two | four | eight
deriving DecidableEq, Repr

/-- The bytes of a width. -/
def Width.bytes : Width → Nat
  | one => 1
  | two => 2
  | four => 4
  | eight => 8

/-- A fixed-width integer type. -/
structure IntType where
  width : Width
  signed : Bool
deriving DecidableEq, Repr

namespace IntType

def i8 : IntType := ⟨.one, true⟩
def u8 : IntType := ⟨.one, false⟩
def i16 : IntType := ⟨.two, true⟩
def u16 : IntType := ⟨.two, false⟩
def i32 : IntType := ⟨.four, true⟩
def u32 : IntType := ⟨.four, false⟩
def i64 : IntType := ⟨.eight, true⟩
def u64 : IntType := ⟨.eight, false⟩

/-- All integer types. -/
def all : List IntType := [i8, u8, i16, u16, i32, u32, i64, u64]

/-- Number of bits of a type. -/
def bits (t : IntType) : Nat := 8 * t.width.bytes

/-- The tag of a type: its sign and its bits. -/
def tag (t : IntType) : String := (if t.signed then "i" else "u") ++ toString t.bits

/-- The type with a tag. -/
def ofTag? (s : String) : Option IntType := all.find? fun t => t.tag = s

/-- The signed type of the same width. -/
def toSigned (t : IntType) : IntType := { t with signed := true }

/-- The integer of the type's range that is congruent to `v` modulo the number of its values. -/
def wrap (t : IntType) (v : Int) : Int :=
  if t.signed then Int.bmod v (Nat.pow 2 t.bits) else v % Nat.pow 2 t.bits

end IntType

/-- A value type of the sandbox. -/
inductive SandboxType where
  | i32 | i64 | f32 | f64
deriving DecidableEq, Repr

/-- The name of a sandbox value type. -/
def SandboxType.name : SandboxType → String
  | i32 => "i32"
  | i64 => "i64"
  | f32 => "f32"
  | f64 => "f64"

/-- The type of a slot. A handle addresses a host object and may be null; a name is an index into
the host's table of names. -/
inductive Wire where
  | bool
  | int (t : IntType)
  | f32
  | f64
  | handle
  | name
deriving DecidableEq, Repr

namespace Wire

/-- The tag of a slot type. -/
def tag : Wire → String
  | bool => "bool"
  | int t => t.tag
  | f32 => "f32"
  | f64 => "f64"
  | handle => "handle"
  | name => "name"

/-- The slot types. -/
def all : List Wire := [bool, f32, f64, handle, name] ++ IntType.all.map int

/-- The slot type with a tag. -/
def ofTag? (s : String) : Option Wire := all.find? fun w => w.tag = s

/-- The tags of slot types differ. -/
theorem ofTag?_tag (w : Wire) : ofTag? w.tag = some w := by
  cases w with
  | int t =>
    obtain ⟨width, signed⟩ := t
    cases width <;> cases signed <;> decide
  | _ => decide

/-- Number of bytes of a slot. -/
def size : Wire → Nat
  | bool => 1
  | int t => t.width.bytes
  | f32 => 4
  | f64 => 8
  | handle => 8
  | name => 8

/-- The sandbox value type that carries a slot. -/
def sandbox : Wire → SandboxType
  | bool => .i32
  | int t => if t.width = .eight then .i64 else .i32
  | f32 => .f32
  | f64 => .f64
  | handle => .i64
  | name => .i64

/-- The name of the slot's type in calls to native functions. -/
def nativeName : Wire → String
  | bool => "c_bool"
  | int t => (if t.signed then "c_int" else "c_uint") ++ toString t.bits
  | f32 => "c_float"
  | f64 => "c_double"
  | handle => "c_void_p"
  | name => "c_uint64"

/-- The slot's type in the C++ wrappers. -/
def cppName : Wire → String
  | bool => "bool"
  | int t => (if t.signed then "int" else "uint") ++ toString t.bits
  | f32 => "float"
  | f64 => "double"
  | handle => "void*"
  | name => "uint64"

end Wire
end Bindery
