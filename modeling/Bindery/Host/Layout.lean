/-!
# Layout of the host's tables

The structures by which a native host offers its primitives, on a machine with addresses of eight
bytes.

* `CType`: the types of fields, arguments and results.
* `Record`: a structure; `Record.fields` gives every field its offset, `Record.size` is the size
  with padding.
* `Record.core`, `property`, `reflection`, `container`, `delegate`: the groups of primitives;
  `Record.table` refers to them all, and `Record.callbacks` is what the host gets in return.
-/

namespace Bindery.Host

/-- A type in the host's interface. -/
inductive CType where
  | bool
  | int (bits : Nat)
  | uint (bits : Nat)
  | float
  | double
  | text
  /-- An untyped address. -/
  | address
  /-- The address of a value. -/
  | pointer (target : CType)
  /-- The address of a structure. -/
  | recordPointer (record : String)
  /-- The address of a function. -/
  | function (result : Option CType) (args : List CType)

namespace CType

/-- Number of bytes; alignment is the same. -/
def size : CType → Nat
  | bool => 1
  | int bits => bits / 8
  | uint bits => bits / 8
  | float => 4
  | double => 8
  | text | address | pointer _ | recordPointer _ | function _ _ => 8

/-- The name of a type other than a function. -/
def name : CType → String
  | bool => "c_bool"
  | int bits => "c_int" ++ toString bits
  | uint bits => "c_uint" ++ toString bits
  | float => "c_float"
  | double => "c_double"
  | text => "c_char_p"
  | address => "c_void_p"
  | pointer target => "*" ++ target.name
  | recordPointer record => "*" ++ record
  | function _ _ => "c_void_p"

/-- The type of error codes. -/
def code : CType := uint 32

/-- A function that answers an error code. -/
def answering (args : List CType) : CType := function (some code) args

/-- The addresses of an owner and a property, which most functions take first. -/
def owned (args : List CType) : List CType := [address, address] ++ args

/-- Reads a property into a value. -/
def getter (t : CType) : CType := answering (owned [pointer t])

/-- Writes a property. -/
def setter (t : CType) : CType := answering (owned [t])

/-- A buffer and its size. -/
def sized : List CType := [address, uint 32]

/-- A buffer, its size, and where to write the number of bytes. -/
def written : List CType := sized ++ [pointer (uint 32)]

/-- A text and its length. -/
def named : List CType := [text, uint 32]

/-- Looks a name up, within something or at large. -/
def lookup (args : List CType) : CType := function (some address) (args ++ named)

/-- The size of something. -/
def measure : CType := function (some (uint 32)) [address]

end CType

/-- A structure of the host's interface. -/
structure Record where
  name : String
  members : List (String × CType)

namespace Record

open CType

/-- The next multiple of an alignment. -/
def alignUp (n alignment : Nat) : Nat := (n + alignment - 1) / alignment * alignment

/-- The members from an offset on, each at the next offset that its type allows. -/
def place (offset : Nat) : List (String × CType) → List (String × Nat × CType)
  | [] => []
  | (name, t) :: rest =>
    let start := alignUp offset t.size
    (name, start, t) :: place (start + t.size) rest

/-- The members with their offsets and types. -/
def fields (r : Record) : List (String × Nat × CType) := place 0 r.members

/-- Number of bytes, a multiple of the largest alignment. -/
def size (r : Record) : Nat :=
  let alignment := r.members.foldl (fun n m => max n m.2.size) 1
  alignUp (r.fields.foldl (fun n f => max n (f.2.1 + f.2.2.size)) 0) alignment

/-- Objects and names. -/
def core : Record := ⟨"UikaCoreApi", [
  ("is_valid", function (some bool) [address]),
  ("get_name", answering (address :: written)),
  ("get_class", function (some address) [address]),
  ("is_a", function (some bool) [address, address]),
  ("get_outer", function (some address) [address]),
  ("make_fname", function (some (uint 64)) named),
  ("fname_to_string", answering (uint 64 :: written)),
  ("make_weak", function (some (uint 64)) [address]),
  ("resolve_weak", function (some address) [uint 64]),
  ("is_weak_valid", function (some bool) [uint 64])]⟩

/-- Access to properties. -/
def property : Record := ⟨"UikaPropertyApi", [
  ("get_bool", getter bool), ("set_bool", setter bool),
  ("get_i32", getter (int 32)), ("set_i32", setter (int 32)),
  ("get_i64", getter (int 64)), ("set_i64", setter (int 64)),
  ("get_u8", getter (uint 8)), ("set_u8", setter (uint 8)),
  ("get_f32", getter float), ("set_f32", setter float),
  ("get_f64", getter double), ("set_f64", setter double),
  ("get_string", answering (owned written)), ("set_string", answering (owned sized)),
  ("get_fname", getter (uint 64)), ("set_fname", setter (uint 64)),
  ("get_object", getter address), ("set_object", setter address),
  ("get_enum", getter (int 64)), ("set_enum", setter (int 64)),
  ("get_struct", answering (owned sized)), ("set_struct", answering (owned sized)),
  ("get_property_at", answering (owned (uint 32 :: sized))),
  ("set_property_at", answering (owned (uint 32 :: sized)))]⟩

/-- Look-ups and calls by name. -/
def reflection : Record := ⟨"UikaReflectionApi", [
  ("find_class", lookup []),
  ("find_property", lookup [address]),
  ("get_static_class", lookup []),
  ("get_property_size", measure),
  ("find_struct", lookup []),
  ("find_struct_property", lookup [address]),
  ("find_function", lookup [address]),
  ("alloc_params", function (some address) [address]),
  ("free_params", function none [address, address]),
  ("call_function", answering [address, address, address]),
  ("get_function_param", lookup [address]),
  ("get_property_offset", measure),
  ("find_function_by_class", lookup [address]),
  ("get_element_size", measure),
  ("get_struct_size", measure),
  ("initialize_struct", answering [address, address]),
  ("destroy_struct", answering [address, address])]⟩

/-- Number of elements. -/
def count : CType := function (some (int 32)) (owned [])

/-- Reads the element at an index. -/
def readAt : CType := answering (owned (int 32 :: written))

/-- Passes one element. -/
def passElement : CType := answering (owned sized)

/-- Removes all elements. -/
def removeAll : CType := answering (owned [])

/-- Copies all elements. -/
def copyAll : CType := answering (owned (written ++ [pointer (int 32)]))

/-- Arrays, maps, sets and temporaries. -/
def container : Record := ⟨"UikaContainerApi", [
  ("array_len", count),
  ("array_get", readAt),
  ("array_set", answering (owned (int 32 :: sized))),
  ("array_add", passElement),
  ("array_remove", answering (owned [int 32])),
  ("array_clear", removeAll),
  ("array_element_size", measure),
  ("map_len", count),
  ("map_find", answering (owned (sized ++ written))),
  ("map_add", answering (owned (sized ++ sized))),
  ("map_remove", passElement),
  ("map_clear", removeAll),
  ("map_get_pair", answering (owned (int 32 :: written ++ written))),
  ("set_len", count),
  ("set_contains", function (some bool) (owned sized)),
  ("set_add", passElement),
  ("set_remove", passElement),
  ("set_clear", removeAll),
  ("set_get_element", readAt),
  ("alloc_temp", function (some address) [address]),
  ("free_temp", function none [address, address]),
  ("array_copy_all", copyAll),
  ("array_set_all", answering (owned (sized ++ [int 32]))),
  ("map_copy_all", copyAll),
  ("set_copy_all", copyAll)]⟩

/-- Binding and firing of delegates. -/
def delegate : Record := ⟨"UikaDelegateApi", [
  ("bind_delegate", answering (owned [uint 64])),
  ("unbind_delegate", answering (owned [])),
  ("add_multicast", answering (owned [uint 64])),
  ("remove_multicast", answering (owned [uint 64])),
  ("broadcast_multicast", answering (owned [address]))]⟩

/-- The table that a host hands over. -/
def table : Record := ⟨"UikaApiTable", [
  ("version", uint 32),
  ("core", recordPointer core.name),
  ("property", recordPointer property.name),
  ("reflection", recordPointer reflection.name),
  ("memory", address),
  ("container", recordPointer container.name),
  ("delegate", recordPointer delegate.name),
  ("lifecycle", address),
  ("reify", address),
  ("world", address),
  ("logging", address),
  ("func_table", pointer address),
  ("func_count", uint 32)]⟩

/-- The functions that the host calls. -/
def callbacks : Record := ⟨"UikaCallbacks", [
  ("invoke_delegate_callback", function none [uint 64, address])]⟩

/-- The structures under short names. -/
def all : List (String × Record) := [
  ("core", core), ("property", property), ("reflection", reflection), ("container", container),
  ("delegate", delegate), ("table", table), ("callbacks", callbacks)]

end Record
end Bindery.Host
