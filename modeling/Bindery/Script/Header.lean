import Bindery.Script.Expr

/-!
# Headers of generated files

What generated files start with: a title that warns against editing, and the imports that every
entity file shares.
-/

namespace Bindery.Script

/-- The opening of a generated script. -/
def header (title : String) : List String := [
  "\"\"\"",
  "AUTO-GENERATED " ++ title,
  "DO NOT EDIT - Generated from the reflection schema",
  "\"\"\"",
  ""]

/-- A text between triple quotes. -/
def docstring (s : String) : String := "\"\"\"" ++ s ++ "\"\"\""

/-- The opening of a generated C++ file. -/
def sourceHeader : List String := ["// AUTO-GENERATED - DO NOT EDIT", ""]

/-- The rule above and below a section title. -/
def rule : String := "# " ++ String.ofList (List.replicate 62 '═')

/-- A section title. -/
def banner (title : String) : List String := [rule, "# " ++ title, rule, ""]

/-- Lines as the text of a file. -/
def fileText (lines : List String) : String := "\n".intercalate lines

/-- The names that bodies use for native types. -/
def nativeImports : List String := [
  "from ctypes import (",
  "    CFUNCTYPE, POINTER, byref, create_string_buffer,",
  "    c_bool, c_double, c_float, c_int8, c_int16, c_int32, c_int64,",
  "    c_uint8, c_uint16, c_uint32, c_uint64, c_void_p,",
  ")"]

/-- Everything that entity files may use. -/
def entityImports : List String := nativeImports ++ [
  "from typing import TYPE_CHECKING, Callable, Optional",
  "",
  "from uikagen.runtime.api import dispatch",
  "from uikagen.runtime.cache import FuncSlot, handle_cache, once_cell",
  "from uikagen.runtime.containers import (",
  "    UeArray, UeMap, UeSet, elements, read_array, read_map, read_set,",
  "    temp_containers, write_array, write_map, write_set,",
  ")",
  "from uikagen.runtime.delegates import DelegateBinding, bind_multicast, bind_unicast, read_param",
  "from uikagen.runtime.errors import (",
  "    IndexOutOfRangeError, InvalidOperationError, check_ffi_ctx, ffi_infallible_ctx,",
  ")",
  "from uikagen.runtime.guest import guest_env, is_guest",
  "from uikagen.runtime.handles import (",
  "    FNameHandle, OwnedStruct, UClassBinding, UObjectHandle, UObjectRef, UStructBinding,",
  "    name_value, raw_handle, struct_bytes, update_struct,",
  ")",
  "from uikagen.runtime.lookup import (",
  "    find_class_property, find_struct_property, function_param_offsets, function_param_props,",
  ")",
  "from uikagen.runtime.wire import pack, to_wasm, unpack, wrap_int"]

end Bindery.Script
