import Bindery.Enum.Layout
import Bindery.Script.Header

/-!
# Enum files

The file of an enum: an integer enum with the members of its layout, or a plain integer type if no
variant can be bound.
-/

namespace Bindery.Render

open Script

/-- What the file of an enum is for. -/
def enumHeading (e : EnumInfo) : String :=
  "binding for enum " ++ e.name.spoken ++ " (" ++ e.package.spoken ++ ")"

/-- The text that describes an enum: its C++ name, or its name if it has none. -/
def enumTitle (e : EnumInfo) : String := (e.cppName.given?.getD e.name).spoken

/-- The text that describes the class of an enum. -/
def enumDoc (e : EnumInfo) : String :=
  if e.layout.variants.isEmpty then
    e.name.spoken ++ " has no bindable variants; values pass through as integers"
  else enumTitle e

/-- The class of an enum with members. -/
def enumClass (e : EnumInfo) (layout : EnumLayout) : List String :=
  let name := e.name.spoken
  ["class " ++ name ++ "(enum.IntEnum):",
    "    " ++ docstring (enumDoc e),
    ""]
  ++ layout.variants.map (fun v => "    " ++ v.name ++ " = " ++ toString v.value)
  ++ ["",
    "    @classmethod",
    "    def from_value(cls, raw: int) -> Optional[\"" ++ name ++ "\"]:",
    "        \"\"\"Variant for a host integer (raw or normalized); None when unknown\"\"\"",
    "        try:",
    "            return cls(wrap_int(int(raw), _REPR))",
    "        except ValueError:",
    "            return None",
    "",
    "    def display_name(self) -> str:",
    "        return _DISPLAY_NAMES[self]",
    "",
    "",
    "_DISPLAY_NAMES = \x7b"]
  ++ layout.variants.map (fun v =>
    "    " ++ name ++ "." ++ v.name ++ ": " ++ Text.quote v.display ++ ",")
  ++ ["\x7d", ""]

/-- The class of an enum without members. -/
def integerClass (e : EnumInfo) : List String := [
  "class " ++ e.name.spoken ++ "(int):",
  "    " ++ docstring (enumDoc e),
  "",
  "    @classmethod",
  "    def from_value(cls, raw: int) -> \"" ++ e.name.spoken ++ "\":",
  "        return cls(wrap_int(int(raw), _REPR))",
  "",
  "    def display_name(self) -> str:",
  "        return str(int(self))",
  ""]

/-- The file of an enum. -/
def enumFile (e : EnumInfo) : String :=
  let layout := e.layout
  fileText (
    header (enumHeading e)
    ++ ["import enum", "from typing import Optional", "",
      "from uikagen.runtime.wire import wrap_int", "",
      "_REPR = \"" ++ layout.repr.tag ++ "\"", "", ""]
    ++ if layout.variants.isEmpty then integerClass e else enumClass e layout)

end Bindery.Render
