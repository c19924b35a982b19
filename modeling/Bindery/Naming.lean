import Bindery.Text.CodePoint
import Bindery.Text.Numeral

/-!
# Names

How schema names become identifiers of the generated bindings.

* `snakeCase`: `HTTPServer` is `http_server`; a run of capitals stays together as one word.
* `accessorName`: snake case without the `b` that marks booleans.
* `identifier`: snake case, kept clear of the reserved words.
* `variantName` and `enumMemberName`: identifiers for enum variants. The latter also keeps clear
  of the attributes that every integer enum has.
-/

namespace Bindery.Naming

open Text (isDigit)

/-- Whether a word starts at a capital that follows `before` and precedes `after`: after a lower
case letter or a digit, and at the last capital of a run that a lower case letter follows. -/
def startsWord (before : Option Char) (after : List Char) : Bool :=
  match before with
  | none => false
  | some p => p.isLower || isDigit p || (p.isUpper && after.head?.any Char.isLower)

/-- Snake case of the text that follows the character `before`. -/
def snakeChars (before : Option Char) : List Char → List Char
  | [] => []
  | c :: rest =>
    if c.isUpper then
      if startsWord before rest then '_' :: c.toLower :: snakeChars (some c) rest
      else c.toLower :: snakeChars (some c) rest
    else c :: snakeChars (some c) rest

/-- Snake case: capitals become lower case letters, and an underscore precedes each word but the
first. -/
def snakeCase (name : String) : String := String.ofList (snakeChars none name.toList)

/-- Snake case without the `b` of a boolean name such as `bHidden`. -/
def accessorName (name : String) : String :=
  match name.toList with
  | 'b' :: c :: rest =>
    if c.isUpper then String.ofList (snakeChars none (c :: rest)) else snakeCase name
  | _ => snakeCase name

/-- Keywords of the language of the bindings. -/
def keywords : List String := [
  "False", "None", "True", "and", "as", "assert", "async", "await", "break", "class", "continue",
  "def", "del", "elif", "else", "except", "finally", "for", "from", "global", "if", "import", "in",
  "is", "lambda", "nonlocal", "not", "or", "pass", "raise", "return", "try", "while", "with",
  "yield"]

/-- Words that are keywords in some places only. -/
def softKeywords : List String := ["_", "case", "match"]

/-- Names that would hide what the generated code refers to by them. -/
def helperNames : List String := ["self", "cls", "type", "id", "match", "case", "_"]

/-- Whether a name cannot be used as an identifier. -/
def isReserved (name : String) : Bool :=
  keywords.contains name || softKeywords.contains name || helperNames.contains name

/-- A reserved name with an underscore at its end, any other name as it is. -/
def escapeReserved (name : String) : String := if isReserved name then name ++ "_" else name

/-- The identifier of a schema name: its snake case, escaped. Members, files and modules are all
named by it. -/
def identifier (name : String) : String := escapeReserved (snakeCase name)

/-- What follows the last `::` of a name that has one. -/
def afterScope? : List Char → Option (List Char)
  | [] => none
  | c :: rest =>
    match afterScope? rest with
    | some tail => some tail
    | none => if c = ':' ∧ rest.head? = some ':' then some (rest.drop 1) else none

/-- The name of an enum variant without its scope. -/
def unscoped (name : String) : String :=
  String.ofList ((afterScope? name.toList).getD name.toList)

/-- Characters of an ASCII identifier. -/
def isWordChar (c : Char) : Bool := c.isAlphanum || c = '_'

/-- A character of an identifier as it is, any other code point as an underscore. -/
def toWordChar (p : CodePoint) : Char := (p.char?.filter isWordChar).getD '_'

/-- An identifier for an enum variant: other characters become underscores, and an underscore
precedes a leading digit. -/
def variantName (name : String) : String :=
  match (Text.points name).map toWordChar with
  | [] => "_Unknown"
  | c :: rest => escapeReserved (String.ofList (if c.isDigit then '_' :: c :: rest else c :: rest))

/-- Names that enums and integers define themselves. -/
def integerAttributes : List String := [
  "name", "value", "from_value", "display_name", "mro", "as_integer_ratio", "bit_count",
  "bit_length", "conjugate", "denominator", "from_bytes", "imag", "numerator", "real", "to_bytes"]

/-- Whether a name is private or special by its underscores: two at the start, or one at the
start and one at the end. -/
def isUnderscored (name : List Char) : Bool :=
  (name.head? = some '_' && name.getLast? = some '_') || name.take 2 = ['_', '_']

/-- The member name of an enum variant. A `V` precedes a name whose underscores have a meaning,
and an underscore follows one that enums or integers define. -/
def enumMemberName (variant : String) : String :=
  let name := variantName variant
  let shielded := if isUnderscored name.toList then "V" ++ name else name
  if integerAttributes.contains shielded then shielded ++ "_" else shielded

end Bindery.Naming
