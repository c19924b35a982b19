import Bindery.Naming
import Bindery.Schema.Entity
import Bindery.Wire.Basic

/-!
# Enum layouts

Which variants of an enum become members of the generated enum, under which names, with which
values, and in which integer type the host stores them.

* `EnumInfo.layout`: sentinels and duplicates are dropped, and an enum with a negative value is
  stored in the signed type of its width.
* `EnumLayout.fromValue`: the member for an integer of the host, raw or already reduced.
-/

namespace Bindery

/-- The integer types that enums can be declared with. -/
def enumTypes : List (String × IntType) := [
  ("uint8", .u8), ("int8", .i8), ("uint16", .u16), ("int16", .i16),
  ("uint32", .u32), ("int32", .i32), ("uint64", .u64), ("int64", .i64)]

/-- The type that an enum is declared with; an unknown one counts as `uint8`. -/
def enumType (underlying : Label) : IntType :=
  ((enumTypes.find? fun e => .text e.1 = underlying).map (·.2)).getD .u8

/-- A member of a generated enum. -/
structure Variant where
  name : String
  display : String
  value : Int
deriving DecidableEq, Repr

/-- The members of a generated enum and the type that the host stores them in. -/
structure EnumLayout where
  repr : IntType
  signed : Bool
  variants : List Variant
deriving DecidableEq, Repr

/-- Whether `part` occurs in a text. -/
def occursIn (part : List Char) : List Char → Bool
  | [] => part.isEmpty
  | c :: rest => part.isPrefixOf (c :: rest) || occursIn part rest

/-- A variant that only marks the end of an enum. -/
def isSentinel (variant : String) : Bool :=
  "_MAX".toList.isSuffixOf variant.toList || variant = "MAX"
    || occursIn "__MAX".toList variant.toList

/-- The variants that survive: no sentinels, no value twice, no member name twice. A value counts
as seen even if its variant falls to its name. -/
def pickVariants (values : List Int) (names : List String) : List (String × Int) → List Variant
  | [] => []
  | (variant, value) :: rest =>
    if isSentinel variant || values.contains value then pickVariants values names rest
    else
      let name := Naming.enumMemberName (Naming.unscoped variant)
      if names.contains name then pickVariants (value :: values) names rest
      else
        ⟨name, Naming.unscoped variant, value⟩
          :: pickVariants (value :: values) (name :: names) rest

/-- The variants with their values reduced to a type; of equal values the first one stays. -/
def reduceVariants (t : IntType) (values : List Int) : List Variant → List Variant
  | [] => []
  | v :: rest =>
    if values.contains (t.wrap v.value) then reduceVariants t values rest
    else { v with value := t.wrap v.value } :: reduceVariants t (t.wrap v.value :: values) rest

/-- The layout of an enum. -/
def EnumInfo.layout (e : EnumInfo) : EnumLayout :=
  let picked := pickVariants [] [] e.pairs
  let declared := enumType e.underlying
  if picked.any fun v => v.value < 0 then
    ⟨declared.toSigned, true, reduceVariants declared.toSigned [] picked⟩
  else ⟨declared, false, picked⟩

namespace EnumLayout

/-- The name under which an enum's body would hide a private attribute instead of a member. -/
def isPrivateTo (enum : String) (name : String) : Bool :=
  let start := ("_" ++ enum ++ "__").toList
  start.isPrefixOf name.toList && start.length < name.length && !"__".toList.isSuffixOf name.toList

/-- The variants that the generated enum holds as members. -/
def members (l : EnumLayout) (enum : String) : List Variant :=
  l.variants.filter fun v => !isPrivateTo enum v.name

/-- The member of the enum for an integer of the host. -/
def fromValue (l : EnumLayout) (enum : String) (raw : Int) : Option Variant :=
  (l.members enum).find? fun v => v.value = l.repr.wrap raw

end EnumLayout
end Bindery
