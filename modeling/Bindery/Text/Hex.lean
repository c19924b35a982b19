import Bindery.Bytes
import Bindery.Text.Quoted

/-!
# Hexadecimal text

* `hexNumber?`: the value of hexadecimal digits.
* `Bytes.hex`: the text of a byte string, two digits for each byte.
* `Bytes.ofHex?`: the byte string of a text, where blanks may stand between two bytes.
-/

namespace Bindery

namespace Text

/-- The value of a hexadecimal digit. -/
def hexValue? (c : Char) : Option Nat :=
  if c.isDigit then some (c.toNat - 48)
  else if 'a' ≤ c ∧ c ≤ 'f' then some (c.toNat - 87)
  else if 'A' ≤ c ∧ c ≤ 'F' then some (c.toNat - 55)
  else none

/-- The value of hexadecimal digits. -/
def hexNumber? (s : List Char) : Option Nat :=
  s.foldlM (fun n c => (hexValue? c).map (n * 16 + ·)) 0

end Text

namespace Bytes

/-- The text of a byte string. -/
def hex (data : Bytes) : String := String.ofList (data.flatMap fun b => Text.hexDigits 2 b.toNat)

/-- Whether a character may stand between two bytes. -/
def isGap (c : Char) : Bool := c = ' ' || (9 ≤ c.toNat && c.toNat ≤ 13)

/-- The bytes of pairs of digits. -/
def ofHexDigits? : List Char → Option Bytes
  | [] => some []
  | [c] => if isGap c then some [] else none
  | c :: d :: rest =>
    if isGap c then ofHexDigits? (d :: rest)
    else do
      let n ← Text.hexNumber? [c, d]
      return UInt8.ofNat n :: (← ofHexDigits? rest)

/-- The byte string of a text. -/
def ofHex? (s : String) : Option Bytes := ofHexDigits? s.toList

end Bytes
end Bindery
