import Bindery.Text.Encoding
import Bindery.Value.Equality
import Bindery.Wire.Basic

/-!
# Machine words

Native calls pass machine words: integers reduced to the width of the argument, and addresses. A
value that is no machine word cannot be passed. What a native function makes of an answer that is
none is not told, and its caller finds a word that was left there.

* `Word.number`, `Word.address`, `Word.name`: a value as an argument.
* `Word.handle`: the handle for a word.
* `Word.ofCode`, `Word.ofNumber`, `Word.ofHandle`, `Word.ofCount`: an answer as a word.
-/

namespace Bindery.Host.Word

/-! ## Arguments -/

/-- The integer that a value is passed as. -/
def number (v : Value) : Except Fault Int :=
  match v.index? with
  | some n => .ok n
  | none => .error .badArgument

/-- An address that no object has. -/
def elsewhere : UInt64 := .ofNat (Nat.pow 2 62)

/-- The address that a value is passed as. Texts and byte strings are passed by their own. -/
def address (v : Value) : Except Fault UInt64 :=
  match v with
  | .null => .ok 0
  | .text _ | .bytes _ => .ok elsewhere
  | v => UInt64.ofInt <$> number v

/-- The bytes of a name; other values lack what a text can do. -/
def name (v : Value) : Except Fault Bytes :=
  match v with
  | .text s => (Text.utf8? s).elim (.error .unencodable) .ok
  | _ => .error .noSuchMember

/-- The bytes at the address of a text, four for each code point, as many as it has code points. -/
def wideBytes (s : String) : Bytes :=
  ((Text.numbers s).flatMap (Bytes.ofNat 4)).take (Text.size s)

/-- The bytes that a value is passed as, by an address and their number. -/
def data (v : Value) : Except Fault Bytes :=
  match v with
  | .bytes data => .ok data
  | .text s => .ok (wideBytes s)
  | v => .error (if v.length?.isSome then .badArgument else .wrongType)

/-- The handle for a machine word. -/
def handle (a : UInt64) : Value := .ofAddress a.toNat

/-! ## Answers -/

/-- The word that is left where an answer belongs. -/
def stray : UInt64 := 0x100000001

/-- An answer as a code. -/
def ofCode (v : Value) : UInt32 := (v.index?.map UInt32.ofInt).getD stray.toUInt32

/-- An answer as a number of elements. -/
def ofCount (v : Value) : Int32 := (v.index?.map Int32.ofInt).getD stray.toUInt32.toInt32

/-- An answer as a number. -/
def ofNumber (v : Value) : UInt64 := (v.index?.map UInt64.ofInt).getD stray

/-- An answer as a handle. -/
def ofHandle (v : Value) : UInt64 := if v.isNull then 0 else ofNumber v

end Bindery.Host.Word
