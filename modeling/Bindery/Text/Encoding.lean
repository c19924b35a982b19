import Bindery.Bytes
import Bindery.Fault
import Bindery.Text.CodePoint

/-!
# Encodings

Texts as bytes, in UTF-8 and in encodings that are asked for by name. A maximal ill-formed part of a
byte string is a lead byte together with the continuation bytes that could still belong to a
well-formed sequence, or a single byte that cannot start one.

* `utf8?`: the bytes of a text.
* `decodeLossy`: bytes as a text, with one replacement character for every maximal ill-formed part.
* `nameBytes?`, `decodeName`: names of files, whose ill-formed bytes are halves of surrogate pairs.
* `sequenceLength?`: the length announced by a lead byte.
* `secondByteOk`: the continuation bytes that may follow a lead byte directly.
* `Encoding`: how ASCII text is laid out in bytes.
* `Encoding.named?`: the encoding with a name, in any case and with any signs between its words.
* `Encoding.encode`: the bytes of an ASCII text.
-/

namespace Bindery.Text

/-! ## UTF-8 -/

/-- The replacement character U+FFFD. -/
def replacement : Char := Char.ofNat 0xFFFD

/-- The bytes of a text in UTF-8, none if it holds half of a surrogate pair. -/
def utf8? (s : String) : Option (List UInt8) := (plain? s).map (·.toUTF8.toList)

/-- Number of bytes of a text. Halves of surrogate pairs have none. -/
def byteSize (s : String) : Nat := ((utf8? s).getD []).length

/-- Number of bytes of the sequence that a lead byte starts; none when it starts none. -/
def sequenceLength? (b : UInt8) : Option Nat :=
  if b < 0x80 then some 1
  else if b < 0xC2 then none
  else if b < 0xE0 then some 2
  else if b < 0xF0 then some 3
  else if b < 0xF5 then some 4
  else none

/-- Whether `b` may be the second byte after the lead byte `lead`. The narrower ranges rule out
overlong forms, surrogates and code points beyond U+10FFFF. -/
def secondByteOk (lead b : UInt8) : Bool :=
  if lead = 0xE0 then 0xA0 ≤ b && b < 0xC0
  else if lead = 0xED then 0x80 ≤ b && b < 0xA0
  else if lead = 0xF0 then 0x90 ≤ b && b < 0xC0
  else if lead = 0xF4 then 0x80 ≤ b && b < 0x90
  else 0x80 ≤ b && b < 0xC0

/-- A byte that continues a sequence. -/
def isContinuation (b : UInt8) : Bool := 0x80 ≤ b && b < 0xC0

/-- The continuation bytes that well-formedness admits after a lead byte announcing `n` bytes. -/
def continuations (lead : UInt8) (n : Nat) (rest : List UInt8) : List UInt8 :=
  match rest with
  | [] => []
  | b :: more =>
    if n ≤ 1 then []
    else if secondByteOk lead b then b :: (more.take (n - 2)).takeWhile isContinuation
    else []

/-- Code point of a complete sequence. -/
def codePoint (lead : UInt8) (n : Nat) (tail : List UInt8) : Nat :=
  let head := if n ≤ 1 then lead.toNat else lead.toNat % Nat.pow 2 (7 - n)
  tail.foldl (fun acc b => acc * 64 + b.toNat % 64) head

/-- The first character of a byte string, none for an ill-formed part, and how many bytes it takes
beyond the lead byte. -/
def decodeStep (lead : UInt8) (rest : List UInt8) : Option Char × Nat :=
  match sequenceLength? lead with
  | none => (none, 0)
  | some n =>
    let tail := continuations lead n rest
    if tail.length + 1 = n then (some (Char.ofNat (codePoint lead n tail)), tail.length)
    else (none, tail.length)

/-- The characters of a byte string, ill-formed parts replaced. -/
def decodeChars : List UInt8 → List Char
  | [] => []
  | lead :: rest =>
    let step := decodeStep lead rest
    step.1.getD replacement :: decodeChars (rest.drop step.2)
termination_by bytes => bytes.length
decreasing_by simp only [List.length_drop, List.length_cons]; omega

/-- A byte string as text, ill-formed parts replaced. -/
def decodeLossy (bytes : List UInt8) : String := ofPoints ((decodeChars bytes).map .char)

/-! ## Names of files -/

/-- Where the halves start that are single bytes in the name of a file. -/
def byteHalf : Nat := 0xDC00

/-- The bytes of a code point in the name of a file. -/
def nameBytesOf? : CodePoint → Option (List UInt8)
  | .char c => some (String.utf8EncodeChar c)
  | p =>
    if byteHalf + 0x80 ≤ p.number ∧ p.number < byteHalf + 0x100 then
      some [UInt8.ofNat (p.number - byteHalf)]
    else none

/-- The bytes of the name of a file. -/
def nameBytes? (s : String) : Option (List UInt8) :=
  let parts := (points s).map nameBytesOf?
  if parts.all (·.isSome) then some (parts.flatMap (·.getD [])) else none

/-- The code points of the name of a file, where every ill-formed byte is a half. -/
def decodeName : List UInt8 → List CodePoint
  | [] => []
  | lead :: rest =>
    match decodeStep lead rest with
    | (some c, size) => .char c :: decodeName (rest.drop size)
    | (none, _) => .ofNumber (byteHalf + lead.toNat) :: decodeName rest
termination_by bytes => bytes.length
decreasing_by all_goals simp only [List.length_drop, List.length_cons]; omega

/-! ## Encodings by name -/

/-- A layout of ASCII text: bytes that come first, the number of bytes of each character, and
whether its value is in the last one. -/
structure Encoding where
  start : Bytes := []
  width : Nat := 1
  bigEndian : Bool := false
deriving DecidableEq, Repr

namespace Encoding

/-- The names of encodings in which every ASCII character is its own byte. -/
def plainNames : List String := [
  "646", "8859", "ansi_x3.4_1968", "ansi_x3_4_1968", "ascii", "cp1252", "cp367", "cp437", "cp65001",
  "cp819", "ibm367", "ibm819", "iso646_us", "iso8859", "iso8859_1", "iso_8859_1", "iso_ir_100",
  "iso_ir_6", "l1", "latin", "latin1", "latin_1", "u8", "us", "us_ascii", "utf", "utf8", "utf_8",
  "windows_1252"]

/-- The encodings by their names. -/
def byName : List (String × Encoding) :=
  plainNames.map (fun n => (n, ⟨[], 1, false⟩)) ++ [
    ("utf_8_sig", ⟨[0xEF, 0xBB, 0xBF], 1, false⟩),
    ("utf_16", ⟨[0xFF, 0xFE], 2, false⟩), ("utf16", ⟨[0xFF, 0xFE], 2, false⟩),
    ("u16", ⟨[0xFF, 0xFE], 2, false⟩),
    ("utf_16_le", ⟨[], 2, false⟩), ("utf_16le", ⟨[], 2, false⟩),
    ("utf_16_be", ⟨[], 2, true⟩), ("utf_16be", ⟨[], 2, true⟩),
    ("utf_32", ⟨[0xFF, 0xFE, 0, 0], 4, false⟩), ("utf32", ⟨[0xFF, 0xFE, 0, 0], 4, false⟩),
    ("u32", ⟨[0xFF, 0xFE, 0, 0], 4, false⟩),
    ("utf_32_le", ⟨[], 4, false⟩), ("utf_32le", ⟨[], 4, false⟩),
    ("utf_32_be", ⟨[], 4, true⟩), ("utf_32be", ⟨[], 4, true⟩)]

/-- A name in lower case, with one underscore for what separates its words. -/
def normalize (name : String) : String :=
  let words := name.toList.splitBy fun c d => isWord c == isWord d
  "_".intercalate ((words.filter fun w => w.head?.any isWord).map fun w =>
    String.ofList (w.map Char.toLower))
where
  /-- A character of a word. -/
  isWord (c : Char) : Bool := c.isAlphanum || c = '.'

/-- The encoding with a name. -/
def named? (name : String) : Option Encoding := byName.lookup (normalize name)

/-- The bytes of an ASCII character. -/
def encodeChar (e : Encoding) (c : Char) : Bytes :=
  let bytes := Bytes.ofNat e.width c.toNat
  if e.bigEndian then bytes.reverse else bytes

/-- The bytes of an ASCII text. -/
def encode (e : Encoding) (s : String) : Bytes := e.start ++ s.toList.flatMap e.encodeChar

end Encoding
end Bindery.Text
