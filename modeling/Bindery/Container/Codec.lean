import Bindery.Enum.Class
import Bindery.Handle.Reference
import Bindery.Member
import Bindery.Text.Encoding
import Bindery.Value.Document
import Bindery.Wire.Pack

/-!
# Element codecs

How an element of a container is written as bytes and read back.

* `ElementCodec`: the codecs.
* `ElementCodec.bufferSize`: the most bytes that an element may take.
* `ElementCodec.encode`, `ElementCodec.decode`; `ElementCodec.encodeFrame` for bulk copies.
* `ElementCodec.ofValue`: the codec that a value describes.
* `encodeText`, `decodeText`: texts behind their length, which may be cut off.
-/

namespace Bindery

/-- A codec for the elements of a container. -/
inductive ElementCodec where
  | slot (w : Wire)
  | name
  | object
  | text
  | struct
  /-- Members of an enum, stored in a slot. -/
  | enum (e : EnumClass) (w : Wire)
  /-- No codec, but something else that the class of the constants has, such as a text. -/
  | stray (text : Option String)

/-- The largest element of no fixed size. -/
def maxElement : Nat := 4096

/-- A text behind the number of its bytes. -/
def encodeText (s : String) : Except Fault Bytes :=
  (Text.utf8? s).elim (.error .unencodable) Bytes.framed

/-- The text behind its length; what is cut off is left out, and a lone length is the empty text. -/
def decodeText (data : Bytes) : String :=
  if data.length < 4 then ""
  else Text.decodeLossy ((data.drop 4).take (Bytes.toNat (data.take 4)))

namespace ElementCodec

/-- The codecs of fixed slots, under their names in upper case, and the others. -/
def constants : List (String × ElementCodec) := [
  ("BOOL", slot .bool), ("I8", slot (.int .i8)), ("U8", slot (.int .u8)), ("I16", slot (.int .i16)),
  ("U16", slot (.int .u16)), ("I32", slot (.int .i32)), ("U32", slot (.int .u32)),
  ("I64", slot (.int .i64)), ("U64", slot (.int .u64)), ("F32", slot .f32), ("F64", slot .f64),
  ("NAME", name), ("HANDLE", slot .handle), ("OBJECT", object), ("STRING", text),
  ("STRUCT", struct)]

/-- The texts that the class of the constants has. -/
def texts : List (String × String) := [
  ("__doc__", "Codec constants referenced by generated code"),
  ("__module__", "uikagen.runtime.containers"), ("__name__", "elements"),
  ("__qualname__", "elements")]

/-- What the class of the constants has under a name. -/
def named? (key : String) : Option ElementCodec :=
  match constants.lookup key, texts.lookup key with
  | some codec, _ => some codec
  | none, some s => some (stray s)
  | none, none =>
    if key = "enum_of" || commonMembers.contains key || classMembers.contains key then
      some (stray none)
    else none

/-- The most bytes that an element may take. -/
def bufferSize : ElementCodec → Except Fault Nat
  | slot w | enum _ w => .ok w.size
  | name => .ok Wire.name.size
  | object => .ok Wire.handle.size
  | text | struct => .ok maxElement
  | stray _ => .error .noSuchMember

/-- The bytes of a text in the encoding that a value names. -/
def encodeIn (s : String) (encoding : Value) : Except Fault Bytes :=
  match encoding with
  | .text label =>
    match Text.Encoding.named? label with
    | some e => .ok (e.encode s)
    | none =>
      if !Text.isPlain label then .error .unencodable
      else .error (if label.contains '\x00' then .malformed else .noSuchEncoding)
  | _ => .error .wrongType

/-- The bytes of an element. -/
def encode (codec : ElementCodec) (v : Value) : Except Fault Bytes :=
  match codec with
  | slot w => w.pack v
  | name => do Wire.name.pack (← v.nameIndex)
  | object => do Wire.handle.pack (← v.rawHandle)
  | text => match v with
    | .text s => encodeText s
    | _ => .error .noSuchMember
  | struct => v.toBytes
  | enum _ w => do w.pack (.int (← v.toInt))
  | stray (some s) => encodeIn s v
  | stray none => .error .noSuchMember

/-- The frame of an element. -/
def encodeFrame (codec : ElementCodec) (v : Value) : Except Fault Bytes := do
  (← codec.encode v).framed

/-- The member of an enum for a stored value; one that has no member stands for itself. -/
def memberOr (e : EnumClass) (raw : Value) : Except Fault Value := do
  return (← e.fromValue raw).getD raw

/-- The element with the given bytes. -/
def decode (codec : ElementCodec) (data : Bytes) : Except Fault Value :=
  match codec with
  | slot w => w.unpack data
  | name => .name <$> Wire.name.unpack data
  | object => .refTo <$> Wire.handle.unpack data
  | text => .ok (.text (decodeText data))
  | struct => .ok (.struct data)
  | enum e w => do memberOr e (← w.unpack data)
  | stray _ => .error .noSuchMember

/-- The element with the bytes that a value holds. -/
def decodeValue (codec : ElementCodec) (v : Value) : Except Fault Value :=
  match codec, v.byteString?, v.length? with
  | struct, _, _ => .struct <$> v.plainBytes
  | stray _, _, _ => .error .noSuchMember
  | _, some data, _ => codec.decode data
  | text, none, some n => if n < 4 then .ok (.text "") else .error .wrongType
  | _, _, _ => .error .wrongType

/-! ## Codecs as values -/

/-- The codec of an enum given by its document, and by the tag of a slot or nothing. -/
def ofEnum (doc : Document) (tag : Value) : Except Fault ElementCodec := do
  match SchemaRecord.readEnum doc with
  | .ok r =>
    let e ← EnumClass.load r.toEnum
    let tag := if tag.isTruthy then tag else .text e.layout.repr.tag
    return enum e (← Wire.ofValue tag)
  | .error (.fault f) => throw f
  | .error e => throw (.unreadable e.message)

/-- The codec that a value describes: the name of a constant, or a table with the document of an
enum and perhaps the tag of its slot. -/
def ofValue (v : Value) : Except Fault ElementCodec := do
  match v with
  | .text key =>
    match named? key with
    | some codec => return codec
    | none => throw .noSuchMember
  | _ =>
    match ← v.entry "enum" with
    | some doc => ofEnum doc.toDocument ((← v.entry "repr").getD .null)
    | none => throw .noSuchKey

end ElementCodec
end Bindery
