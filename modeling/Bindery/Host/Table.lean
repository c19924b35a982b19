import Bindery.Host.Primitives

/-!
# Native tables

A native host offers its primitives as functions over machine words and buffers. The results
besides the code go where the arguments point to: an entry is described by what it leaves there.

* `Table σ`: the entries of a table.
* `Primitives.overTable`: the primitives over a table. Arguments are reduced to machine words, and
  buffers are read back up to the number of bytes that the entry reports.
* `Table.forwarding`: a table whose entries call the primitives of the same name. A failure cannot
  pass through a native call, so it only shows in a stray answer.
-/

namespace Bindery.Host

open Number

/-- What an entry with a buffer leaves behind: its code, the bytes at the start of the buffer, and
the number of bytes that it reports. -/
structure Reply where
  code : UInt32
  data : Bytes
  written : UInt32

/-- What an entry that copies a whole container leaves behind. -/
structure BulkReply extends Reply where
  count : Int32

/-- The entries for objects and names. Texts cross as bytes of UTF-8, readers take the size of
their buffer. -/
structure ObjectTable (σ : Type) where
  isValid : UInt64 → Act σ Bool
  objectName : UInt64 → UInt32 → Act σ Reply
  makeName : Bytes → Act σ UInt64
  nameText : UInt64 → UInt32 → Act σ Reply
  makeWeak : UInt64 → Act σ UInt64
  resolveWeak : UInt64 → Act σ UInt64
  isWeakValid : UInt64 → Act σ Bool

/-- The entries for look-ups and calls by name. -/
structure ReflectionTable (σ : Type) where
  find : Global → Bytes → Act σ UInt64
  findIn : Member → UInt64 → Bytes → Act σ UInt64
  measure : Measure → UInt64 → Act σ UInt32
  allocParams : UInt64 → Act σ UInt64
  freeParams : UInt64 → UInt64 → Act σ Unit
  callFunction : UInt64 → UInt64 → UInt64 → Act σ UInt32

/-- The entries for properties. -/
structure PropertyTable (σ : Type) where
  getScalar : ScalarKind → UInt64 → UInt64 → Act σ (UInt32 × Scalar)
  setScalar : ScalarKind → UInt64 → UInt64 → Scalar → Act σ UInt32
  getText : UInt64 → UInt64 → UInt32 → Act σ Reply
  setText : UInt64 → UInt64 → Bytes → Act σ UInt32
  getStruct : UInt64 → UInt64 → UInt32 → Act σ (UInt32 × Bytes)
  setStruct : UInt64 → UInt64 → Bytes → Act σ UInt32
  getElement : UInt64 → UInt64 → UInt32 → UInt32 → Act σ (UInt32 × Bytes)
  setElement : UInt64 → UInt64 → UInt32 → Bytes → Act σ UInt32

/-- The entries for containers. -/
structure ContainerTable (σ : Type) where
  count : Shape → UInt64 → UInt64 → Act σ Int32
  clear : Shape → UInt64 → UInt64 → Act σ UInt32
  copyAll : Shape → UInt64 → UInt64 → UInt32 → Act σ BulkReply
  arrayGet : UInt64 → UInt64 → Int32 → UInt32 → Act σ Reply
  arraySet : UInt64 → UInt64 → Int32 → Bytes → Act σ UInt32
  arrayAdd : UInt64 → UInt64 → Bytes → Act σ UInt32
  arrayRemove : UInt64 → UInt64 → Int32 → Act σ UInt32
  arraySetAll : UInt64 → UInt64 → Bytes → Int32 → Act σ UInt32
  mapFind : UInt64 → UInt64 → Bytes → UInt32 → Act σ Reply
  mapAdd : UInt64 → UInt64 → Bytes → Bytes → Act σ UInt32
  mapRemove : UInt64 → UInt64 → Bytes → Act σ UInt32
  /-- The replies for the key and for the value have the same code. -/
  mapPair : UInt64 → UInt64 → Int32 → UInt32 → UInt32 → Act σ (Reply × Reply)
  setContains : UInt64 → UInt64 → Bytes → Act σ Bool
  setAdd : UInt64 → UInt64 → Bytes → Act σ UInt32
  setRemove : UInt64 → UInt64 → Bytes → Act σ UInt32
  setGet : UInt64 → UInt64 → Int32 → UInt32 → Act σ Reply
  allocTemp : UInt64 → Act σ UInt64
  freeTemp : UInt64 → UInt64 → Act σ Unit

/-- The entries for delegates. -/
structure DelegateTable (σ : Type) where
  bind : UInt64 → UInt64 → UInt64 → Act σ UInt32
  unbind : UInt64 → UInt64 → Act σ UInt32
  addMulticast : UInt64 → UInt64 → UInt64 → Act σ UInt32
  removeMulticast : UInt64 → UInt64 → UInt64 → Act σ UInt32
  broadcast : UInt64 → UInt64 → Option Bytes → Act σ UInt32

/-- The entries of a native table. -/
structure Table (σ : Type) extends ObjectTable σ, ReflectionTable σ, PropertyTable σ,
  ContainerTable σ, DelegateTable σ

/-- A scalar as the machine passes it: integers reduced to the width of the property, single
precision for single-precision properties. -/
def ScalarKind.narrow (k : ScalarKind) (s : Scalar) : Scalar :=
  match k, s with
  | u8, .int n => .int (IntType.u8.wrap n)
  | i32, .int n => .int (IntType.i32.wrap n)
  | i64, .int n | enum, .int n => .int (IntType.i64.wrap n)
  | name, .int n => .int (IntType.u64.wrap n)
  | f32, .float d => .float (.ofSingle d.toSingle)
  | object, .handle h => .handle (Word.handle (Word.ofHandle h))
  | _, s => s

/-! ## Primitives over a table -/

/-- The contents of a buffer of zeros after an entry wrote to it, up to the reported length. -/
def Reply.bytes (r : Reply) (size : Nat) : Bytes := (Bytes.fit size r.data).take r.written.toNat

/-- A code as a value. -/
def codeOf (code : UInt32) : Value := .int code.toNat

/-- The code and the bytes of a reply. -/
def Reply.result (r : Reply) (size : Nat) : Value × Bytes := (codeOf r.code, r.bytes size)

/-- The code and the bytes of a reply, as an element. -/
def Reply.element (r : Reply) (size : Nat) : Value × Value := (codeOf r.code, .bytes (r.bytes size))

/-- Size of the buffer for names. -/
def nameBuffer : Nat := 256

/-- The text of a reply; an entry that fails leaves none. -/
def Reply.text (r : Reply) : Value :=
  .text (if r.code = 0 then Text.decodeLossy (r.bytes nameBuffer) else "")

/-- Size of the first buffer for a whole container. -/
def bulkBuffer : UInt32 := 4096

/-- The code for a buffer that is too small. -/
def tooSmall : UInt32 := 10

/-- What a bulk reader answers for a reply, none if the buffer was too small. -/
def BulkReply.result? (r : BulkReply) (size : UInt32) : Option (Value × Bytes × Int) :=
  if r.code = tooSmall then none else some (codeOf r.code, r.bytes size.toNat, r.count.toInt)

/-- The bytes of the parameters of a delegate, none if they count as false. -/
def paramBytes (params : Value) : Except Fault (Option Bytes) :=
  match params with
  | .bytes data => .ok (if data.isEmpty then none else some data)
  | v => if v.isTruthy then .error .wrongType else .ok none

namespace Primitives

variable {σ : Type} (t : Table σ)

/-- An argument as an address. -/
def pass (v : Value) : Act σ UInt64 := Act.ofExcept (Word.address v)

/-- An argument as a number. -/
def passNumber (v : Value) : Act σ Int := Act.ofExcept (Word.number v)

/-- An argument as the bytes of a name. -/
def passName (v : Value) : Act σ Bytes := Act.ofExcept (Word.name v)

/-- Copies a whole container. If the buffer is too small, it is tried once more with a buffer of the
reported size; then there is no result. -/
def copyWith (entry : UInt32 → Act σ BulkReply) : Act σ (Value × Bytes × Int) := do
  let first ← entry bulkBuffer
  match first.result? bulkBuffer with
  | some result => return result
  | none =>
    let second ← entry first.written
    return (second.result? first.written).getD (codeOf tooSmall, [], 0)

/-- Objects and names over a table. -/
def objectsOver : ObjectPrimitives σ where
  isValid h := do
    if h.isTruthy then return .bool (← t.isValid (← pass h)) else return .bool false
  objectName h := return (← t.objectName (← pass h) (.ofNat nameBuffer)).text
  makeName name := return .int (← t.makeName (← passName name)).toNat
  nameText index :=
    return (← t.nameText (.ofInt (← passNumber index)) (.ofNat nameBuffer)).text
  makeWeak h := return .int (← t.makeWeak (← pass h)).toNat
  resolveWeak index := return Word.handle (← t.resolveWeak (.ofInt (← passNumber index)))
  isWeakValid index := return .bool (← t.isWeakValid (.ofInt (← passNumber index)))

/-- Look-ups and calls over a table. -/
def reflectionOver : ReflectionPrimitives σ where
  find kind name := return Word.handle (← t.find kind (← passName name))
  findIn kind h name := do
    let name ← passName name
    return Word.handle (← t.findIn kind (← pass h) name)
  measure m h := return codeOf (← t.measure m (← pass h))
  allocParams func := return Word.handle (← t.allocParams (← pass func))
  freeParams func params := do t.freeParams (← pass func) (← pass params)
  callFunction obj func params :=
    return codeOf (← t.callFunction (← pass obj) (← pass func) (← pass params))

/-- Properties over a table. -/
def propertiesOver : PropertyPrimitives σ where
  getScalar kind obj prop := do
    let (code, value) ← t.getScalar kind (← pass obj) (← pass prop)
    return (codeOf code, some value)
  setScalar kind obj prop value :=
    return codeOf (← t.setScalar kind (← pass obj) (← pass prop) (kind.narrow value))
  getText obj prop size :=
    return (← t.getText (← pass obj) (← pass prop) (.ofNat size)).result size
  setText obj prop data := return codeOf (← t.setText (← pass obj) (← pass prop) data)
  getStruct obj prop size := do
    let (code, data) ← t.getStruct (← pass obj) (← pass prop) (.ofNat size)
    return (codeOf code, data.fit size)
  setStruct obj prop data := return codeOf (← t.setStruct (← pass obj) (← pass prop) data)
  getElement obj prop index size := do
    let (code, data) ← t.getElement (← pass obj) (← pass prop) (.ofInt (← passNumber index))
      (.ofNat size)
    return (codeOf code, data.fit size)
  setElement obj prop index data := do
    return codeOf (← t.setElement (← pass obj) (← pass prop) (.ofInt (← passNumber index)) data)

/-- Containers over a table. -/
def containersOver : ContainerPrimitives σ where
  count shape obj prop := return .int (← t.count shape (← pass obj) (← pass prop)).toInt
  clear shape obj prop := return codeOf (← t.clear shape (← pass obj) (← pass prop))
  copyAll shape obj prop := do copyWith (t.copyAll shape (← pass obj) (← pass prop))
  arrayGet obj prop index size := return (← t.arrayGet (← pass obj) (← pass prop)
    (.ofInt (← passNumber index)) (.ofNat size)).element size
  arraySet obj prop index data := do
    return codeOf (← t.arraySet (← pass obj) (← pass prop) (.ofInt (← passNumber index)) data)
  arrayAdd obj prop data := return codeOf (← t.arrayAdd (← pass obj) (← pass prop) data)
  arrayRemove obj prop index := do
    return codeOf (← t.arrayRemove (← pass obj) (← pass prop) (.ofInt (← passNumber index)))
  arraySetAll obj prop data count := do
    return codeOf (← t.arraySetAll (← pass obj) (← pass prop) data (.ofInt count))
  mapFind obj prop key size :=
    return (← t.mapFind (← pass obj) (← pass prop) key (.ofNat size)).element size
  mapAdd obj prop key value := return codeOf (← t.mapAdd (← pass obj) (← pass prop) key value)
  mapRemove obj prop key := return codeOf (← t.mapRemove (← pass obj) (← pass prop) key)
  mapPair obj prop index keySize valueSize := do
    let (key, value) ← t.mapPair (← pass obj) (← pass prop) (.ofInt (← passNumber index))
      (.ofNat keySize) (.ofNat valueSize)
    return (codeOf key.code, .bytes (key.bytes keySize), .bytes (value.bytes valueSize))
  setContains obj prop data := return .bool (← t.setContains (← pass obj) (← pass prop) data)
  setAdd obj prop data := return codeOf (← t.setAdd (← pass obj) (← pass prop) data)
  setRemove obj prop data := return codeOf (← t.setRemove (← pass obj) (← pass prop) data)
  setGet obj prop index size := return (← t.setGet (← pass obj) (← pass prop)
    (.ofInt (← passNumber index)) (.ofNat size)).element size
  allocTemp prop := return Word.handle (← t.allocTemp (← pass prop))
  freeTemp prop base := do t.freeTemp (← pass prop) (← pass base)

/-- Delegates over a table. Empty parameters are passed as none. -/
def delegatesOver : DelegatePrimitives σ where
  bind obj prop id := return codeOf (← t.bind (← pass obj) (← pass prop) (.ofInt id))
  unbind obj prop := return codeOf (← t.unbind (← pass obj) (← pass prop))
  addMulticast obj prop id := do
    return codeOf (← t.addMulticast (← pass obj) (← pass prop) (.ofInt id))
  removeMulticast obj prop id := do
    return codeOf (← t.removeMulticast (← pass obj) (← pass prop) (.ofInt id))
  broadcast obj prop params := do
    let params ← Act.ofExcept (paramBytes params)
    return codeOf (← t.broadcast (← pass obj) (← pass prop) params)

/-- The primitives over a table. -/
def overTable : Primitives σ :=
  { objectsOver t, reflectionOver t, propertiesOver t, containersOver t, delegatesOver t with }

end Primitives

/-! ## A table over primitives -/

/-- The reply of an entry that has `data` to give: as much as fits goes into the buffer, and all
of its length is reported. -/
def Reply.giving (code : Value) (data : Bytes) (size : UInt32) : Reply :=
  ⟨Word.ofCode code, data.take size.toNat, .ofNat data.length⟩

/-- The code that is left by a failure. -/
def strayCode : UInt32 := Word.stray.toUInt32

/-- The reply that is left by a failure. -/
def Reply.stray : Reply := ⟨strayCode, [], 0⟩

/-- The reply of an entry that has an element to give, which has to be a byte string. -/
def Reply.givingElement (result : Value × Value) (size : UInt32) : Reply :=
  match result.2.byteString? with
  | some data => .giving result.1 data size
  | none => .stray

/-- The reply of an entry that has a text to give. -/
def Reply.givingText (answer : Value) (size : UInt32) : Reply :=
  match answer with
  | .text s => ((Text.utf8? s).map fun data => .giving (.int 0) data size).getD .stray
  | _ => .stray

/-- The reply of an entry that copies a whole container, all of it or nothing. -/
def BulkReply.giving (result : Value × Bytes × Int) (size : UInt32) : BulkReply :=
  let (code, data, count) := result
  if code == .int 0 ∧ size.toNat < data.length then
    { code := tooSmall, data := [], written := .ofNat data.length, count := .ofInt count }
  else { Reply.giving code data size with count := .ofInt count }

/-- A scalar that an entry leaves behind for a code, if it can leave one. Zero is left if the code
is not the one for success. -/
def ScalarKind.leaving (kind : ScalarKind) (code : Value) : Option Scalar → UInt32 × Scalar
  | some value =>
    (Word.ofCode code, if code == .int 0 then kind.narrow value else kind.default)
  | none =>
    (if code == .int 0 ∧ kind ≠ .bool then strayCode else Word.ofCode code, kind.default)

namespace Table

variable {σ α : Type} (p : Primitives σ)

/-- What an entry forwards to; if it fails, something stray is left. -/
def shielded (stray : α) (act : Act σ α) : Act σ α := tryCatch act fun _ => return stray

/-- An entry that answers a code. -/
def code (act : Act σ Value) : Act σ UInt32 := shielded strayCode (Word.ofCode <$> act)

/-- An entry that answers a number. -/
def number (act : Act σ Value) : Act σ UInt64 := shielded Word.stray (Word.ofNumber <$> act)

/-- An entry that answers a handle. -/
def handle (act : Act σ Value) : Act σ UInt64 := shielded Word.stray (Word.ofHandle <$> act)

/-- An entry that answers yes or no. -/
def truth (act : Act σ Value) : Act σ Bool := shielded true (Value.isTruthy <$> act)

/-- An entry that gives bytes. -/
def giving (act : Act σ (Value × Bytes)) (size : UInt32) : Act σ Reply :=
  shielded .stray do
    let (code, data) ← act
    return .giving code data size

/-- An entry that gives an element. -/
def element (act : Act σ (Value × Value)) (size : UInt32) : Act σ Reply :=
  shielded .stray ((Reply.givingElement · size) <$> act)

/-- The name that an entry receives, which ends at the first zero byte. -/
def receivedName (name : Bytes) : Value := .text (Text.decodeLossy (name.takeWhile (· ≠ 0)))

/-- The handle that an entry receives. -/
abbrev received (a : UInt64) : Value := Word.handle a

/-- The number that an entry receives. -/
def receivedNumber (n : UInt64) : Value := .int n.toNat

/-- The index that an entry receives. -/
def receivedIndex (n : Int32) : Value := .int n.toInt

/-- Entries for objects and names. -/
def forwardingObjects : ObjectTable σ where
  isValid a := truth (p.isValid (received a))
  objectName a size :=
    shielded .stray ((Reply.givingText · size) <$> p.objectName (received a))
  makeName name := number (p.makeName (receivedName name))
  nameText index size :=
    shielded .stray ((Reply.givingText · size) <$> p.nameText (receivedNumber index))
  makeWeak a := number (p.makeWeak (received a))
  resolveWeak index := handle (p.resolveWeak (receivedNumber index))
  isWeakValid index := truth (p.isWeakValid (receivedNumber index))

/-- Entries for look-ups and calls. -/
def forwardingReflection : ReflectionTable σ where
  find kind name := handle (p.find kind (receivedName name))
  findIn kind a name := handle (p.findIn kind (received a) (receivedName name))
  measure m a := code (p.measure m (received a))
  allocParams func := handle (p.allocParams (received func))
  freeParams func params := shielded () (p.freeParams (received func) (received params))
  callFunction obj func params :=
    code (p.callFunction (received obj) (received func) (received params))

/-- Entries for properties. -/
def forwardingProperties : PropertyTable σ where
  getScalar kind obj prop := shielded (strayCode, kind.default) do
    let (code, value) ← p.getScalar kind (received obj) (received prop)
    return kind.leaving code value
  setScalar kind obj prop value :=
    code (p.setScalar kind (received obj) (received prop) value)
  getText obj prop size := giving (p.getText (received obj) (received prop) size.toNat) size
  setText obj prop data := code (p.setText (received obj) (received prop) data)
  getStruct obj prop size := shielded (strayCode, []) do
    let (code, data) ← p.getStruct (received obj) (received prop) size.toNat
    return (Word.ofCode code, data.take size.toNat)
  setStruct obj prop data := code (p.setStruct (received obj) (received prop) data)
  getElement obj prop index size := shielded (strayCode, []) do
    let (code, data) ← p.getElement (received obj) (received prop) (.int index.toNat) size.toNat
    return (Word.ofCode code, data.take size.toNat)
  setElement obj prop index data :=
    code (p.setElement (received obj) (received prop) (.int index.toNat) data)

/-- Entries for containers. -/
def forwardingContainers : ContainerTable σ where
  count shape obj prop := shielded strayCode.toInt32
    (Word.ofCount <$> p.count shape (received obj) (received prop))
  clear shape obj prop := code (p.clear shape (received obj) (received prop))
  copyAll shape obj prop size := shielded { Reply.stray with count := 0 }
    ((BulkReply.giving · size) <$> p.copyAll shape (received obj) (received prop))
  arrayGet obj prop index size :=
    element (p.arrayGet (received obj) (received prop) (receivedIndex index) size.toNat) size
  arraySet obj prop index data :=
    code (p.arraySet (received obj) (received prop) (receivedIndex index) data)
  arrayAdd obj prop data := code (p.arrayAdd (received obj) (received prop) data)
  arrayRemove obj prop index :=
    code (p.arrayRemove (received obj) (received prop) (receivedIndex index))
  arraySetAll obj prop data count :=
    code (p.arraySetAll (received obj) (received prop) data count.toInt)
  mapFind obj prop key size :=
    element (p.mapFind (received obj) (received prop) key size.toNat) size
  mapAdd obj prop key value := code (p.mapAdd (received obj) (received prop) key value)
  mapRemove obj prop key := code (p.mapRemove (received obj) (received prop) key)
  mapPair obj prop index keySize valueSize := shielded (.stray, .stray) do
    let (code, key, value) ← p.mapPair (received obj) (received prop) (receivedIndex index)
      keySize.toNat valueSize.toNat
    return (.givingElement (code, key) keySize, .givingElement (code, value) valueSize)
  setContains obj prop data := truth (p.setContains (received obj) (received prop) data)
  setAdd obj prop data := code (p.setAdd (received obj) (received prop) data)
  setRemove obj prop data := code (p.setRemove (received obj) (received prop) data)
  setGet obj prop index size :=
    element (p.setGet (received obj) (received prop) (receivedIndex index) size.toNat) size
  allocTemp prop := handle (p.allocTemp (received prop))
  freeTemp prop base := shielded () (p.freeTemp (received prop) (received base))

/-- Entries for delegates. -/
def forwardingDelegates : DelegateTable σ where
  bind obj prop id := code (p.bind (received obj) (received prop) id.toNat)
  unbind obj prop := code (p.unbind (received obj) (received prop))
  addMulticast obj prop id := code (p.addMulticast (received obj) (received prop) id.toNat)
  removeMulticast obj prop id :=
    code (p.removeMulticast (received obj) (received prop) id.toNat)
  broadcast obj prop params := code (p.broadcast (received obj) (received prop)
    ((params.map Value.bytes).getD .null))

/-- The table whose entries call the primitives of the same name. -/
def forwarding : Table σ :=
  { forwardingObjects p, forwardingReflection p, forwardingProperties p, forwardingContainers p,
    forwardingDelegates p with }

end Table
end Bindery.Host
