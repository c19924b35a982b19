import Bindery.Host.Table
import Bindery.Proofs.Effect
import Bindery.Proofs.Number.Single
import Bindery.Proofs.Text.Utf8
import Bindery.Proofs.Wire.Wrap

/-!
# Calls in machine terms

The calls of primitives whose arguments a machine can pass, and the answers that it can pass back.
Handles are words, zero for null. Indices are of 32 bits, signed for containers and unsigned for
fixed-size arrays, and names have bytes of UTF-8.

* `Answer`: the kinds of answers. `Answer.Machine` are those that fit, `direct` what a primitive
  answers for one, `native` what an entry of a table leaves behind for it.
* `Answer.read`: what the primitives over a table make of what an entry left behind.
* `PrimitiveCall`: the calls. The bulk readers and the broadcast are left out.
* `PrimitiveCall.direct_overTable`: over a table, a call reads what its entry left behind.
-/

namespace Bindery.Host

open Number

/-! ## Words -/

namespace Word

theorem ofInt_toNat (a : UInt64) : UInt64.ofInt a.toNat = a := by
  have ha : ((a.toNat : Int) % 2 ^ 64).toNat = a.toNat := by have := a.toNat_lt; omega
  rw [UInt64.ofInt, ha, UInt64.ofNat_toNat]

theorem ofInt_toNat32 (a : UInt32) : UInt32.ofInt a.toNat = a := by
  have ha : ((a.toNat : Int) % 2 ^ 32).toNat = a.toNat := by have := a.toNat_lt; omega
  rw [UInt32.ofInt, ha, UInt32.ofNat_toNat]

/-- Zero stands for null, and any other word for itself. -/
theorem handle_cases (a : UInt64) :
    a = 0 ∧ handle a = .null ∨ a ≠ 0 ∧ handle a = .int a.toNat := by
  by_cases h : a = 0
  · exact .inl ⟨h, by rw [h]; rfl⟩
  · have hne : a.toNat ≠ 0 := fun h' => h (UInt64.toNat_inj.1 h')
    exact .inr ⟨h, by rw [handle, Value.ofAddress, if_neg hne]⟩

/-- Words come back as they were, null included. -/
theorem ofHandle_handle (a : UInt64) : ofHandle (handle a) = a := by
  obtain ⟨rfl, -⟩ | ⟨-, h⟩ := handle_cases a
  · rfl
  · rw [h]
    exact ofInt_toNat a

private theorem address_handle (a : UInt64) : address (handle a) = .ok a := by
  obtain ⟨rfl, -⟩ | ⟨-, h⟩ := handle_cases a
  · rfl
  · rw [h]
    exact congrArg Except.ok (ofInt_toNat a)

private theorem isTruthy_handle (a : UInt64) : (handle a).isTruthy = (a != 0) := by
  obtain ⟨rfl, -⟩ | ⟨hne, h⟩ := handle_cases a
  · rfl
  · have htoNat : a.toNat ≠ 0 := fun h' => hne (UInt64.toNat_inj.1 h')
    simp [h, Value.isTruthy, hne, htoNat]

private theorem name_ofPlain (s : String) :
    name (.text (Text.ofPlain s)) = .ok s.toUTF8.toList := by
  rw [name, Text.utf8?_ofPlain]
  rfl

end Word

/-- The scalars of a kind that a machine passes as they are: integers in its range, and doubles that
are numbers of single precision where it passes those. -/
def ScalarKind.Holds : ScalarKind → Scalar → Prop
  | bool, .bool _ | f64, .float _ => True
  | u8, .int n => IntType.u8.Holds n
  | i32, .int n => IntType.i32.Holds n
  | i64, .int n | enum, .int n => IntType.i64.Holds n
  | name, .int n => IntType.u64.Holds n
  | f32, .float d => ∃ w, d = .ofSingle w
  | object, .handle h => ∃ a, h = Word.handle a
  | _, _ => False

/-- What a machine passes as it is, it does not cut. -/
theorem ScalarKind.narrow_of_holds {kind : ScalarKind} {v : Scalar} (h : kind.Holds v) :
    kind.narrow v = v := by
  cases kind <;> cases v <;> try contradiction
  case u8.int | i32.int | i64.int | enum.int | name.int =>
    exact congrArg Scalar.int (IntType.wrap_of_holds h)
  case f32.float =>
    obtain ⟨w, rfl⟩ := h
    exact congrArg Scalar.float (Double.ofSingle_toSingle w)
  case object.handle =>
    obtain ⟨a, rfl⟩ := h
    exact congrArg (Scalar.handle ∘ Word.handle) (Word.ofHandle_handle a)
  case bool.bool | f64.float => rfl

/-! ## Answers -/

/-- The kinds of answers, with the sizes of the buffers that they have to fit in. -/
inductive Answer where
  | code | handle | number | truth | count | text | none
  | scalar (kind : ScalarKind)
  /-- A code and at most so many bytes. -/
  | bytes (size : UInt32)
  /-- A code and just so many bytes. -/
  | record (size : UInt32)
  | element (size : UInt32)
  | pair (keySize valueSize : UInt32)

namespace Answer

/-- Bytes that fit in a buffer. -/
abbrev Fitting (size : UInt32) : Type := { data : Bytes // data.length ≤ size.toNat }

/-- The answers that fit. -/
@[reducible] def Machine : Answer → Type
  | code => UInt32
  | handle | number => UInt64
  | truth => Bool
  | count => Int32
  | text => { s : String // s.toUTF8.toList.length ≤ nameBuffer }
  | none => Unit
  | scalar kind => UInt32 × { v : Scalar // kind.Holds v }
  | bytes size | element size => UInt32 × Fitting size
  | record size => UInt32 × { data : Bytes // data.length = size.toNat }
  | pair keySize valueSize => UInt32 × Fitting keySize × Fitting valueSize

/-- What primitives answer with. -/
@[reducible] def Direct : Answer → Type
  | code | handle | number | truth | count | text => Value
  | none => Unit
  | scalar _ => Value × Option Scalar
  | bytes _ | record _ => Value × Bytes
  | element _ => Value × Value
  | pair _ _ => Value × Value × Value

/-- What the entries of a table leave behind. -/
@[reducible] def Native : Answer → Type
  | code => UInt32
  | handle | number => UInt64
  | truth => Bool
  | count => Int32
  | none => Unit
  | scalar _ => UInt32 × Scalar
  | record _ => UInt32 × Bytes
  | text | bytes _ | element _ => Reply
  | pair _ _ => Reply × Reply

/-- The reply with some bytes, all of them. -/
def replyOf (code : UInt32) (data : Bytes) : Reply := ⟨code, data, .ofNat data.length⟩

/-- An answer as a primitive gives it. -/
def direct : (a : Answer) → a.Machine → a.Direct
  | code, c => codeOf c
  | handle, h => Word.handle h
  | number, n => .int n.toNat
  | truth, b => .bool b
  | count, n => .int n.toInt
  | text, s => .text (Text.ofPlain s)
  | none, () => ()
  | scalar _, (c, v) => (codeOf c, some v)
  | bytes _, (c, data) | record _, (c, data) => (codeOf c, data)
  | element _, (c, data) => (codeOf c, .bytes data)
  | pair _ _, (c, key, value) => (codeOf c, .bytes key, .bytes value)

/-- An answer as an entry leaves it behind: bytes and scalars where its arguments point to, and the
lengths of the bytes. -/
def native : (a : Answer) → a.Machine → a.Native
  | code, c => c
  | handle, h => h
  | number, n => n
  | truth, b => b
  | count, n => n
  | text, s => replyOf 0 s.1.toUTF8.toList
  | none, () => ()
  | scalar _, (c, v) => (c, v)
  | record _, (c, data) => (c, data)
  | bytes _, (c, data) | element _, (c, data) => replyOf c data
  | pair _ _, (c, key, value) => (replyOf c key, replyOf c value)

/-- What the primitives over a table make of what an entry left behind. -/
def read : (a : Answer) → a.Native → a.Direct
  | code, c => codeOf c
  | handle, h => Word.handle h
  | number, n => .int n.toNat
  | truth, b => .bool b
  | count, n => .int n.toInt
  | text, r => r.text
  | none, () => ()
  | scalar _, (c, v) => (codeOf c, some v)
  | bytes size, r => r.result size.toNat
  | record size, (c, data) => (codeOf c, data.fit size.toNat)
  | element size, r => r.element size.toNat
  | pair keySize valueSize, (key, value) =>
    (codeOf key.code, .bytes (key.bytes keySize.toNat), .bytes (value.bytes valueSize.toNat))

/-- All bytes of a reply are read if they fit into the buffer. -/
theorem bytes_replyOf {data : Bytes} (size c : UInt32) (h : data.length ≤ size.toNat) :
    (replyOf c data).bytes size.toNat = data := by
  have hlength : (UInt32.ofNat data.length).toNat = data.length :=
    UInt32.toNat_ofNat_of_lt' (Nat.lt_of_le_of_lt h size.toNat_lt)
  rw [replyOf, Reply.bytes, hlength, Bytes.fit, List.take_of_length_le h, List.take_left]

/-- An answer that fits is read back. -/
theorem read_native (a : Answer) (m : a.Machine) : a.read (a.native m) = a.direct m := by
  cases a with
  | code | handle | number | truth | count | none | scalar => rfl
  | text =>
    obtain ⟨s, hs⟩ := m
    have hbytes : (replyOf 0 s.toUTF8.toList).bytes nameBuffer = s.toUTF8.toList :=
      bytes_replyOf (.ofNat nameBuffer) 0 hs
    simp only [read, native, direct, Reply.text]
    rw [hbytes, Text.decodeLossy_utf8]
    rfl
  | bytes size =>
    obtain ⟨c, data, hdata⟩ := m
    exact congrArg (Prod.mk (codeOf c)) (bytes_replyOf size c hdata)
  | record size =>
    obtain ⟨c, data, hdata⟩ := m
    have hfit : data.fit size.toNat = data := by
      rw [Bytes.fit, List.take_of_length_le (Nat.le_of_eq hdata), hdata, Nat.sub_self]
      exact List.append_nil data
    exact congrArg (Prod.mk (codeOf c)) hfit
  | element size =>
    obtain ⟨c, data, hdata⟩ := m
    exact congrArg (fun d => (codeOf c, Value.bytes d)) (bytes_replyOf size c hdata)
  | pair keySize valueSize =>
    obtain ⟨c, ⟨key, hkey⟩, value, hvalue⟩ := m
    simp only [read, native, direct]
    rw [bytes_replyOf keySize c hkey, bytes_replyOf valueSize c hvalue]
    rfl

end Answer

/-! ## Calls -/

/-- The calls of primitives with arguments that a machine can pass, by their answers. -/
inductive PrimitiveCall : Answer → Type where
  | isValid (obj : UInt64) : PrimitiveCall .truth
  | objectName (obj : UInt64) : PrimitiveCall .text
  | makeName (name : String) : PrimitiveCall .number
  | nameText (index : UInt64) : PrimitiveCall .text
  | makeWeak (obj : UInt64) : PrimitiveCall .number
  | resolveWeak (index : UInt64) : PrimitiveCall .handle
  | isWeakValid (index : UInt64) : PrimitiveCall .truth
  | find (kind : Global) (name : String) : PrimitiveCall .handle
  | findIn (kind : Member) (owner : UInt64) (name : String) : PrimitiveCall .handle
  | measure (m : Measure) (h : UInt64) : PrimitiveCall .code
  | allocParams (func : UInt64) : PrimitiveCall .handle
  | freeParams (func params : UInt64) : PrimitiveCall .none
  | callFunction (obj func params : UInt64) : PrimitiveCall .code
  | getScalar (kind : ScalarKind) (obj prop : UInt64) : PrimitiveCall (.scalar kind)
  | setScalar (kind : ScalarKind) (obj prop : UInt64) (v : { v : Scalar // kind.Holds v }) :
    PrimitiveCall .code
  | getText (obj prop : UInt64) (size : UInt32) : PrimitiveCall (.bytes size)
  | setText (obj prop : UInt64) (data : Bytes) : PrimitiveCall .code
  | getStruct (obj prop : UInt64) (size : UInt32) : PrimitiveCall (.record size)
  | setStruct (obj prop : UInt64) (data : Bytes) : PrimitiveCall .code
  | getElement (obj prop : UInt64) (index size : UInt32) : PrimitiveCall (.record size)
  | setElement (obj prop : UInt64) (index : UInt32) (data : Bytes) : PrimitiveCall .code
  | count (shape : Shape) (obj prop : UInt64) : PrimitiveCall .count
  | clear (shape : Shape) (obj prop : UInt64) : PrimitiveCall .code
  | arrayGet (obj prop : UInt64) (index : Int32) (size : UInt32) : PrimitiveCall (.element size)
  | arraySet (obj prop : UInt64) (index : Int32) (data : Bytes) : PrimitiveCall .code
  | arrayAdd (obj prop : UInt64) (data : Bytes) : PrimitiveCall .code
  | arrayRemove (obj prop : UInt64) (index : Int32) : PrimitiveCall .code
  | arraySetAll (obj prop : UInt64) (data : Bytes) (count : Int32) : PrimitiveCall .code
  | mapFind (obj prop : UInt64) (key : Bytes) (size : UInt32) : PrimitiveCall (.element size)
  | mapAdd (obj prop : UInt64) (key value : Bytes) : PrimitiveCall .code
  | mapRemove (obj prop : UInt64) (key : Bytes) : PrimitiveCall .code
  | mapPair (obj prop : UInt64) (index : Int32) (keySize valueSize : UInt32) :
    PrimitiveCall (.pair keySize valueSize)
  | setContains (obj prop : UInt64) (data : Bytes) : PrimitiveCall .truth
  | setAdd (obj prop : UInt64) (data : Bytes) : PrimitiveCall .code
  | setRemove (obj prop : UInt64) (data : Bytes) : PrimitiveCall .code
  | setGet (obj prop : UInt64) (index : Int32) (size : UInt32) : PrimitiveCall (.element size)
  | allocTemp (prop : UInt64) : PrimitiveCall .handle
  | freeTemp (prop base : UInt64) : PrimitiveCall .none
  | bind (obj prop id : UInt64) : PrimitiveCall .code
  | unbind (obj prop : UInt64) : PrimitiveCall .code
  | addMulticast (obj prop id : UInt64) : PrimitiveCall .code
  | removeMulticast (obj prop id : UInt64) : PrimitiveCall .code

namespace PrimitiveCall

variable {σ : Type} {a : Answer}

open Word (handle)

/-- A name as a value. -/
def nameValue (name : String) : Value := .text (Text.ofPlain name)

/-- The bytes of a name. -/
def nameData (name : String) : Bytes := name.toUTF8.toList

/-- The call of a primitive. -/
def direct (p : Primitives σ) : PrimitiveCall a → Act σ a.Direct
  | isValid obj => p.isValid (handle obj)
  | objectName obj => p.objectName (handle obj)
  | makeName name => p.makeName (nameValue name)
  | nameText index => p.nameText (.int index.toNat)
  | makeWeak obj => p.makeWeak (handle obj)
  | resolveWeak index => p.resolveWeak (.int index.toNat)
  | isWeakValid index => p.isWeakValid (.int index.toNat)
  | find kind name => p.find kind (nameValue name)
  | findIn kind owner name => p.findIn kind (handle owner) (nameValue name)
  | measure m h => p.measure m (handle h)
  | allocParams func => p.allocParams (handle func)
  | freeParams func params => p.freeParams (handle func) (handle params)
  | callFunction obj func params => p.callFunction (handle obj) (handle func) (handle params)
  | getScalar kind obj prop => p.getScalar kind (handle obj) (handle prop)
  | setScalar kind obj prop v => p.setScalar kind (handle obj) (handle prop) v
  | getText obj prop size => p.getText (handle obj) (handle prop) size.toNat
  | setText obj prop data => p.setText (handle obj) (handle prop) data
  | getStruct obj prop size => p.getStruct (handle obj) (handle prop) size.toNat
  | setStruct obj prop data => p.setStruct (handle obj) (handle prop) data
  | getElement obj prop index size =>
    p.getElement (handle obj) (handle prop) (.int index.toNat) size.toNat
  | setElement obj prop index data =>
    p.setElement (handle obj) (handle prop) (.int index.toNat) data
  | count shape obj prop => p.count shape (handle obj) (handle prop)
  | clear shape obj prop => p.clear shape (handle obj) (handle prop)
  | arrayGet obj prop index size =>
    p.arrayGet (handle obj) (handle prop) (.int index.toInt) size.toNat
  | arraySet obj prop index data => p.arraySet (handle obj) (handle prop) (.int index.toInt) data
  | arrayAdd obj prop data => p.arrayAdd (handle obj) (handle prop) data
  | arrayRemove obj prop index => p.arrayRemove (handle obj) (handle prop) (.int index.toInt)
  | arraySetAll obj prop data number =>
    p.arraySetAll (handle obj) (handle prop) data number.toInt
  | mapFind obj prop key size => p.mapFind (handle obj) (handle prop) key size.toNat
  | mapAdd obj prop key value => p.mapAdd (handle obj) (handle prop) key value
  | mapRemove obj prop key => p.mapRemove (handle obj) (handle prop) key
  | mapPair obj prop index keySize valueSize =>
    p.mapPair (handle obj) (handle prop) (.int index.toInt) keySize.toNat valueSize.toNat
  | setContains obj prop data => p.setContains (handle obj) (handle prop) data
  | setAdd obj prop data => p.setAdd (handle obj) (handle prop) data
  | setRemove obj prop data => p.setRemove (handle obj) (handle prop) data
  | setGet obj prop index size =>
    p.setGet (handle obj) (handle prop) (.int index.toInt) size.toNat
  | allocTemp prop => p.allocTemp (handle prop)
  | freeTemp prop base => p.freeTemp (handle prop) (handle base)
  | bind obj prop id => p.bind (handle obj) (handle prop) id.toNat
  | unbind obj prop => p.unbind (handle obj) (handle prop)
  | addMulticast obj prop id => p.addMulticast (handle obj) (handle prop) id.toNat
  | removeMulticast obj prop id => p.removeMulticast (handle obj) (handle prop) id.toNat

/-- The entry of a table for a call, with the same arguments. -/
def entry (t : Table σ) : PrimitiveCall a → Act σ a.Native
  | isValid obj => t.isValid obj
  | objectName obj => t.objectName obj (.ofNat nameBuffer)
  | makeName name => t.makeName (nameData name)
  | nameText index => t.nameText index (.ofNat nameBuffer)
  | makeWeak obj => t.makeWeak obj
  | resolveWeak index => t.resolveWeak index
  | isWeakValid index => t.isWeakValid index
  | find kind name => t.find kind (nameData name)
  | findIn kind owner name => t.findIn kind owner (nameData name)
  | measure m h => t.measure m h
  | allocParams func => t.allocParams func
  | freeParams func params => t.freeParams func params
  | callFunction obj func params => t.callFunction obj func params
  | getScalar kind obj prop => t.getScalar kind obj prop
  | setScalar kind obj prop v => t.setScalar kind obj prop v
  | getText obj prop size => t.getText obj prop size
  | setText obj prop data => t.setText obj prop data
  | getStruct obj prop size => t.getStruct obj prop size
  | setStruct obj prop data => t.setStruct obj prop data
  | getElement obj prop index size => t.getElement obj prop index size
  | setElement obj prop index data => t.setElement obj prop index data
  | count shape obj prop => t.count shape obj prop
  | clear shape obj prop => t.clear shape obj prop
  | arrayGet obj prop index size => t.arrayGet obj prop index size
  | arraySet obj prop index data => t.arraySet obj prop index data
  | arrayAdd obj prop data => t.arrayAdd obj prop data
  | arrayRemove obj prop index => t.arrayRemove obj prop index
  | arraySetAll obj prop data number => t.arraySetAll obj prop data number
  | mapFind obj prop key size => t.mapFind obj prop key size
  | mapAdd obj prop key value => t.mapAdd obj prop key value
  | mapRemove obj prop key => t.mapRemove obj prop key
  | mapPair obj prop index keySize valueSize => t.mapPair obj prop index keySize valueSize
  | setContains obj prop data => t.setContains obj prop data
  | setAdd obj prop data => t.setAdd obj prop data
  | setRemove obj prop data => t.setRemove obj prop data
  | setGet obj prop index size => t.setGet obj prop index size
  | allocTemp prop => t.allocTemp prop
  | freeTemp prop base => t.freeTemp prop base
  | bind obj prop id => t.bind obj prop id
  | unbind obj prop => t.unbind obj prop
  | addMulticast obj prop id => t.addMulticast obj prop id
  | removeMulticast obj prop id => t.removeMulticast obj prop id

/-- Whether a call asks if the null object is there, which needs no host. -/
def asksForNull : PrimitiveCall a → Bool
  | isValid obj => obj == 0
  | _ => false

section OverTable

variable (t : Table σ)

private theorem pass_handle (a : UInt64) :
    (Primitives.pass (handle a) : Act σ UInt64) = pure a := by
  rw [Primitives.pass, Word.address_handle]
  rfl

private theorem passName_nameValue (name : String) :
    (Primitives.passName (nameValue name) : Act σ Bytes) = pure (nameData name) := by
  rw [Primitives.passName, nameValue, Word.name_ofPlain]
  rfl

private theorem passNumber_int (n : Int) :
    (Primitives.passNumber (.int n) : Act σ Int) = pure n := rfl

/-- Over a table, a call passes its arguments on and reads what the entry left behind. -/
theorem direct_overTable (c : PrimitiveCall a) (h : c.asksForNull = false) :
    c.direct (Primitives.overTable t) = a.read <$> c.entry t := by
  have hnone : Answer.none.read = id := rfl
  cases c
  -- The primitives over a table are unfolded only after the case is known.
  all_goals
    simp only [direct, entry, Primitives.overTable, Primitives.objectsOver,
      Primitives.reflectionOver, Primitives.propertiesOver, Primitives.containersOver,
      Primitives.delegatesOver, pass_handle, passName_nameValue, passNumber_int, pure_bind,
      Word.ofInt_toNat, Word.ofInt_toNat32, UInt32.ofNat_toNat, Int32.ofInt_toInt]
  case isValid obj =>
    have hobj : (handle obj).isTruthy := by
      rw [Word.isTruthy_handle]
      simpa [asksForNull] using h
    rw [if_pos hobj]
    rfl
  case setScalar kind obj prop v =>
    rw [ScalarKind.narrow_of_holds v.2]
    rfl
  case freeParams | freeTemp => rw [hnone, id_map]
  all_goals rfl

/-- The primitives over a table answer for the null object themselves. -/
theorem runOn_isValid_zero (s : σ) :
    ((isValid 0).direct (Primitives.overTable t)).runOn s = (.ok (.bool false), s) := rfl

end OverTable
end PrimitiveCall
end Bindery.Host
