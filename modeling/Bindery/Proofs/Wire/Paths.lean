import Bindery.Mapping
import Bindery.Proofs.Wire.Wrap
import Bindery.Wire.Pack

/-!
# The two paths to the host

A value reaches the host directly, in the bytes of its slot, or through the sandbox, in the value
that carries the slot there.

* `Bytes.ofNat_toNat`, `IntType.decode_encode`, `IntType.encode_decode`: bytes and integers
  determine each other.
* `Wire.direct`, `Wire.sandboxed`: what arrives on each path.
* `Wire.pack_sandboxed`: a value that a slot holds has the same bytes on both paths.
* `Wire.paths_deliver_alike`: what arrives is the same, and is what the slot's range says.
-/

namespace Bindery

/-! ## Bytes and numbers -/

namespace Bytes

theorem toNat_lt (bytes : Bytes) : toNat bytes < Nat.pow 256 bytes.length := by
  induction bytes with
  | nil => decide
  | cons b rest ih =>
    have := b.toNat_lt
    have hpow : Nat.pow 256 (rest.length + 1) = Nat.pow 256 rest.length * 256 := rfl
    rw [toNat, List.length_cons, hpow]
    omega

/-- Bytes are the digits of the number they denote. -/
theorem ofNat_toNat (bytes : Bytes) : ofNat bytes.length (toNat bytes) = bytes := by
  induction bytes with
  | nil => rfl
  | cons b rest ih =>
    have hb := b.toNat_lt
    have hrest : (b.toNat + 256 * toNat rest) / 256 = toNat rest := by omega
    have hlow : (b.toNat + 256 * toNat rest) % 256 = b.toNat := by omega
    rw [List.length_cons, toNat, ofNat, hrest, ih, hlow, UInt8.ofNat_toNat]

end Bytes

namespace IntType

variable (t : IntType)

private theorem modulus_eq_bytes : t.modulus = (Nat.pow 256 t.width.bytes : Nat) := by
  rw [modulus, bits]
  exact congrArg Int.ofNat (Nat.pow_mul 2 8 t.width.bytes)

private theorem emod_modulus_nonneg (v : Int) : 0 ≤ v % t.modulus :=
  Int.emod_nonneg v (by have := t.modulus_eq; have := t.half_pos; omega)

private theorem encode_eq (v : Int) :
    t.encode v = Bytes.ofNat t.width.bytes (v % t.modulus).toNat := by
  rw [encode, natCast_pow_bits]

@[simp] theorem length_encode (v : Int) : (t.encode v).length = t.width.bytes := by
  rw [encode_eq, Bytes.length_ofNat]

/-- The bytes of an integer denote it up to the modulus. -/
theorem toNat_encode (v : Int) : (Bytes.toNat (t.encode v) : Int) = v % t.modulus := by
  have hpos : 0 < t.modulus := by have := t.modulus_eq; have := t.half_pos; omega
  have h := Int.emod_lt_of_pos v hpos
  rw [encode_eq, Bytes.toNat_ofNat]
  rw [modulus_eq_bytes] at h ⊢
  have hn := t.modulus_eq_bytes ▸ t.emod_modulus_nonneg v
  rw [Nat.mod_eq_of_lt (by omega), Int.toNat_of_nonneg hn]

/-- What is read back is the integer, wrapped. -/
theorem decode_encode (v : Int) : t.decode (t.encode v) = t.wrap v := by
  rw [decode, toNat_encode, wrap_eq_wrap_iff, Int.emod_emod]

theorem encode_wrap (v : Int) : t.encode (t.wrap v) = t.encode v := by
  rw [encode_eq, encode_eq, wrap_emod]

theorem encode_toNat {t : IntType} {bytes : Bytes} (h : bytes.length = t.width.bytes) :
    t.encode (Bytes.toNat bytes) = bytes := by
  have hlt := Bytes.toNat_lt bytes
  rw [encode_eq, modulus_eq_bytes, ← h, Int.emod_eq_of_lt (by omega) (by exact_mod_cast hlt),
    Int.toNat_natCast, Bytes.ofNat_toNat]

/-- Bytes that are read as an integer are its bytes. -/
theorem encode_decode {t : IntType} {bytes : Bytes} (h : bytes.length = t.width.bytes) :
    t.encode (t.decode bytes) = bytes := by
  rw [decode, encode_wrap, encode_toNat h]

/-- The bytes of an integer that is not negative are the integer. -/
theorem toNat_encode_of_holds {v : Int} (h : u64.Holds v) :
    (Bytes.toNat (u64.encode v) : Int) = v := by
  rw [toNat_encode]
  exact Int.emod_eq_of_lt h.1 h.2

end IntType

/-! ## The two paths -/

/-- Whether a sandbox value type carries an integer, as a signed one. -/
def SandboxType.Carries : SandboxType → Int → Prop
  | i32, v => IntType.i32.Holds v
  | i64, v => IntType.i64.Holds v
  | f32, _ => False
  | f64, _ => False

namespace Wire

/-- What arrives of a value in the bytes of its slot. -/
def direct (w : Wire) (v : Value) : Except Fault Value := w.pack v >>= w.unpack

/-- What arrives of a value through the sandbox. -/
def sandboxed (w : Wire) (v : Value) : Except Fault Value := w.toSandbox v >>= w.fromSandbox

/-- The slots of whole numbers: integers, handles and names. -/
def IsWhole : Wire → Prop
  | int _ | handle | name => True
  | bool | f32 | f64 => False

private theorem bits_le_carrier (t : IntType) : t.bits ≤ (carrier t).bits := by
  unfold carrier IntType.bits
  cases t.width <;> decide

private theorem carries_wrap_carrier (t : IntType) (v : Int) :
    (int t).sandbox.Carries ((carrier t).wrap v) := by
  change (if t.width = .eight then SandboxType.i64 else .i32).Carries _
  unfold carrier
  split
  · exact IntType.i64.wrap_holds v
  · exact IntType.i32.wrap_holds v

private theorem toSandbox_int (t : IntType) (v : Int) :
    (int t).toSandbox (.int v) = .ok (.int ((carrier t).wrap v)) := rfl

private theorem fromSandbox_int (t : IntType) (v : Int) :
    (int t).fromSandbox (.int v) = .ok (.int (t.wrap v)) := rfl

/-- Whatever carries an integer is at least as wide as its slot. -/
theorem sandboxed_int (t : IntType) (v : Int) :
    (int t).sandboxed (.int v) = .ok (.int (t.wrap v)) := by
  change fromSandbox (int t) (.int ((carrier t).wrap v)) = _
  rw [fromSandbox_int, IntType.wrap_wrap (bits_le_carrier t)]

/-- Bytes as long as the slot hold the value that they denote. -/
theorem unpack_of_length {w : Wire} {data : Bytes} (h : data.length = w.size) :
    w.unpack data = .ok (w.decode data) := by
  rw [unpack, if_neg (by omega), List.take_of_length_le (by omega)]

theorem direct_int (t : IntType) (v : Int) : (int t).direct (.int v) = .ok (.int (t.wrap v)) := by
  change unpack (int t) (t.encode v) = _
  rw [unpack_of_length (t.length_encode v), decode, IntType.decode_encode]

/-! ## Handles and names -/

/-- The slots of addresses and indices. -/
def IsAddress : Wire → Prop
  | handle | name => True
  | bool | int _ | f32 | f64 => False

/-- Whether a value stands for an address or index. What counts as false stands for zero. -/
def Addresses (v : Value) (n : Int) : Prop :=
  (orZero v).index? = some n ∧ IntType.u64.Holds n

theorem addresses_null : Addresses .null 0 := ⟨rfl, by decide⟩

theorem addresses_int {n : Int} (h : IntType.u64.Holds n) : Addresses (.int n) n := by
  refine ⟨?_, h⟩
  by_cases h0 : n = 0
  · subst h0; rfl
  · simp [orZero, Value.isTruthy, h0, Value.index?]

theorem addresses_ofAddress {n : Nat} (h : IntType.u64.Holds n) : Addresses (.ofAddress n) n := by
  unfold Value.ofAddress
  split
  · rename_i h0
    subst h0
    exact addresses_null
  · exact addresses_int h

/-- Just those values can be packed as an address that stand for one. -/
theorem packAddress_eq_ok_iff {v : Value} {bytes : Bytes} :
    packAddress v = .ok bytes ↔ ∃ n, Addresses v n ∧ bytes = IntType.u64.encode n := by
  unfold packAddress Addresses
  cases (orZero v).index? with
  | none => simp
  | some n =>
    simp only
    by_cases hn : IntType.u64.wrap n = n
    · have hholds : IntType.u64.Holds n := hn ▸ IntType.wrap_holds _ n
      rw [if_pos hn]
      constructor
      · rintro ⟨⟩
        exact ⟨n, ⟨rfl, hholds⟩, rfl⟩
      · rintro ⟨m, ⟨hm, -⟩, rfl⟩
        cases hm
        rfl
    · have hholds : ¬ IntType.u64.Holds n := fun h => hn (IntType.wrap_of_holds h)
      rw [if_neg hn]
      constructor
      · nofun
      · rintro ⟨m, ⟨hm, hm'⟩, -⟩
        cases hm
        exact absurd hm' hholds

private theorem pack_address {w : Wire} (hw : w.IsAddress) (v : Value) :
    w.pack v = packAddress v := by
  cases w <;> first | rfl | exact hw.elim

private theorem size_address {w : Wire} (hw : w.IsAddress) : w.size = 8 := by
  cases w <;> first | rfl | exact hw.elim

/-- An address arrives as what its eight bytes denote. -/
theorem direct_address {w : Wire} (hw : w.IsAddress) {v : Value} {n : Int} (h : Addresses v n) :
    w.direct v = .ok (w.decode (IntType.u64.encode n)) := by
  have hpack : w.pack v = .ok (IntType.u64.encode n) := by
    rw [pack_address hw, packAddress_eq_ok_iff]
    exact ⟨n, h, rfl⟩
  change (w.pack v >>= w.unpack) = _
  rw [hpack]
  exact unpack_of_length (by rw [IntType.length_encode, size_address hw]; rfl)

/-- The signed integer that carries an address through the sandbox comes back as the address. -/
theorem sandboxed_address {w : Wire} (hw : w.IsAddress) {v : Value} {n : Int}
    (h : Addresses v n) : w.sandboxed v = .ok (w.decode (IntType.u64.encode n)) := by
  -- The sandbox only has signed integers, so large addresses are negative on the way.
  obtain ⟨hv, hn⟩ := h
  have hto : w.toSandbox v = .ok (.int (IntType.i64.wrap n)) := by
    have hindex : (orZero v).index = .ok n := by rw [Value.index, hv]
    cases w <;> first | exact hw.elim | (unfold toSandbox wrapValue; rw [hindex]; rfl)
  have hback : IntType.u64.wrap (IntType.i64.wrap n) = Bytes.toNat (IntType.u64.encode n) := by
    rw [IntType.wrap_wrap (t := IntType.u64) (u := IntType.i64) (Nat.le_refl _),
      IntType.wrap_of_holds hn, IntType.toNat_encode_of_holds hn]
  change (w.toSandbox v >>= w.fromSandbox) = _
  rw [hto]
  cases w with
  | handle =>
    change Except.ok (Value.ofAddress (IntType.u64.wrap (IntType.i64.wrap n)).toNat) = _
    rw [hback]
    rfl
  | name =>
    change Except.ok (Value.int (IntType.u64.wrap (IntType.i64.wrap n))) = _
    rw [hback]
    rfl
  | _ => exact hw.elim

/-- Bytes are what they denote, packed. -/
theorem pack_decode {w : Wire} (hw : w.IsWhole) {data : Bytes} (h : data.length = w.size) :
    w.pack (w.decode data) = .ok data := by
  cases w with
  | int t =>
    change Except.ok (t.encode (t.decode data)) = _
    rw [IntType.encode_decode h]
  | handle | name =>
    have hholds : IntType.u64.Holds (Bytes.toNat data) := by
      have hlt := Bytes.toNat_lt data
      rw [h] at hlt
      exact ⟨by omega, by rw [IntType.modulus_eq_bytes]; exact_mod_cast hlt⟩
    refine packAddress_eq_ok_iff.2 ⟨Bytes.toNat data, ?_, (IntType.encode_toNat h).symm⟩
    first | exact addresses_ofAddress hholds | exact addresses_int hholds
  | _ => exact hw.elim

/-! ## What arrives -/

private theorem bind_pack {w : Wire} {v x : Value} (h : w.sandboxed v = .ok x) :
    (w.sandboxed v >>= w.pack) = w.pack x := by
  rw [h]
  rfl

/-- A value that a slot holds has the same bytes on both paths. -/
theorem pack_sandboxed {w : Wire} {v : Value} {bytes : Bytes} (h : w.pack v = .ok bytes) :
    (w.sandboxed v >>= w.pack) = .ok bytes := by
  -- Only integers can be packed that do not fit, and they are cut to the same bytes on both paths.
  cases w with
  | bool =>
    rw [← h, sandboxed, toSandbox]
    cases hv : v.isTruthy <;> simp [pack, hv] <;> rfl
  | int t =>
    change (t.encode <$> v.toInt) = _ at h
    cases hv : v.toInt with
    | error e => rw [hv] at h; cases h
    | ok n =>
      rw [hv] at h
      have hto : (int t).sandboxed v = .ok (.int (t.wrap n)) := by
        rw [← sandboxed_int]
        unfold sandboxed toSandbox
        rw [hv]
        rfl
      rw [bind_pack hto, ← h]
      change Except.ok (t.encode (t.wrap n)) = Except.ok (t.encode n)
      rw [IntType.encode_wrap]
  | f32 => exact h
  | f64 => exact h
  | handle =>
    obtain ⟨n, hn, rfl⟩ := packAddress_eq_ok_iff.1 h
    rw [bind_pack (sandboxed_address (w := handle) trivial hn)]
    exact pack_decode (w := handle) trivial (IntType.length_encode _ n)
  | name =>
    obtain ⟨n, hn, rfl⟩ := packAddress_eq_ok_iff.1 h
    rw [bind_pack (sandboxed_address (w := name) trivial hn)]
    exact pack_decode (w := name) trivial (IntType.length_encode _ n)

/-- The address that a slot of addresses delivers. The null handle has none. -/
theorem decode_address {n : Int} (h : IntType.u64.Holds n) :
    handle.decode (IntType.u64.encode n) = (if n = 0 then .null else .int n) ∧
      name.decode (IntType.u64.encode n) = .int n := by
  have hn := IntType.toNat_encode_of_holds h
  constructor
  · change Value.ofAddress (Bytes.toNat (IntType.u64.encode n)) = _
    unfold Value.ofAddress
    split <;> split <;> first | rfl | omega | (rw [hn])
  · change Value.int (Bytes.toNat (IntType.u64.encode n)) = _
    rw [hn]

/-- The declared type of a row reads back what was declared from the wider slot. -/
theorem declared_le_slot {kind : PropertyKind} {row : IntRow} (h : kind.intRow? = some row) :
    row.declared.bits ≤ row.slot.bits := by
  unfold PropertyKind.intRow? at h
  split at h <;> cases h <;> decide

/-- The two paths deliver the same. -/
theorem paths_deliver_alike :
    (∀ w v bytes, pack w v = .ok bytes → (w.sandboxed v >>= w.pack) = .ok bytes) ∧
    (∀ (t : IntType) (v : Int),
      (∃ s, (int t).toSandbox (.int v) = .ok (.int s) ∧ (int t).sandbox.Carries s ∧
        (int t).fromSandbox (.int s) = .ok (.int (t.wrap v))) ∧
      (int t).direct (.int v) = .ok (.int (t.wrap v)) ∧
      ∀ r, r = t.wrap v ↔ t.Holds r ∧ r % t.modulus = v % t.modulus) ∧
    (∀ n, 0 ≤ n → n < IntType.u64.modulus → ∀ v, v = .int n ∨ (n = 0 ∧ v = .null) →
      (let arrived := if n = 0 then Value.null else .int n
       handle.sandboxed v = .ok arrived ∧ handle.direct v = .ok arrived) ∧
      name.sandboxed v = .ok (.int n) ∧ name.direct v = .ok (.int n)) ∧
    (∀ w, IsWhole w → ∀ data, data.length = w.size →
      ∃ v, w.unpack data = .ok v ∧ w.pack v = .ok data) ∧
    ∀ kind row, PropertyKind.intRow? kind = some row → ∀ v, ∃ r,
      (int row.slot).sandboxed (.int (row.slot.wrap v)) = .ok (.int r) ∧
        row.declared.wrap r = row.declared.wrap v := by
  refine ⟨fun w v bytes => pack_sandboxed, fun t v => ⟨?_, direct_int t v, fun r => ?_⟩,
    fun n h0 hn v hv => ?_, fun w hw data hdata => ?_, fun kind row hrow v => ?_⟩
  · exact ⟨_, toSandbox_int t v, carries_wrap_carrier t v, sandboxed_int t v⟩
  · constructor
    · rintro rfl
      exact ⟨t.wrap_holds v, t.wrap_emod v⟩
    · rintro ⟨hr, hc⟩
      exact IntType.eq_wrap hr hc
  · have hholds : IntType.u64.Holds n := ⟨h0, hn⟩
    have haddr : Addresses v n := by
      rcases hv with rfl | ⟨rfl, rfl⟩
      · exact addresses_int hholds
      · exact addresses_null
    obtain ⟨hhandle, hname⟩ := decode_address hholds
    rw [← hhandle, ← hname]
    have harrives {w : Wire} (hw : w.IsAddress) :
        w.sandboxed v = .ok (w.decode (IntType.u64.encode n)) ∧
          w.direct v = .ok (w.decode (IntType.u64.encode n)) :=
      ⟨sandboxed_address hw haddr, direct_address hw haddr⟩
    exact ⟨harrives (w := handle) trivial, harrives (w := name) trivial⟩
  · exact ⟨_, unpack_of_length hdata, pack_decode hw hdata⟩
  · refine ⟨_, sandboxed_int _ _, ?_⟩
    rw [IntType.wrap_wrap (Nat.le_refl _), IntType.wrap_wrap (declared_le_slot hrow)]

end Wire
end Bindery
