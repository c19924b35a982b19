import Bindery.Proofs.Container.RoundTrip

/-!
# Keys of maps

Whether a key is in a map is asked by looking up its value. A value that is read as null makes its
key look absent, and only null handles are read as null.

* `ElementCodec.isNull_iff_of_decode`: what is read as null.
* `LooksUp`: a host looks up the values of keys in the map of a view; `Engine.looksUp_while`.
* `LooksUp.runOn_hasKey`: the answer, by what is stored.
* `keys_found_unless_null`: when a key is found.
* `null_value_hides_key`: a key that is there and not found.
-/

namespace Bindery

open Host

/-! ## Values that are read as null -/

theorem Value.isNull_iff {v : Value} : v.isNull = true ↔ v = .null := by
  cases v <;> simp [isNull]

theorem Wire.decode_eq_null_iff {w : Wire} {d : Bytes} :
    w.decode d = .null ↔ w = .handle ∧ Bytes.toNat d = 0 := by
  cases w <;> simp [Wire.decode, Value.ofAddress]

namespace EnumClass

variable {c : EnumClass} {raw v : Value}

private theorem ne_null_of_memberOf {n : Int} (h : c.memberOf n = .ok (some v)) : v ≠ .null := by
  unfold memberOf at h
  split at h
  · obtain ⟨m, -, rfl⟩ := Option.map_eq_some_iff.1 (Except.ok.inj h)
    exact Value.noConfusion
  · cases h
    exact Value.noConfusion
  · cases h

/-- Null is no integer. -/
private theorem intOf_null (c : EnumClass) (n : Int) : c.intOf .null ≠ .ok n := by
  have hnone : (c.layout.members c.name).find? (fun v => Value.null.equal (.int v.value)) = none :=
    List.find?_eq_none.2 fun _ _ => Bool.false_ne_true
  unfold intOf
  split
  · exact nofun
  · split
    · rw [hnone]
      exact nofun
    · exact nofun

/-- A class answers members and integers, and only for what stands for an integer. -/
theorem of_fromValue (h : c.fromValue raw = .ok (some v)) : v ≠ .null ∧ raw ≠ .null := by
  unfold fromValue at h
  extract_lets +onlyGivenNames known at h
  dsimp only at h
  have hknown : known = .ok (some v) → v ≠ .null ∧ raw ≠ .null := fun hv => by
    obtain ⟨n, hn, hv⟩ := Outcome.bind_eq_ok_iff.1 hv
    refine ⟨?_, fun hraw => intOf_null c n (hraw ▸ hn)⟩
    dsimp only at hv
    split at hv
    · cases hv
    · split at hv
      · cases hv
        exact Value.noConfusion
      · exact ne_null_of_memberOf hv
  clear_value known
  split at h
  · cases h
  · split at h
    · exact hknown h
    · split at h
      · obtain ⟨found, hfound, h⟩ := Outcome.bind_eq_ok_iff.1 h
        cases hfound
        split at h <;> cases h
      · obtain ⟨found, hfound, h⟩ := Outcome.bind_eq_ok_iff.1 h
        split at h <;> cases h
        exact hknown hfound

end EnumClass

namespace ElementCodec

variable {codec : ElementCodec} {d : Bytes}

/-- Whether elements are stored in slots of handles, the only ones that can be read as null. -/
def isHandle : ElementCodec → Bool
  | slot .handle | enum _ .handle => true
  | _ => false

/-- An element is the null handle. -/
def IsNullHandle (codec : ElementCodec) (d : Bytes) : Prop :=
  codec.isHandle = true ∧ Bytes.toNat (d.take Wire.handle.size) = 0

/-- A slot is read as null just if it is one of handles and its bytes are zero. -/
private theorem unpack_eq_null_iff {w : Wire} {v : Value}
    (hcodec : codec.isHandle = true ↔ w = .handle) (h : w.unpack d = .ok v) :
    v = .null ↔ codec.IsNullHandle d := by
  unfold Wire.unpack at h
  split at h
  · cases h
  · cases h
    rw [Wire.decode_eq_null_iff, IsNullHandle, hcodec]
    exact and_congr_right fun hw => by rw [hw]

/-- Just null handles are read as null. -/
theorem isNull_iff_of_decode {v : Value} (h : codec.decode d = .ok v) :
    v.isNull = true ↔ codec.IsNullHandle d := by
  rw [Value.isNull_iff]
  cases codec with
  | slot w => exact unpack_eq_null_iff (by cases w <;> simp [isHandle]) h
  | enum c w =>
    obtain ⟨raw, hraw, h⟩ := Outcome.bind_eq_ok_iff.1 (show (w.unpack d >>= memberOr c) = _ from h)
    obtain ⟨found, hfound, h⟩ := Outcome.bind_eq_ok_iff.1 (show (c.fromValue raw >>= _) = _ from h)
    have hnull : raw = .null ↔ (enum c w).IsNullHandle d :=
      unpack_eq_null_iff (by cases w <;> simp [isHandle]) hraw
    cases found with
    | some member =>
      cases h
      obtain ⟨hmember, hraw⟩ := EnumClass.of_fromValue hfound
      exact iff_of_false hmember (hnull.not.1 hraw)
    | none =>
      cases h
      exact hnull
  | name =>
    rw [decode] at h
    cases hn : Wire.name.unpack d <;> rw [hn] at h <;> cases h
    simp [IsNullHandle, isHandle]
  | object =>
    rw [decode] at h
    cases hn : Wire.handle.unpack d <;> rw [hn] at h <;> cases h
    simp [IsNullHandle, isHandle, Value.refTo]
  | text | struct =>
    cases h
    simp [IsNullHandle, isHandle]
  | stray _ => cases h

/-- The buffer of a handle holds all of it. -/
theorem isNullHandle_take {size : Nat} (h : codec.bufferSize = .ok size) :
    codec.IsNullHandle (d.take size) ↔ codec.IsNullHandle d := by
  refine and_congr_right fun hhandle => ?_
  have hsize : size = Wire.handle.size := by
    unfold isHandle at hhandle
    split at hhandle
    · exact (Except.ok.inj h).symm
    · exact (Except.ok.inj h).symm
    · cases hhandle
  rw [hsize, List.take_take, Nat.min_self]

end ElementCodec

/-! ## Hosts that look up keys -/

/-- A host looks up the values of keys in the map of a view: `contents` is what it holds in a state,
if it is there. A value is cut to the size that is asked for. For a key that is not there the host
answers a code other than those for success and for an owner that is gone. Looking changes
nothing. -/
structure LooksUp {σ : Type} (view : View σ) (host : Primitives σ)
    (contents : σ → Option Contents) : Prop where
  dispatch {s : σ} {c : Contents} : contents s = some c → view.dispatch.runOn s = (.ok host, s)
  found {s : σ} {pairs : List (Bytes × Bytes)} {k v : Bytes} {size : Nat} :
    contents s = some (.map pairs) → pairs.lookup k = some v →
    (host.mapFind view.owner view.prop k size).runOn s =
      (.ok (.int 0, .bytes (v.take size)), s)
  absent {s : σ} {pairs : List (Bytes × Bytes)} {k : Bytes} {size : Nat} :
    contents s = some (.map pairs) → pairs.lookup k = none →
    ∃ code data, (host.mapFind view.owner view.prop k size).runOn s = (.ok (code, data), s) ∧
      Code.isOk code = false ∧ (code == .int ErrorKind.objectDestroyed.code) = false

namespace LooksUp

variable {σ : Type} {view : View σ} {host : Primitives σ} {contents : σ → Option Contents}
  {s : σ} {pairs : List (Bytes × Bytes)} {keys values : ElementCodec} {key : Value} {k : Bytes}
  {size : Nat} (h : LooksUp view host contents)

include h

/-- The value of a key, or null for a key that is not there. -/
theorem runOn_find (hs : contents s = some (.map pairs)) (hkey : keys.encode key = .ok k)
    (hsize : values.bufferSize = .ok size) :
    (view.find keys values key).runOn s =
      ((pairs.lookup k).elim (.ok .null) fun v => values.decode (v.take size), s) := by
  simp only [View.find, Act.runOn_bind, h.dispatch hs, hkey, hsize, Act.runOn_liftM]
  cases hlookup : pairs.lookup k with
  | none =>
    obtain ⟨code, data, hfind, hcode, hgone⟩ : ∃ code data,
        (host.mapFind view.owner view.prop k size).runOn s = (.ok (code, data), s) ∧
          Code.isOk code = false ∧ (code == .int ErrorKind.objectDestroyed.code) = false :=
      h.absent hs hlookup
    simp [hfind, hcode, hgone]
  | some v =>
    simp only [h.found hs hlookup]
    exact congrArg (·, s) (values.decodeValue_bytes _)

/-- A key is there if its value is read as something other than null. -/
theorem runOn_hasKey (hs : contents s = some (.map pairs)) (hkey : keys.encode key = .ok k)
    (hsize : values.bufferSize = .ok size) :
    (view.hasKey keys values key).runOn s =
      ((pairs.lookup k).elim (.ok false) fun v =>
        (values.decode (v.take size)).map (!·.isNull), s) := by
  rw [View.hasKey, Act.runOn_bind, h.runOn_find hs hkey hsize]
  cases pairs.lookup k with
  | none => rfl
  | some v => cases hv : values.decode (v.take size) <;> simp [hv] <;> rfl

/-- A key that is there is found unless its value is a null handle. -/
theorem found_iff (hs : contents s = some (.map pairs)) (hkey : keys.encode key = .ok k)
    (hsize : values.bufferSize = .ok size) {found : Bool}
    (hfound : ((view.hasKey keys values key).runOn s).1 = .ok found) :
    found = true ↔ ∃ v, pairs.lookup k = some v ∧ ¬ values.IsNullHandle v := by
  rw [h.runOn_hasKey hs hkey hsize] at hfound
  cases hlookup : pairs.lookup k with
  | none =>
    rw [hlookup] at hfound
    cases hfound
    simp
  | some v =>
    rw [hlookup] at hfound
    obtain ⟨value, hvalue, hfound⟩ := Outcome.bind_eq_ok_iff.1
      (show (values.decode (v.take size) >>= fun value => .ok !value.isNull) = _ from hfound)
    obtain rfl := Except.ok.inj hfound
    rw [Bool.not_eq_true', ← Bool.not_eq_true, values.isNull_iff_of_decode hvalue,
      values.isNullHandle_take hsize]
    simp

end LooksUp

/-! ## The engine -/

namespace Engine

variable {items : List Value} {pairs : List (Bytes × Bytes)}

/-- The value of a key is that of its first entry. -/
theorem exists_valueOf (h : List.Forall₂ (fun v p => pairBytes? v = some p) items pairs)
    (k : Bytes) : ∃ found, valueOf k items = .ok found ∧
      Option.Rel (fun value v => value.byteString? = some v) found (pairs.lookup k) := by
  induction h with
  | nil => exact ⟨none, rfl, .none⟩
  | @cons element p _ _ hp _ ih =>
    obtain ⟨key, value, hpair, hkey, hvalue⟩ := pair_of_pairBytes hp
    have hbeq : (key == .bytes k) = (k == p.1) := (beq_bytes hkey k).trans (BEq.comm ..)
    rw [valueOf, hpair, List.lookup_cons]
    simp only [Bind.bind, Except.bind, hbeq]
    cases k == p.1 with
    | true => exact ⟨some value, rfl, .some hvalue⟩
    | false => exact ih

/-- The engine looks up the keys of the maps of an owner while a condition holds. -/
theorem looksUp_while {holds : Engine → Prop} [DecidablePred holds]
    (report : CallRecord → Act Engine Unit) (fire : Location → Value → Act Engine Value)
    (owner prop : Int) (hcondition : Condition owner holds) :
    let host := primitives .whole report fire
    LooksUp { dispatch := pure host, owner := .int owner, prop := .int prop } host
      (contentsWhile holds .map owner prop) where
  dispatch _ := rfl
  found {e pairs k v size} h hlookup := by
    obtain ⟨hholds, hitems, -⟩ := holds_of_contents h
    cases hitems with
    | map hitems =>
      obtain ⟨found, hfound, hrel⟩ := exists_valueOf hitems k
      rw [hlookup] at hrel
      cases hrel with
      | some hvalue =>
        refine (runOn_ask (hcondition.faults hholds) ..).trans ?_
        rw [mapFind, look_of_found (hcondition.finds hholds), hfound]
        simp only [Bind.bind, Except.bind, cut_of_byteString hvalue]
        rfl
  absent {e pairs k size} h hlookup := by
    obtain ⟨hholds, hitems, -⟩ := holds_of_contents h
    cases hitems with
    | map hitems =>
      obtain ⟨found, hfound, hrel⟩ := exists_valueOf hitems k
      rw [hlookup] at hrel
      cases hrel with
      | none =>
        refine ⟨failing .propertyNotFound, .bytes [],
          (runOn_ask (hcondition.faults hholds) ..).trans ?_, rfl, rfl⟩
        rw [mapFind, look_of_found (hcondition.finds hholds), hfound]
        rfl

end Engine

/-! ## When a key is found -/

/-- A key is in the map just if looking it up gives a value. -/
theorem mem_keys_iff {pairs : List (Bytes × Bytes)} {k : Bytes} :
    k ∈ pairs.map (·.1) ↔ ∃ v, pairs.lookup k = some v := by
  rw [← Option.isSome_iff_exists, List.lookup_isSome_iff, List.mem_map]
  exact exists_congr fun p => and_congr_right fun _ => by rw [beq_iff_eq, eq_comm]

/-- Over a host that looks up keys, a key that can be encoded is found exactly if there is an entry
with its encoding whose value is not the null handle. Values are handles only for some codecs; for
all others a key is found exactly if it is there. There is an answer if the stored values are long
enough to be read, and looking changes nothing. A key that cannot be encoded is refused. -/
theorem keys_found_unless_null {σ : Type} {view : View σ} {host : Primitives σ}
    {contents : σ → Option Contents} (h : LooksUp view host contents) {s : σ}
    {pairs : List (Bytes × Bytes)} (hs : contents s = some (.map pairs))
    (keys values : ElementCodec) (key : Value) :
    (∀ e, keys.encode key = .error e →
      (view.hasKey keys values key).runOn s = (.error e, s)) ∧
    ∀ k size, keys.encode key = .ok k → values.bufferSize = .ok size →
      ((view.hasKey keys values key).runOn s).2 = s ∧
      (∀ found, ((view.hasKey keys values key).runOn s).1 = .ok found →
        (found = true ↔ ∃ v, pairs.lookup k = some v ∧ ¬ values.IsNullHandle v)) ∧
      (values.isHandle = false → ∀ found, ((view.hasKey keys values key).runOn s).1 = .ok found →
        (found = true ↔ k ∈ pairs.map (·.1))) ∧
      (values.ReadsBack → (∀ p ∈ pairs, values.leastSize ≤ p.2.length) →
        ∃ found, ((view.hasKey keys values key).runOn s).1 = .ok found) := by
  refine ⟨fun e he => ?_, fun k size hkey hsize => ⟨?_, fun found hfound => ?_, ?_, ?_⟩⟩
  · simp only [View.hasKey, View.find, Act.runOn_bind, h.dispatch hs, he, Act.runOn_liftM]
  · rw [h.runOn_hasKey hs hkey hsize]
  · exact h.found_iff hs hkey hsize hfound
  · intro hvalues found hfound
    have hnot (v : Bytes) : ¬ values.IsNullHandle v := fun hnull =>
      Bool.false_ne_true (hvalues.symm.trans hnull.1)
    rw [h.found_iff hs hkey hsize hfound, mem_keys_iff]
    simp [hnot]
  · intro hreads hlong
    rw [h.runOn_hasKey hs hkey hsize]
    cases hlookup : pairs.lookup k with
    | none => exact ⟨false, rfl⟩
    | some v =>
      -- The host cuts the value to the buffer, which is no shorter than what the codec reads.
      have hv : values.leastSize ≤ (v.take size).length := by
        obtain ⟨before, rest, rfl, -⟩ := List.lookup_eq_some_iff.1 hlookup
        have hstored : values.leastSize ≤ v.length := hlong (k, v) (by simp)
        have hbuffer := ElementCodec.leastSize_le_bufferSize hsize
        rw [List.length_take]
        omega
      obtain ⟨value, hvalue⟩ := hreads.decode_of_length hv
      exact ⟨!value.isNull, by simp [hvalue, Except.map]⟩

/-- A key whose value is the number zero is found. -/
theorem keys_found_zero :
    let e := containerEngine [.list [.bytes [7, 0, 0, 0], .bytes [0]]]
    Engine.contents .map 1 2 e = some (.map [([7, 0, 0, 0], [0])]) ∧
      ((containerView.hasKey (.slot (.int .i32)) (.slot (.int .u8)) (.int 7)).runOn e).1 =
        .ok true := by
  intro e
  have hcontents : Engine.contents .map 1 2 e = some (.map [([7, 0, 0, 0], [0])]) := rfl
  have hlooks : LooksUp containerView containerHost (Engine.contents .map 1 2) :=
    Engine.looksUp_while _ _ 1 2 (Engine.condition_serves 1)
  obtain ⟨-, hkey⟩ := keys_found_unless_null hlooks hcontents (.slot (.int .i32))
    (.slot (.int .u8)) (.int 7)
  obtain ⟨-, -, hfound, hanswer⟩ := hkey [7, 0, 0, 0] 1 rfl rfl
  obtain ⟨found, hrun⟩ := hanswer (.slot _) (by decide)
  obtain rfl : found = true := (hfound rfl found hrun).2 (by decide)
  exact ⟨hcontents, hrun⟩

/-- A key whose value is the null handle is in the map, which lists it with its value, but it is
not found. -/
theorem null_value_hides_key :
    let e := containerEngine [.list [.bytes [7, 0, 0, 0], .bytes [0, 0, 0, 0, 0, 0, 0, 0]]]
    let keys : ElementCodec := .slot (.int .i32)
    Engine.contents .map 1 2 e = some (.map [([7, 0, 0, 0], [0, 0, 0, 0, 0, 0, 0, 0])]) ∧
      keys.encode (.int 7) = .ok [7, 0, 0, 0] ∧
      ((containerView.pairList keys (.slot .handle)).runOn e).1 = .ok [(.int 7, .null)] ∧
      ((containerView.hasKey keys (.slot .handle) (.int 7)).runOn e).1 = .ok false := by
  exact ⟨rfl, rfl, rfl, rfl⟩

end Bindery
