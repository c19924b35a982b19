import Bindery.Proofs.Container.RoundTrip

/-!
# Indices of arrays

An array is read by indices that may count from its end and written by indices that may not: the
view turns a negative index around before it reads, but hands it on as it is when it writes.

* `Indexes`: a host takes the indices of the elements of an array and refuses all others;
  `Engine.indexes_while`.
* `Indexes.runOn_arrayGet`, `Indexes.runOn_arrayItem`: what is read at an index.
* `Indexes.runOn_arraySet`, `Indexes.runOn_arraySet_outside`: what is written at an index.
* `indices_of_arrays`: all of it together.
* `negative_index_not_written`: an index that can be read and not written.
-/

namespace Bindery

open Host

/-! ## Hosts that check indices -/

/-- A host takes the indices of the elements of an array. At any other it answers that the index is
out of range, and leaves everything as it is. -/
structure Indexes {σ : Type} (view : View σ) (host : Primitives σ)
    (contents : σ → Option Contents) : Prop extends Stores view host contents where
  arrayGet_outside {s : σ} {items : List Bytes} {i : Int} {size : Nat} :
    contents s = some (.array items) → ¬ (0 ≤ i ∧ i < items.length) →
    ∃ data, (host.arrayGet view.owner view.prop (.int i) size).runOn s =
      (.ok (.int ErrorKind.indexOutOfRange.code, data), s)
  arraySet {s : σ} {items : List Bytes} {i : Nat} {d : Bytes} :
    contents s = some (.array items) → i < items.length →
    ∃ t, (host.arraySet view.owner view.prop (.int i) d).runOn s = (.ok (.int 0), t) ∧
      contents t = some (.array (items.set i d))
  arraySet_outside {s : σ} {items : List Bytes} {i : Int} {d : Bytes} :
    contents s = some (.array items) → ¬ (0 ≤ i ∧ i < items.length) →
    (host.arraySet view.owner view.prop (.int i) d).runOn s =
      (.ok (.int ErrorKind.indexOutOfRange.code), s)

namespace Engine

variable {e : Engine} {owner prop : Int}

/-- Writing an element replaces the byte string in its place. -/
private theorem forall₂_set {items : List Value} {ds : List Bytes}
    (h : List.Forall₂ (fun v d => v.byteString? = some d) items ds) (i : Nat) (d : Bytes) :
    List.Forall₂ (fun v d => v.byteString? = some d) (items.set i (.bytes d)) (ds.set i d) := by
  induction h generalizing i with
  | nil => exact .nil
  | cons hv hrest ih =>
    cases i with
    | zero => exact .cons rfl hrest
    | succ i => exact .cons hv (ih i)

private theorem placeIn_outside {i : Int} {n : Nat} (hi : ¬ (0 ≤ i ∧ i < n)) :
    (Value.int i).placeIn n = .ok none := by
  rw [Value.placeIn_int, if_neg hi]

private theorem elementAt_outside (h : e.Finds owner) {i : Int}
    (hi : ¬ (0 ≤ i ∧ i < (e.items (.int owner, .int prop)).length)) (size : Nat) :
    elementAt (.int owner, .int prop) (.int i) size e =
      .ok (failing .indexOutOfRange, .bytes []) := by
  rw [elementAt, atKey_int, look_of_found h]
  simp only [placeIn_outside hi, Bind.bind, Except.bind, pure, Except.pure]

private theorem arraySet_inside (h : e.Finds owner) {i : Nat}
    (hi : i < (e.items (.int owner, .int prop)).length) (d : Bytes) :
    arraySet (.int owner, .int prop) (.int i) d e =
      .ok (ok, e.withItems (.int owner, .int prop)
        ((e.items (.int owner, .int prop)).set i (.bytes d))) := by
  rw [arraySet, atKey_int]
  refine alter_of_found h ?_
  simp only [(placeIn_of_getElem? (List.getElem?_eq_getElem hi)).1, Bind.bind, Except.bind, pure,
    Except.pure]

private theorem arraySet_outside (h : e.Finds owner) {i : Int}
    (hi : ¬ (0 ≤ i ∧ i < (e.items (.int owner, .int prop)).length)) (d : Bytes) :
    arraySet (.int owner, .int prop) (.int i) d e = .ok (failing .indexOutOfRange, e) := by
  rw [arraySet, atKey_int]
  refine alter_none_of_found h ?_
  simp only [placeIn_outside hi, Bind.bind, Except.bind, pure, Except.pure]

/-- The engine checks the indices of an owner's arrays while a condition holds. -/
theorem indexes_while {holds : Engine → Prop} [DecidablePred holds]
    (report : CallRecord → Act Engine Unit) (fire : Location → Value → Act Engine Value)
    (owner prop : Int) (hcondition : Condition owner holds) :
    let host := primitives .whole report fire
    Indexes { dispatch := pure host, owner := .int owner, prop := .int prop } host
      (contentsWhile holds .array owner prop) where
  toStores := stores_while report fire .array owner prop hcondition
  arrayGet_outside {e items i size} h hi := by
    obtain ⟨hholds, hitems, -⟩ := holds_of_contents h
    replace hi : ¬ (0 ≤ i ∧ i < (e.items (.int owner, .int prop)).length) := by
      rwa [hitems.length]
    exact ⟨.bytes [], (runOn_ask (hcondition.faults hholds) ..).trans
      (by rw [elementAt_outside (hcondition.finds hholds) hi]; rfl)⟩
  arraySet {e items i d} h hi := by
    obtain ⟨hholds, hitems, -⟩ := holds_of_contents h
    cases hitems with
    | array hitems =>
      have hset : Holds ((e.items (.int owner, .int prop)).set i (.bytes d))
          (.array (items.set i d)) := .array (forall₂_set hitems i d)
      exact ⟨_, runOn_tell (hcondition.faults hholds)
        (arraySet_inside (hcondition.finds hholds) (hitems.length_eq ▸ hi) d),
        contentsWhile_withItems hcondition hholds hset⟩
  arraySet_outside {e items i d} h hi := by
    obtain ⟨hholds, hitems, -⟩ := holds_of_contents h
    replace hi : ¬ (0 ≤ i ∧ i < (e.items (.int owner, .int prop)).length) := by
      rwa [hitems.length]
    exact runOn_tell (hcondition.faults hholds)
      (arraySet_outside (hcondition.finds hholds) hi d)

end Engine

/-! ## Reading and writing at an index -/

/-- The element at an index that does not count from the end. -/
def ElementCodec.decodeAt (codec : ElementCodec) (items : List Bytes) (i : Int) :
    Except Fault Value :=
  if 0 ≤ i then items[i.toNat]?.elim (.error (.ofKind .indexOutOfRange)) codec.decode
  else .error (.ofKind .indexOutOfRange)

theorem ElementCodec.decodeAt_of_getElem? {codec : ElementCodec} {items : List Bytes} {i : Nat}
    {d : Bytes} (hd : items[i]? = some d) : codec.decodeAt items i = codec.decode d := by
  rw [decodeAt, if_pos (by omega), Int.toNat_natCast, hd]
  rfl

theorem ElementCodec.decodeAt_outside {codec : ElementCodec} {items : List Bytes} {i : Int}
    (hi : ¬ (0 ≤ i ∧ i < items.length)) :
    codec.decodeAt items i = .error (.ofKind .indexOutOfRange) := by
  unfold decodeAt
  split
  · rw [List.getElem?_eq_none (by omega)]
    rfl
  · rfl

namespace Indexes

variable {σ : Type} {view : View σ} {host : Primitives σ} {contents : σ → Option Contents}
  {s : σ} {items : List Bytes} {codec : ElementCodec} {size : Nat}
  (h : Indexes view host contents) (hs : contents s = some (.array items))

include h hs

/-- Without turning it around, a negative index is out of range. -/
theorem runOn_arrayGet (hsize : codec.bufferSize = .ok size) (hfits : ∀ d ∈ items, d.length ≤ size)
    (i : Int) : (view.arrayGet codec (.int i)).runOn s = (codec.decodeAt items i, s) := by
  simp only [View.arrayGet, Act.runOn_bind, h.dispatch hs, hsize, Act.runOn_liftM]
  by_cases hi : 0 ≤ i ∧ i < items.length
  · obtain ⟨k, rfl⟩ := Int.eq_ofNat_of_zero_le hi.1
    have hd := List.getElem?_eq_getElem (l := items) (i := k) (by omega)
    rw [h.arrayGet hs hd, ElementCodec.decodeAt_of_getElem? hd]
    simp only [List.take_of_length_le (hfits _ (List.getElem_mem _)), View.runOn_decoded]
  · obtain ⟨data, hget⟩ : ∃ data, (host.arrayGet view.owner view.prop (.int i) size).runOn s = _ :=
      h.arrayGet_outside hs hi
    rw [hget, ElementCodec.decodeAt_outside hi]
    rfl

/-- A negative index is read as one that counts from the end. -/
theorem runOn_arrayItem (hmax : items.length ≤ View.maxLength)
    (hsize : codec.bufferSize = .ok size) (hfits : ∀ d ∈ items, d.length ≤ size) (i : Int) :
    (view.arrayItem codec (.int i)).runOn s =
      (codec.decodeAt items (if i < 0 then i + items.length else i), s) := by
  have hlength : (view.size .array).runOn s = (.ok items.length, s) :=
    View.runOn_size (h.runOn_length hs) hmax
  by_cases hi : i < 0
  · simp only [View.arrayItem, Act.runOn_bind, Act.runOn_liftM, Value.isNegative, Value.less_int,
      decide_eq_true hi, if_true, hlength, Value.plus_int, if_pos hi]
    -- An index may be too far from the end, and is negative still.
    by_cases hstart : i + items.length < 0
    · rw [decide_eq_true hstart, ElementCodec.decodeAt_outside (by omega)]
      rfl
    · rw [decide_eq_false hstart]
      exact h.runOn_arrayGet hs hsize hfits _
  · simp only [View.arrayItem, Act.runOn_bind, Act.runOn_liftM, Value.isNegative, Value.less_int,
      decide_eq_false hi, if_neg hi]
    exact h.runOn_arrayGet hs hsize hfits i

/-- An index in range is written, and no other element changes. -/
theorem runOn_arraySet {i : Nat} (hi : i < items.length) {v : Value} {d : Bytes}
    (hv : codec.encode v = .ok d) :
    ∃ t, (view.arraySet codec (.int i) v).runOn s = (.ok (), t) ∧
      contents t = some (.array (items.set i d)) := by
  obtain ⟨t, hset, ht⟩ := h.arraySet (d := d) hs hi
  refine ⟨t, ?_, ht⟩
  simp only [View.arraySet, View.perform, Act.runOn_bind, h.dispatch hs, hv, Act.runOn_liftM, hset,
    View.runOn_accept]

/-- A negative index is handed on as it is, and the host refuses it. -/
theorem runOn_arraySet_outside {i : Int} (hi : ¬ (0 ≤ i ∧ i < items.length)) {v : Value} {d : Bytes}
    (hv : codec.encode v = .ok d) :
    (view.arraySet codec (.int i) v).runOn s = (.error (.ofKind .indexOutOfRange), s) := by
  simp only [View.arraySet, View.perform, Act.runOn_bind, h.dispatch hs, hv, Act.runOn_liftM,
    h.arraySet_outside hs hi]
  rfl

theorem runOn_arraySet_error (i : Int) {v : Value} {e : Fault} (hv : codec.encode v = .error e) :
    (view.arraySet codec (.int i) v).runOn s = (.error e, s) := by
  simp only [View.arraySet, View.perform, Act.runOn_bind, h.dispatch hs, hv, Act.runOn_liftM]

end Indexes

/-- An index of an array modulo the number of its elements. -/
theorem emod_of_index {i : Int} {n : Nat} (hi : -n ≤ i ∧ i < n) :
    i % n = if i < 0 then i + n else i := by
  split
  · rw [← Int.add_emod_right, Int.emod_eq_of_lt (by omega) (by omega)]
  · exact Int.emod_eq_of_lt (by omega) hi.2

/-- An array of `n` elements that fit into the buffer of a codec is read at every index from `-n` up
to `n`, where it gives the element at the index modulo `n`, and it is written at every index from 0
up to `n`, where it replaces that element alone: reading the index then gives what was encoded, also
when it counts from the end. Every other index is out of range and changes nothing. Unlike in
reading, that holds of negative indices in writing. -/
theorem indices_of_arrays {σ : Type} {view : View σ} {host : Primitives σ}
    {contents : σ → Option Contents} (h : Indexes view host contents) {s : σ} {items : List Bytes}
    (hs : contents s = some (.array items)) (hmax : items.length ≤ View.maxLength)
    {codec : ElementCodec} {size : Nat} (hsize : codec.bufferSize = .ok size)
    (hfits : ∀ d ∈ items, d.length ≤ size) (i : Int) :
    (-items.length ≤ i ∧ i < items.length → ∃ d, items[(i % items.length).toNat]? = some d ∧
      (view.arrayItem codec (.int i)).runOn s = (codec.decode d, s)) ∧
    (¬ (-items.length ≤ i ∧ i < items.length) →
      (view.arrayItem codec (.int i)).runOn s = (.error (.ofKind .indexOutOfRange), s)) ∧
    (∀ v d, codec.encode v = .ok d → 0 ≤ i ∧ i < items.length →
      ∃ t, (view.arraySet codec (.int i) v).runOn s = (.ok (), t) ∧
        contents t = some (.array (items.set i.toNat d)) ∧
        (d.length ≤ size → ∀ j ∈ [i, i - items.length],
          (view.arrayItem codec (.int j)).runOn t = (codec.decode d, t))) ∧
    (∀ v d, codec.encode v = .ok d → ¬ (0 ≤ i ∧ i < items.length) →
      (view.arraySet codec (.int i) v).runOn s = (.error (.ofKind .indexOutOfRange), s)) ∧
    ∀ v e, codec.encode v = .error e →
      (view.arraySet codec (.int i) v).runOn s = (.error e, s) := by
  refine ⟨fun hi => ?_, fun hi => ?_, fun v d hv hi => ?_,
    fun v d hv hi => h.runOn_arraySet_outside hs hi hv,
    fun v e hv => h.runOn_arraySet_error hs i hv⟩
  · have hstart := emod_of_index hi
    obtain ⟨k, hk⟩ := Int.eq_ofNat_of_zero_le (Int.emod_nonneg i (b := items.length) (by omega))
    have hlt := Int.emod_lt_of_pos i (b := items.length) (by omega)
    have hd := List.getElem?_eq_getElem (l := items) (i := k) (by omega)
    refine ⟨items[k], by rw [hk, Int.toNat_natCast, hd], ?_⟩
    rw [h.runOn_arrayItem hs hmax hsize hfits, ← hstart, hk, ElementCodec.decodeAt_of_getElem? hd]
  · rw [h.runOn_arrayItem hs hmax hsize hfits, ElementCodec.decodeAt_outside (by split <;> omega)]
  · obtain ⟨k, rfl⟩ := Int.eq_ofNat_of_zero_le hi.1
    have hk : k < items.length := by omega
    obtain ⟨t, hset, ht⟩ := h.runOn_arraySet hs hk hv
    refine ⟨t, hset, ht, fun hd j hj => ?_⟩
    have hlength : (items.set k d).length = items.length := List.length_set
    have hnew : ∀ d' ∈ items.set k d, d'.length ≤ size := fun d' hd' => by
      rcases List.mem_or_eq_of_mem_set hd' with hd' | rfl
      · exact hfits _ hd'
      · exact hd
    have hstart : (if j < 0 then j + (items.set k d).length else j) = k := by
      rcases List.mem_pair.1 hj with rfl | rfl <;> split <;> omega
    have hget : (items.set k d)[k]? = some d := List.getElem?_set_self hk
    rw [h.runOn_arrayItem ht (by omega) hsize hnew, hstart, ElementCodec.decodeAt_of_getElem? hget]

/-- An engine with an object that has an array of two numbers. -/
def twoNumbers : Engine := containerEngine [.bytes [10, 0, 0, 0], .bytes [20, 0, 0, 0]]

private theorem contents_twoNumbers :
    Engine.contents .array 1 2 twoNumbers = some (.array [[10, 0, 0, 0], [20, 0, 0, 0]]) := rfl

private theorem indexes_containerView :
    Indexes containerView containerHost (Engine.contents .array 1 2) :=
  Engine.indexes_while _ _ 1 2 (Engine.condition_serves 1)

/-- The last of two numbers is written at its place, and then read from the end. -/
theorem indices_of_arrays_last :
    ∃ t, (containerView.arraySet (.slot (.int .i32)) (.int 1) (.int 30)).runOn twoNumbers =
        (.ok (), t) ∧
      Engine.contents .array 1 2 t = some (.array [[10, 0, 0, 0], [30, 0, 0, 0]]) ∧
      (containerView.arrayItem (.slot (.int .i32)) (.int (-1))).runOn t = (.ok (.int 30), t) := by
  have hsize : (ElementCodec.slot (.int .i32)).bufferSize = .ok 4 := rfl
  obtain ⟨-, -, hset, -⟩ :=
    indices_of_arrays indexes_containerView contents_twoNumbers (by decide) hsize (by decide) 1
  obtain ⟨t, hset, ht, hread⟩ := hset (.int 30) [30, 0, 0, 0] rfl (by decide)
  exact ⟨t, hset, ht, hread (by decide) (-1) (by decide)⟩

/-- The last of two numbers can be read from the end and not be written from there. -/
theorem negative_index_not_written :
    (containerView.arrayItem (.slot (.int .i32)) (.int (-1))).runOn twoNumbers =
        (.ok (.int 20), twoNumbers) ∧
      (containerView.arraySet (.slot (.int .i32)) (.int (-1)) (.int 30)).runOn twoNumbers =
        (.error (.ofKind .indexOutOfRange), twoNumbers) :=
  ⟨rfl, rfl⟩

end Bindery
