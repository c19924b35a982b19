import Bindery.Proofs.Container.Contents

/-!
# Bulk copies and single reads agree

A view reads its container in two ways: one bulk copy of all elements as frames, or one call for
each index. Over a host that stores byte strings (`Stores`) both give the same elements in the same
order, or fail alike on the first that cannot be decoded, as long as each element fits into the
buffer of its codec. Replacing all elements of an array stores just their encodings, or fails before
the host is called.

* `ElementCodec.Fits`: the bytes of an element fit into the buffer.
* `Stores.runOn_toList`, `Stores.runOn_toPairs`: what a bulk copy gives, whatever fits.
* `View.runOn_iterate`: what the reads of all indices give.
* `bulk_copies_agree`: all of it together.
-/

namespace Bindery

open Host

/-! ## Codecs -/

namespace ElementCodec

variable {codec : ElementCodec} {d : Bytes}

/-- The bytes of an element fit into the buffer that is offered for it. -/
def Fits (codec : ElementCodec) (d : Bytes) : Prop :=
  ∃ size, codec.bufferSize = .ok size ∧ d.length ≤ size

/-- No codec asks for a larger buffer than that of texts and structs. -/
theorem bufferSize_le {size : Nat} (h : codec.bufferSize = .ok size) : size ≤ maxElement := by
  have hwire (w : Wire) : w.size ≤ maxElement := by
    cases w with
    | int t => rcases t with ⟨⟨⟩, _⟩ <;> simp [Wire.size, Width.bytes, maxElement]
    | _ => decide
  cases codec with
  | stray _ => cases h
  | slot w | enum _ w => exact Except.ok.inj h ▸ hwire w
  | _ => exact Except.ok.inj h ▸ by decide

/-- What fits into a buffer fits into a frame. -/
theorem Fits.lt (h : codec.Fits d) : d.length < Nat.pow 2 32 := by
  obtain ⟨size, hsize, hle⟩ := h
  have := bufferSize_le hsize
  simp only [maxElement] at this
  simp only [Nat.pow_eq]
  omega

/-- The key and the value with the given bytes. -/
def decodePair (keys values : ElementCodec) (p : Bytes × Bytes) : Except Fault (Value × Value) := do
  return (← keys.decode p.1, ← values.decode p.2)

theorem decodeValue_bytes (codec : ElementCodec) (d : Bytes) :
    codec.decodeValue (.bytes d) = codec.decode d := by
  cases codec <;> rfl

/-- Elements that can all be encoded and framed, and their bytes; if not, one of them cannot. -/
theorem mapM_encodeFrame (codec : ElementCodec) (vs : List Value) :
    (∃ data, vs.mapM codec.encode = .ok data ∧ (∀ d ∈ data, d.length < Nat.pow 2 32) ∧
      vs.mapM codec.encodeFrame = .ok (data.map Bytes.frame)) ∨
    (∃ v ∈ vs, ∀ d, codec.encode v = .ok d → Nat.pow 2 32 ≤ d.length) ∧
      ∃ e, vs.mapM codec.encodeFrame = .error e := by
  induction vs with
  | nil => exact .inl ⟨[], rfl, by simp, rfl⟩
  | cons v vs ih =>
    have hframe : codec.encodeFrame v = codec.encode v >>= Bytes.framed := rfl
    simp only [List.mapM_cons, hframe]
    cases hv : codec.encode v with
    | error e => exact .inr ⟨⟨v, .head _, by simp [hv]⟩, e, rfl⟩
    | ok d =>
      by_cases hd : d.length < Nat.pow 2 32
      · simp only [Bind.bind, Except.bind, Bytes.framed, if_pos hd]
        rcases ih with ⟨data, hdata, hsmall, hframes⟩ | ⟨⟨w, hw, hbad⟩, e, he⟩
        · exact .inl ⟨d :: data, by rw [hdata]; rfl, List.forall_mem_cons.mpr ⟨hd, hsmall⟩,
            by rw [hframes]; rfl⟩
        · exact .inr ⟨⟨w, .tail _ hw, hbad⟩, e, by rw [he]⟩
      · refine .inr ⟨⟨v, .head _, fun d' hd' => ?_⟩, .badSlot, ?_⟩
        · obtain rfl := Except.ok.inj (hv.symm.trans hd')
          omega
        · -- The encoding is too long for a frame.
          simp only [Bind.bind, Except.bind, Bytes.framed, if_neg hd]

/-- What was encoded is decoded one by one. -/
theorem mapM_decode {vs : List Value} {data : List Bytes} (h : vs.mapM codec.encode = .ok data) :
    data.mapM codec.decode = vs.mapM fun v => codec.encode v >>= codec.decode := by
  induction vs generalizing data with
  | nil => cases h; rfl
  | cons v vs ih =>
    rw [List.mapM_cons] at h
    cases hv : codec.encode v with
    | error e => rw [hv] at h; cases h
    | ok d =>
      cases hvs : vs.mapM codec.encode with
      | error e => rw [hv, hvs] at h; cases h
      | ok rest =>
        rw [hv, hvs] at h
        obtain rfl := Except.ok.inj h
        rw [List.mapM_cons, List.mapM_cons, hv, ih hvs]
        rfl

end ElementCodec

/-- A map has two parts for each of its pairs. -/
theorem Contents.length_parts_map (pairs : List (Bytes × Bytes)) :
    (map pairs).length * 2 = (map pairs).parts.length := by
  simp [length, parts, List.length_flatMap]

/-! ## Reads of all indices -/

namespace View

variable {σ α β : Type} {view : View σ} {s : σ}

/-- The reads at consecutive indices, up to the first that fails. -/
private theorem runOn_readFrom {read : Int → Act σ α} {f : β → Except Fault α} {items : List β}
    {start : Nat}
    (h : ∀ i x, items[i]? = some x → (read ((start + i : Nat) : Int)).runOn s = (f x, s)) :
    (readFrom read start items.length).runOn s = (items.mapM f, s) := by
  induction items generalizing start with
  | nil => rfl
  | cons x rest ih =>
    have hrest : (readFrom read (start + 1) rest.length).runOn s = (rest.mapM f, s) :=
      ih fun i y hi => by
        rw [show start + 1 + i = start + (i + 1) by omega]
        exact h (i + 1) y (by simpa using hi)
    have hfirst : (read start).runOn s = (f x, s) := h 0 x rfl
    simp only [List.length_cons, readFrom, List.mapM_cons, Act.runOn_bind, hfirst]
    cases f x with
    | error e => rfl
    | ok a =>
      simp only [hrest]
      cases rest.mapM f <;> rfl

theorem runOn_size {shape : Shape} {n : Nat}
    (hlength : (view.length shape).runOn s = (.ok (.int n), s)) (hmax : n ≤ maxLength) :
    (view.size shape).runOn s = (.ok n, s) := by
  simp only [size, Act.runOn_bind, hlength, Value.index, Value.index?, Act.runOn_liftM,
    if_neg (Int.not_lt.mpr hmax), Act.runOn_pure, Int.toNat_natCast]

/-- The reads of all indices, one after the other, up to the first that fails. -/
theorem runOn_iterate {shape : Shape} {read : Value → Act σ α} {f : β → Except Fault α}
    {items : List β} (hlength : (view.length shape).runOn s = (.ok (.int items.length), s))
    (hmax : items.length ≤ maxLength)
    (h : ∀ (i : Nat) x, items[i]? = some x → (read (.int i)).runOn s = (f x, s)) :
    (view.iterate shape read).runOn s = (items.mapM f, s) := by
  rw [iterate, Act.runOn_bind, runOn_size hlength hmax]
  exact runOn_readFrom fun i x hi => by simpa using h i x hi

theorem runOn_decoded (codec : ElementCodec) {d : Bytes} :
    (decoded codec (.int 0, .bytes d) : Act σ Value).runOn s = (codec.decode d, s) := by
  rw [← codec.decodeValue_bytes]
  rfl

/-- A pair is decoded key first. -/
theorem runOn_decodePair (keys values : ElementCodec) (p : Bytes × Bytes) :
    (do return (← keys.decode p.1, ← values.decode p.2) : Act σ (Value × Value)).runOn s =
      (keys.decodePair values p, s) := by
  simp only [Act.runOn_bind, Act.runOn_liftM, ElementCodec.decodePair]
  cases keys.decode p.1 with
  | error e => rfl
  | ok key => cases values.decode p.2 <;> rfl

theorem runOn_accept : (Code.accept (.int 0) : Act σ Unit).runOn s = (.ok (), s) := rfl

/-- Parts that are taken two by two are the pairs again. -/
private theorem twoByTwo_flatMap (pairs : List (α × α)) :
    twoByTwo (pairs.flatMap fun p => [p.1, p.2]) = pairs := by
  induction pairs with
  | nil => rfl
  | cons p pairs ih => simp [twoByTwo, ih]

/-- What a host answers for all frames is taken apart, in whatever state it leaves. -/
theorem runOn_bulkFrames {host : Primitives σ} {shape : Shape} {parts : List Bytes}
    {count each : Nat} {t : σ} (hdispatch : view.dispatch.runOn s = (.ok host, s))
    (hcopy : (host.copyAll shape view.owner view.prop).runOn s =
      (.ok (.int 0, Bytes.frames parts, count), t))
    (hsmall : ∀ d ∈ parts, d.length < Nat.pow 2 32) (heach : count * each = parts.length) :
    (view.bulkFrames shape each).runOn s = (.ok parts, t) := by
  simp only [bulkFrames, Act.runOn_bind, hdispatch, hcopy, Int.toNat_natCast, heach,
    Bytes.unframe_frames hsmall]
  rfl

theorem runOn_toList {shape : Shape} {parts : List Bytes} {t : σ}
    (h : (view.bulkFrames shape 1).runOn s = (.ok parts, t)) (codec : ElementCodec) :
    (view.toList shape codec).runOn s = (parts.mapM codec.decode, t) := by
  rw [toList, Act.runOn_bind, h]
  exact Act.runOn_mapM fun d _ => Act.runOn_liftM ..

theorem runOn_toPairs {pairs : List (Bytes × Bytes)} {t : σ}
    (h : (view.bulkFrames .map 2).runOn s = (.ok (Contents.map pairs).parts, t))
    (keys values : ElementCodec) :
    (view.toPairs keys values).runOn s = (pairs.mapM (keys.decodePair values), t) := by
  rw [toPairs, Act.runOn_bind, h]
  simp only [Contents.parts, twoByTwo_flatMap]
  exact Act.runOn_mapM fun p _ => runOn_decodePair keys values p

private theorem runOn_encodeFrames (codec : ElementCodec) (vs : List Value) :
    (vs.mapM fun v => liftM (codec.encodeFrame v) : Act σ (List Bytes)).runOn s =
      (vs.mapM codec.encodeFrame, s) :=
  Act.runOn_mapM fun _ _ => Act.runOn_liftM ..

/-- Elements of which one cannot be framed replace none. -/
theorem runOn_setAll_error {codec : ElementCodec} {vs : List Value} {e : Fault}
    (he : vs.mapM codec.encodeFrame = .error e) :
    (view.setAll codec vs).runOn s = (.error e, s) := by
  simp only [setAll, Act.runOn_bind, runOn_encodeFrames, he]

end View

/-! ## Over a host that stores byte strings -/

namespace Stores

variable {σ : Type} {view : View σ} {host : Primitives σ} {contents : σ → Option Contents}
  {s : σ} {c : Contents} (h : Stores view host contents)

include h

/-- The host counts no less than zero elements. -/
theorem runOn_length (hs : contents s = some c) :
    (view.length c.shape).runOn s = (.ok (.int c.length), s) := by
  simp only [View.length, Act.runOn_bind, h.dispatch hs, h.count hs, View.checkedLength,
    Value.isNegative, Value.less_int, Act.runOn_liftM]
  rw [decide_eq_false (by omega)]
  rfl

/-- A bulk copy gives the stored byte strings. -/
theorem runOn_bulkFrames (hs : contents s = some c)
    (hsmall : ∀ d ∈ c.parts, d.length < Nat.pow 2 32) {each : Nat}
    (heach : c.length * each = c.parts.length) :
    (view.bulkFrames c.shape each).runOn s = (.ok c.parts, s) :=
  View.runOn_bulkFrames (h.dispatch hs) (h.copyAll hs hsmall) hsmall heach

/-- A bulk copy of an array or a set, whatever the sizes of the elements. -/
theorem runOn_toList (hs : contents s = some c) (hsmall : ∀ d ∈ c.parts, d.length < Nat.pow 2 32)
    (hlength : c.length = c.parts.length) (codec : ElementCodec) :
    (view.toList c.shape codec).runOn s = (c.parts.mapM codec.decode, s) :=
  View.runOn_toList (h.runOn_bulkFrames hs hsmall (by omega)) codec

/-- A bulk copy of a map. -/
theorem runOn_toPairs {pairs : List (Bytes × Bytes)} (hs : contents s = some (.map pairs))
    (hsmall : ∀ p ∈ pairs, p.1.length < Nat.pow 2 32 ∧ p.2.length < Nat.pow 2 32)
    (keys values : ElementCodec) :
    (view.toPairs keys values).runOn s = (pairs.mapM (keys.decodePair values), s) := by
  have hparts : ∀ d ∈ (Contents.map pairs).parts, d.length < Nat.pow 2 32 := by
    intro d hd
    obtain ⟨p, hp, hd⟩ := List.mem_flatMap.mp hd
    rcases List.mem_pair.mp hd with rfl | rfl
    · exact (hsmall p hp).1
    · exact (hsmall p hp).2
  exact View.runOn_toPairs (h.runOn_bulkFrames hs hparts (Contents.length_parts_map pairs)) keys
    values

/-- The elements of an array one by one, if they fit into the buffer. -/
theorem runOn_arrayList {items : List Bytes} (hs : contents s = some (.array items))
    (hmax : items.length ≤ View.maxLength) {codec : ElementCodec}
    (hfits : ∀ d ∈ items, codec.Fits d) :
    (view.arrayList codec).runOn s = (items.mapM codec.decode, s) := by
  refine View.runOn_iterate (h.runOn_length hs) hmax fun i d hi => ?_
  obtain ⟨size, hsize, hle⟩ := hfits d (List.mem_of_getElem? hi)
  simp only [View.arrayGet, Act.runOn_bind, h.dispatch hs, hsize, Act.runOn_liftM, h.arrayGet hs hi,
    List.take_of_length_le hle, View.runOn_decoded]

/-- The elements of a set one by one, if they fit into the buffer. -/
theorem runOn_setList {items : List Bytes} (hs : contents s = some (.set items))
    (hmax : items.length ≤ View.maxLength) {codec : ElementCodec}
    (hfits : ∀ d ∈ items, codec.Fits d) :
    (view.setList codec).runOn s = (items.mapM codec.decode, s) := by
  refine View.runOn_iterate (h.runOn_length hs) hmax fun i d hi => ?_
  obtain ⟨size, hsize, hle⟩ := hfits d (List.mem_of_getElem? hi)
  simp only [View.setGet, Act.runOn_bind, h.dispatch hs, hsize, Act.runOn_liftM, h.setGet hs hi,
    List.take_of_length_le hle, View.runOn_decoded]

/-- The pairs of a map one by one, if keys and values fit into their buffers. -/
theorem runOn_pairList {pairs : List (Bytes × Bytes)} (hs : contents s = some (.map pairs))
    (hmax : pairs.length ≤ View.maxLength) {keys values : ElementCodec}
    (hfits : ∀ p ∈ pairs, keys.Fits p.1 ∧ values.Fits p.2) :
    (view.pairList keys values).runOn s = (pairs.mapM (keys.decodePair values), s) := by
  refine View.runOn_iterate (h.runOn_length hs) hmax fun i p hi => ?_
  obtain ⟨⟨keySize, hk, hkle⟩, valueSize, hv, hvle⟩ := hfits p (List.mem_of_getElem? hi)
  have hdecode := View.runOn_decodePair (s := s) keys values p
  simp only [Act.runOn_bind, Act.runOn_liftM] at hdecode
  simpa only [View.pairAt, Act.runOn_bind, h.dispatch hs, hk, hv, Act.runOn_liftM, h.mapPair hs hi,
    List.take_of_length_le hkle, List.take_of_length_le hvle, View.runOn_accept,
    ElementCodec.decodeValue_bytes] using hdecode

/-- Replacing all elements of an array. -/
theorem runOn_setAll {items : List Bytes} (hs : contents s = some (.array items))
    {codec : ElementCodec} {vs : List Value} {data : List Bytes}
    (hsmall : ∀ d ∈ data, d.length < Nat.pow 2 32)
    (hframes : vs.mapM codec.encodeFrame = .ok (data.map Bytes.frame)) :
    ∃ t, (view.setAll codec vs).runOn s = (.ok (), t) ∧ contents t = some (.array data) := by
  obtain ⟨t, hset, ht⟩ := h.arraySetAll hs (Bytes.unframe_frames hsmall)
  refine ⟨t, ?_, ht⟩
  have hframed : (data.map Bytes.frame).flatten = Bytes.frames data := rfl
  simp only [View.setAll, Act.runOn_bind, View.runOn_encodeFrames, hframes, View.perform,
    h.dispatch hs, hframed, List.length_map, hset, View.runOn_accept]

end Stores

/-- Over a host that stores byte strings, a bulk copy and the reads of all indices give the same
outcome if each element fits into the buffer of its codec, for each shape of container with no more
elements than any list can have. Replacing all elements of an array stores exactly the encodings,
which a bulk copy then decodes in order; if a value cannot be encoded, or not within a frame, it
fails and changes nothing. -/
theorem bulk_copies_agree {σ : Type} {view : View σ} {host : Primitives σ}
    {contents : σ → Option Contents} (h : Stores view host contents) (s : σ) :
    (∀ (codec : ElementCodec) (items : List Bytes), contents s = some (.array items) →
      items.length ≤ View.maxLength → (∀ d ∈ items, codec.Fits d) →
      (view.toList .array codec).runOn s = (items.mapM codec.decode, s) ∧
      (view.arrayList codec).runOn s = (items.mapM codec.decode, s)) ∧
    (∀ (codec : ElementCodec) (items : List Bytes), contents s = some (.set items) →
      items.length ≤ View.maxLength → (∀ d ∈ items, codec.Fits d) →
      (view.toList .set codec).runOn s = (items.mapM codec.decode, s) ∧
      (view.setList codec).runOn s = (items.mapM codec.decode, s)) ∧
    (∀ (keys values : ElementCodec) (pairs : List (Bytes × Bytes)),
      contents s = some (.map pairs) → pairs.length ≤ View.maxLength →
      (∀ p ∈ pairs, keys.Fits p.1 ∧ values.Fits p.2) →
      (view.toPairs keys values).runOn s = (pairs.mapM (keys.decodePair values), s) ∧
      (view.pairList keys values).runOn s = (pairs.mapM (keys.decodePair values), s)) ∧
    (∀ (codec : ElementCodec) (vs : List Value) (items : List Bytes),
      contents s = some (.array items) →
      (∃ data t, vs.mapM codec.encode = .ok data ∧ (view.setAll codec vs).runOn s = (.ok (), t) ∧
        contents t = some (.array data) ∧
        (view.toList .array codec).runOn t =
          (vs.mapM fun v => codec.encode v >>= codec.decode, t)) ∨
      (∃ v ∈ vs, ∀ d, codec.encode v = .ok d → Nat.pow 2 32 ≤ d.length) ∧
        ∃ e, (view.setAll codec vs).runOn s = (.error e, s)) := by
  refine ⟨?_, ?_, ?_, ?_⟩
  · -- Arrays, sets and maps in this order, and then what replaces the elements of an array.
    intro codec items hs hmax hfits
    have hsmall : ∀ d ∈ items, d.length < Nat.pow 2 32 := fun d hd => (hfits d hd).lt
    exact ⟨h.runOn_toList hs hsmall rfl codec, h.runOn_arrayList hs hmax hfits⟩
  · intro codec items hs hmax hfits
    have hsmall : ∀ d ∈ items, d.length < Nat.pow 2 32 := fun d hd => (hfits d hd).lt
    exact ⟨h.runOn_toList hs hsmall rfl codec, h.runOn_setList hs hmax hfits⟩
  · intro keys values pairs hs hmax hfits
    have hsmall : ∀ p ∈ pairs, p.1.length < Nat.pow 2 32 ∧ p.2.length < Nat.pow 2 32 :=
      fun p hp => ⟨(hfits p hp).1.lt, (hfits p hp).2.lt⟩
    exact ⟨h.runOn_toPairs hs hsmall keys values, h.runOn_pairList hs hmax hfits⟩
  · intro codec vs items hs
    rcases codec.mapM_encodeFrame vs with ⟨data, hdata, hsmall, hframes⟩ | ⟨hbad, e, he⟩
    · obtain ⟨t, hset, ht⟩ := h.runOn_setAll hs hsmall hframes
      refine .inl ⟨data, t, hdata, hset, ht, ?_⟩
      rw [← ElementCodec.mapM_decode hdata]
      exact h.runOn_toList ht hsmall rfl codec
    · exact .inr ⟨hbad, e, View.runOn_setAll_error he⟩

/-- An engine with an object that has a container. -/
def containerEngine (items : List Value) : Engine where
  live := [1]
  containers := [((.int 1, .int 2), items)]

/-- The host of that engine, and the view of the container. -/
def containerHost : Primitives Engine :=
  Engine.primitives .whole (fun _ => pure ()) fun _ _ => pure .null

def containerView : View Engine where
  dispatch := pure containerHost
  owner := .int 1
  prop := .int 2

/-- Two numbers in an array of the engine, read both ways. -/
theorem bulk_copies_agree_engine :
    let e := containerEngine [.bytes [7, 0, 0, 0], .bytes [8, 0, 0, 0]]
    Engine.contents .array 1 2 e = some (.array [[7, 0, 0, 0], [8, 0, 0, 0]]) ∧
      (containerView.toList .array (.slot (.int .i32))).runOn e = (.ok [.int 7, .int 8], e) ∧
      (containerView.arrayList (.slot (.int .i32))).runOn e = (.ok [.int 7, .int 8], e) := by
  intro e
  have hcontents : Engine.contents .array 1 2 e = some (.array [[7, 0, 0, 0], [8, 0, 0, 0]]) := rfl
  have hfits : ∀ d ∈ [[7, 0, 0, 0], [8, 0, 0, 0]], (ElementCodec.slot (.int .i32)).Fits d := by
    have hsize : ∀ d ∈ ([[7, 0, 0, 0], [8, 0, 0, 0]] : List Bytes), d.length ≤ 4 := by decide
    exact fun d hd => ⟨4, rfl, hsize d hd⟩
  have hstores : Stores containerView containerHost (Engine.contents .array 1 2) :=
    Engine.stores _ _ .array 1 2
  obtain ⟨hbulk, hsingle⟩ :=
    (bulk_copies_agree hstores e).1 (.slot (.int .i32)) _ hcontents (by decide) hfits
  exact ⟨hcontents, hbulk, hsingle⟩

end Bindery
