import Bindery.Proofs.Container.BulkCopies
import Bindery.Proofs.Host.Forwarding
import Bindery.Proofs.Effect

/-!
# Bulk copies over native tables

An entry that copies a container fills a buffer of the caller's, or answers the size that it needs.
The primitives over a table offer 4096 bytes first and then, once, whatever was asked for. So a
container that stays as it is comes over whole, and one that grows in between gives no part of it.

* `observed`, `Table.observing`: entries for bulk copies under observation.
* `CopiesOut`: entries that copy out what a container holds; `copiesOut_of_stores` for the entries
  that forward to a host.
* `CopiesOut.runOn_copyWith`, `copyWith_bounded`: what two attempts give.
* `native_copies_complete`: all frames come over, and are taken apart.
-/

namespace Bindery

open Host

/-! ## Frames -/

namespace Bytes

private theorem length_frames_cons (d : Bytes) (items : List Bytes) :
    (frames (d :: items)).length = 4 + d.length + (frames items).length := by
  simp only [frames_cons, List.length_append, length_ofNat]

/-- Every frame has four bytes besides its contents. -/
theorem four_mul_length_le (items : List Bytes) : 4 * items.length ≤ (frames items).length := by
  induction items with
  | nil => exact Nat.le_refl _
  | cons d items ih =>
    rw [length_frames_cons, List.length_cons]
    omega

/-- A frame is no longer than all frames. -/
theorem length_le_of_mem {d : Bytes} {items : List Bytes} (h : d ∈ items) :
    d.length ≤ (frames items).length := by
  induction items with
  | nil => cases h
  | cons d' items ih =>
    rw [length_frames_cons]
    rcases List.mem_cons.1 h with rfl | h
    · omega
    · have := ih h
      omega

end Bytes

theorem Contents.length_le (c : Contents) : c.length ≤ c.parts.length := by
  cases c with
  | array items | set items => exact Nat.le_refl _
  | map pairs =>
    have := length_parts_map pairs
    omega

namespace Host

variable {σ : Type}

/-! ## Entries -/

/-- An entry with the sizes of the buffers that it is called with on record. -/
def observed (entry : UInt32 → Act σ BulkReply) (size : UInt32) :
    Act (Recorded σ UInt32) BulkReply := do
  Recorded.note size
  Recorded.statePart.within (entry size)

/-- A table with other entries for bulk copies, under observation. -/
def Table.observing (table : Table (Recorded σ UInt32))
    (entry : Shape → UInt64 → UInt64 → UInt32 → Act σ BulkReply) : Table (Recorded σ UInt32) :=
  { table with copyAll := fun shape obj prop => observed (entry shape obj prop) }

/-- The reply of an entry that fills a buffer with all that there is. -/
def BulkReply.whole (data : Bytes) (count : Nat) : BulkReply :=
  ⟨Answer.replyOf 0 data, .ofInt count⟩

/-- The entries of a container copy it out: one answers the size that it needs if the buffer is too
small, and otherwise fills it with all frames. The container stays as it is. -/
structure CopiesOut (entry : Shape → UInt32 → Act σ BulkReply) (contents : σ → Option Contents) :
    Prop where
  small {s : σ} {c : Contents} {size : UInt32} : contents s = some c →
    (Bytes.frames c.parts).length < Nat.pow 2 32 → size.toNat < (Bytes.frames c.parts).length →
    ∃ r t, (entry c.shape size).runOn s = (.ok r, t) ∧ contents t = some c ∧ r.code = tooSmall ∧
      r.written = .ofNat (Bytes.frames c.parts).length
  large {s : σ} {c : Contents} {size : UInt32} : contents s = some c →
    (Bytes.frames c.parts).length ≤ size.toNat →
    ∃ r t, (entry c.shape size).runOn s = (.ok r, t) ∧ contents t = some c ∧
      r = .whole (Bytes.frames c.parts) c.length

/-- A table that forwards to a host copies out what the host stores. -/
theorem copiesOut_of_stores {view : View σ} {host : Primitives σ} {contents : σ → Option Contents}
    (h : Stores view host contents) {obj prop : UInt64} (hobj : view.owner = Word.handle obj)
    (hprop : view.prop = Word.handle prop) :
    CopiesOut (fun shape => (Table.forwarding host).copyAll shape obj prop) contents where
  small {s c size} hs htotal hsize := by
    have hcopy := h.copyAll hs fun d hd => (Bytes.length_le_of_mem hd).trans_lt htotal
    rw [hobj, hprop] at hcopy
    refine ⟨_, s, Table.runOn_shielded_map _ (BulkReply.giving · size) hcopy, hs, ?_⟩
    rw [BulkReply.giving, if_pos ⟨rfl, hsize⟩]
    exact ⟨rfl, rfl⟩
  large {s c size} hs hsize := by
    have htotal : (Bytes.frames c.parts).length < Nat.pow 2 32 := hsize.trans_lt size.toNat_lt
    have hcopy := h.copyAll hs fun d hd => (Bytes.length_le_of_mem hd).trans_lt htotal
    rw [hobj, hprop] at hcopy
    refine ⟨_, s, Table.runOn_shielded_map _ (BulkReply.giving · size) hcopy, hs, ?_⟩
    rw [BulkReply.giving, if_neg fun h => Nat.not_lt.2 hsize h.2, Reply.giving,
      List.take_of_length_le hsize]
    rfl

/-! ## Two attempts -/

section Attempts

variable {entry : UInt32 → Act σ BulkReply} {s t : σ} {first : BulkReply}

private theorem runOn_copyWith_error {e : Fault}
    (hfirst : (entry bulkBuffer).runOn s = (.error e, t)) :
    (Primitives.copyWith entry).runOn s = (.error e, t) := by
  rw [Primitives.copyWith, Act.runOn_bind, hfirst]

/-- What fits into the first buffer needs no second call. -/
theorem runOn_copyWith_once {result : Value × Bytes × Int}
    (hfirst : (entry bulkBuffer).runOn s = (.ok first, t))
    (hresult : first.result? bulkBuffer = some result) :
    (Primitives.copyWith entry).runOn s = (.ok result, t) := by
  simp only [Primitives.copyWith, Act.runOn_bind, hfirst, hresult, Act.runOn_pure]

/-- The second attempt is the last one. -/
theorem runOn_copyWith_twice {second : Except Fault BulkReply} {u : σ}
    (hfirst : (entry bulkBuffer).runOn s = (.ok first, t))
    (hresult : first.result? bulkBuffer = none)
    (hsecond : (entry first.written).runOn t = (second, u)) :
    (Primitives.copyWith entry).runOn s =
      (second.map fun r => (r.result? first.written).getD (codeOf tooSmall, [], 0), u) := by
  simp only [Primitives.copyWith, Act.runOn_bind, hfirst, hresult, hsecond]
  cases second <;> rfl

end Attempts

/-- The code of a result is not the one for a buffer that is too small. -/
theorem BulkReply.ne_tooSmall {r : BulkReply} {size : UInt32} {code : Value} {data : Bytes}
    {count : Int} (h : r.result? size = some (code, data, count)) : code ≠ codeOf tooSmall := by
  unfold result? at h
  split at h
  · cases h
  next hcode =>
    obtain ⟨rfl, -⟩ := Prod.mk.inj (Option.some.inj h)
    intro heq
    have hword := congrArg Word.ofCode heq
    rw [Table.ofCode_codeOf, Table.ofCode_codeOf] at hword
    exact hcode hword

/-- An entry under observation does what it does, and its buffer is on record. -/
private theorem runOn_observed {entry : UInt32 → Act σ BulkReply} {size : UInt32}
    {s : Recorded σ UInt32}
    {result : Except Fault BulkReply} {t : σ} (h : (entry size).runOn s.state = (result, t)) :
    (observed entry size).runOn s = (result, ⟨t, s.trace ++ [size]⟩) := by
  simp only [observed, Act.runOn_bind, Recorded.runOn_note, Part.runOn_within,
    Recorded.statePart_get, Recorded.statePart_set, h]

/-- Whatever an entry answers, it is called at most twice, and what counts as too small comes
without bytes. -/
theorem copyWith_bounded (entry : UInt32 → Act σ BulkReply) {s t : Recorded σ UInt32}
    {result : Except Fault (Value × Bytes × Int)}
    (h : (Primitives.copyWith (observed entry)).runOn s = (result, t)) :
    (∃ sizes, t.trace = s.trace ++ sizes ∧ sizes.length ≤ 2) ∧
      ∀ data count, result = .ok (codeOf tooSmall, data, count) → data = [] ∧ count = 0 := by
  rcases hfirst : (entry bulkBuffer).runOn s.state with ⟨e | first, u⟩
  · obtain ⟨rfl, rfl⟩ := Prod.mk.inj (h.symm.trans (runOn_copyWith_error (runOn_observed hfirst)))
    exact ⟨⟨[bulkBuffer], rfl, by decide⟩, nofun⟩
  have hfirst := runOn_observed hfirst
  cases hresult : first.result? bulkBuffer with
  | some result =>
    obtain ⟨rfl, rfl⟩ := Prod.mk.inj (h.symm.trans (runOn_copyWith_once hfirst hresult))
    refine ⟨⟨[bulkBuffer], rfl, by decide⟩, fun data count hr => ?_⟩
    obtain rfl := Except.ok.inj hr
    exact absurd rfl (BulkReply.ne_tooSmall hresult)
  | none =>
    rcases hsecond : (entry first.written).runOn u with ⟨second, u'⟩
    have hsecond := runOn_observed (s := ⟨u, s.trace ++ [bulkBuffer]⟩) hsecond
    obtain ⟨rfl, rfl⟩ := Prod.mk.inj (h.symm.trans (runOn_copyWith_twice hfirst hresult hsecond))
    refine ⟨⟨[bulkBuffer, first.written], List.append_assoc .., Nat.le_refl 2⟩,
      fun data count hr => ?_⟩
    cases second with
    | error e => cases hr
    | ok r =>
      replace hr : (r.result? first.written).getD (codeOf tooSmall, [], 0) =
          (codeOf tooSmall, data, count) := Except.ok.inj hr
      cases hlast : r.result? first.written with
      | some result =>
        rw [hlast] at hr
        obtain rfl := hr
        exact absurd rfl (BulkReply.ne_tooSmall hlast)
      | none =>
        rw [hlast] at hr
        cases hr
        exact ⟨rfl, rfl⟩

/-- The sizes of the buffers that are offered for as many bytes. -/
def offered (total : Nat) : List UInt32 :=
  if total ≤ bulkBuffer.toNat then [bulkBuffer] else [bulkBuffer, .ofNat total]

/-- A reply with all that there is gives just that. -/
theorem BulkReply.result?_whole {data : Bytes} {size : UInt32} {count : Nat}
    (hdata : data.length ≤ size.toNat) (hcount : count < Nat.pow 2 31) :
    (whole data count).result? size = some (Value.int 0, data, (count : Int)) := by
  have hcode : (whole data count).code ≠ tooSmall := (by decide : (0 : UInt32) ≠ tooSmall)
  have hint : (Int32.ofInt count).toInt = count := by
    simp only [Nat.pow_eq] at hcount
    exact Int32.toInt_ofInt_of_le (by omega) (by omega)
  rw [result?, if_neg hcode]
  exact congrArg some (Prod.ext rfl (Prod.ext (Answer.bytes_replyOf size 0 hdata) hint))

variable {entry : Shape → UInt32 → Act σ BulkReply} {contents : σ → Option Contents}

/-- An entry that copies out a container gives all of its frames at one of two attempts. -/
theorem CopiesOut.runOn_copyWith (h : CopiesOut entry contents) {s : Recorded σ UInt32}
    {c : Contents} (hs : contents s.state = some c)
    (htotal : (Bytes.frames c.parts).length < Nat.pow 2 32) :
    ∃ t, (Primitives.copyWith (observed (entry c.shape))).runOn s =
        (.ok (.int 0, Bytes.frames c.parts, c.length), t) ∧
      contents t.state = some c ∧
      t.trace = s.trace ++ offered (Bytes.frames c.parts).length := by
  -- Counts are signed, but each element has a frame of four bytes at least.
  have hcount : c.length < Nat.pow 2 31 := by
    have hparts := Bytes.four_mul_length_le c.parts
    have := c.length_le
    simp only [Nat.pow_eq] at htotal ⊢
    omega
  by_cases hsize : (Bytes.frames c.parts).length ≤ bulkBuffer.toNat
  · obtain ⟨r, t, hrun, ht, rfl⟩ := h.large hs hsize
    refine ⟨_, runOn_copyWith_once (runOn_observed hrun) (BulkReply.result?_whole hsize hcount),
      ht, ?_⟩
    rw [offered, if_pos hsize]
  · obtain ⟨r, t, hrun, ht, hcode, hwritten⟩ := h.small hs htotal (Nat.not_le.1 hsize)
    have hneeded : r.written.toNat = (Bytes.frames c.parts).length := by
      rw [hwritten]
      exact UInt32.toNat_ofNat_of_lt' htotal
    have hagain : (Bytes.frames c.parts).length ≤ r.written.toNat := Nat.le_of_eq hneeded.symm
    obtain ⟨r', t', hrun', ht', rfl⟩ := h.large ht hagain
    have htwice := runOn_copyWith_twice (runOn_observed hrun) (if_pos hcode)
      (runOn_observed (s := ⟨t, s.trace ++ [bulkBuffer]⟩) hrun')
    rw [Except.map, BulkReply.result?_whole hagain hcount] at htwice
    refine ⟨_, htwice, ht', ?_⟩
    rw [offered, if_neg hsize, ← hwritten]
    exact List.append_assoc ..

/-- The copier over a table, called with addresses. -/
theorem runOn_copyAll_observing (table : Table (Recorded σ UInt32))
    (entry : Shape → UInt64 → UInt64 → UInt32 → Act σ BulkReply) {shape : Shape}
    {owner prop : Value} {a b : UInt64} (howner : Word.address owner = .ok a)
    (hprop : Word.address prop = .ok b) (s : Recorded σ UInt32) :
    ((Primitives.overTable (table.observing entry)).copyAll shape owner prop).runOn s =
      (Primitives.copyWith (observed (entry shape a b))).runOn s := by
  show (do Primitives.copyWith ((table.observing entry).copyAll shape (← Primitives.pass owner)
    (← Primitives.pass prop))).runOn s = _
  simp only [Act.runOn_bind, Primitives.pass, Act.runOn_ofExcept, howner, hprop]
  rfl

end Host

/-- Over a native table whose entries copy out a container of less than 2 ^ 32 bytes of frames, a
bulk copy gives all of the frames and the number of elements, with one call if the frames fit into
the first buffer and with two otherwise; so all elements of an array or a set, and all pairs of a
map, are decoded in order. Whatever the entries answer, there are at most two calls, and a buffer
that was too small comes with no bytes and no count. -/
theorem native_copies_complete {σ : Type} (table : Table (Recorded σ UInt32))
    {entry : Shape → UInt64 → UInt64 → UInt32 → Act σ BulkReply} {view : View (Recorded σ UInt32)}
    {a b : UInt64}
    (hdispatch : ∀ s, view.dispatch.runOn s =
      (.ok (Primitives.overTable (table.observing entry)), s))
    (howner : Word.address view.owner = .ok a) (hprop : Word.address view.prop = .ok b) :
    (∀ contents, CopiesOut (fun shape => entry shape a b) contents →
      ∀ s c, contents s.state = some c → (Bytes.frames c.parts).length < Nat.pow 2 32 →
      ∃ t, contents t.state = some c ∧
        t.trace = s.trace ++ offered (Bytes.frames c.parts).length ∧
        ((Primitives.overTable (table.observing entry)).copyAll c.shape view.owner view.prop).runOn
          s = (.ok (.int 0, Bytes.frames c.parts, c.length), t) ∧
        (∀ items, c = .array items ∨ c = .set items → ∀ codec,
          (view.toList c.shape codec).runOn s = (items.mapM codec.decode, t)) ∧
        (∀ pairs, c = .map pairs → ∀ keys values,
          (view.toPairs keys values).runOn s = (pairs.mapM (keys.decodePair values), t))) ∧
    ∀ shape s t result,
      ((Primitives.overTable (table.observing entry)).copyAll shape view.owner view.prop).runOn s =
        (result, t) →
      (∃ sizes, t.trace = s.trace ++ sizes ∧ sizes.length ≤ 2) ∧
        ∀ data count, result = .ok (codeOf tooSmall, data, count) → data = [] ∧ count = 0 := by
  refine ⟨fun contents h s c hs htotal => ?_, fun shape s t result hrun => ?_⟩
  · obtain ⟨t, hcopy, ht, htrace⟩ := h.runOn_copyWith hs htotal
    rw [← runOn_copyAll_observing table entry howner hprop] at hcopy
    have hsmall : ∀ d ∈ c.parts, d.length < Nat.pow 2 32 := fun d hd =>
      (Bytes.length_le_of_mem hd).trans_lt htotal
    refine ⟨t, ht, htrace, hcopy, fun items hc codec => ?_, fun pairs hc keys values => ?_⟩
    · have hparts : c.length = items.length ∧ c.parts = items := by
        rcases hc with rfl | rfl <;> exact ⟨rfl, rfl⟩
      rw [← hparts.2]
      exact View.runOn_toList (View.runOn_bulkFrames (hdispatch s) hcopy hsmall
        (by rw [hparts.1, hparts.2, Nat.mul_one])) codec
    · subst hc
      exact View.runOn_toPairs (View.runOn_bulkFrames (hdispatch s) hcopy hsmall
        (Contents.length_parts_map pairs)) keys values
  · rw [runOn_copyAll_observing table entry howner hprop] at hrun
    exact copyWith_bounded (entry shape a b) hrun

/-! ## A native engine -/

/-- The entries that forward to an engine. -/
def engineCopies (shape : Shape) (obj prop : UInt64) : UInt32 → Act Engine BulkReply :=
  (Table.forwarding containerHost).copyAll shape obj prop

/-- The table of an engine with its bulk copies under observation. -/
def observedTable : Table (Recorded Engine UInt32) :=
  (Table.forwarding (containerHost.within Recorded.statePart)).observing engineCopies

/-- The container of an engine behind that table. -/
def nativeView : View (Recorded Engine UInt32) where
  dispatch := pure (Primitives.overTable observedTable)
  owner := .int 1
  prop := .int 2

private theorem runOn_dispatch_nativeView (s : Recorded Engine UInt32) :
    nativeView.dispatch.runOn s = (.ok (Primitives.overTable observedTable), s) := rfl

/-- A struct of 5000 bytes does not fit into the first buffer, and comes over with the second. -/
theorem native_copies_complete_engine :
    let d : Bytes := List.replicate 5000 7
    ∃ t, (nativeView.toList .array .struct).runOn { state := containerEngine [.bytes d] } =
        (.ok [.struct d], t) ∧ t.trace = [4096, 5004] := by
  intro d
  have hcontents :
      Engine.contents .array 1 2 (containerEngine [.bytes d]) = some (.array [d]) := rfl
  have hlength : (Bytes.frames (Contents.array [d]).parts).length = 5004 := by
    rw [Contents.parts, Bytes.length_frames_cons, List.length_replicate]
    rfl
  have howner : Word.address nativeView.owner = .ok 1 := rfl
  have hprop : Word.address nativeView.prop = .ok 2 := rfl
  have hcopies : CopiesOut (fun shape => engineCopies shape 1 2) (Engine.contents .array 1 2) :=
    copiesOut_of_stores (Engine.stores _ _ .array 1 2) rfl rfl
  obtain ⟨hcomplete, -⟩ :=
    native_copies_complete _ runOn_dispatch_nativeView howner hprop
  obtain ⟨t, -, htrace, -, hlist, -⟩ :=
    hcomplete _ hcopies { state := containerEngine [.bytes d] } _ hcontents
      (by rw [hlength]; decide)
  refine ⟨t, hlist [d] (.inl rfl) .struct, ?_⟩
  rw [htrace, hlength]
  rfl

end Bindery
