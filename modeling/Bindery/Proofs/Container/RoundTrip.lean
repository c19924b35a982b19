import Bindery.Proofs.Container.BulkCopies
import Bindery.Proofs.Enum.Class
import Bindery.Proofs.Wire.Paths
import Mathlib.Data.List.Induction

/-!
# Containers that are filled and read back

An empty container is filled one element after the other and then read from the start. Hosts tell
elements apart by their bytes, so values with one encoding count as one: a set holds the first of
them, and a map the last entry with their key, where that one came.

* `Keeps`: a host adds elements as the engine does; `Engine.keeps_while`.
* `lastEntries`: the entries that no later one replaces.
* `Keeps.runOn_extendArray`, `runOn_extendSet`, `runOn_addPairs`: what a container holds afterwards.
* `ElementCodec.ReadsBack`: codecs that can read all that they write, or whatever is long enough
  (`ElementCodec.leastSize`).
* `read_after_write`: what reading gives.
-/

namespace Bindery

open Host

/-! ## Entries by key -/

section Entries

variable {κ α : Type} [DecidableEq κ]

/-- The entries that no later one has the key of: the last one of each key. -/
def lastEntries : List (κ × α) → List (κ × α)
  | [] => []
  | p :: rest => if p.1 ∈ rest.map (·.1) then lastEntries rest else p :: lastEntries rest

/-- One more entry replaces that of its key. -/
theorem lastEntries_append (ps : List (κ × α)) (p : κ × α) :
    lastEntries (ps ++ [p]) = (lastEntries ps).filter (fun q => q.1 ≠ p.1) ++ [p] := by
  induction ps with
  | nil => rfl
  | cons q rest ih =>
    by_cases hrest : q.1 ∈ rest.map (·.1)
    · have hmem : q.1 ∈ (rest ++ [p]).map (·.1) := by simp [List.mem_map.1 hrest]
      rw [List.cons_append, lastEntries, if_pos hmem, lastEntries, if_pos hrest, ih]
    · by_cases hq : q.1 = p.1
      · have hmem : q.1 ∈ (rest ++ [p]).map (·.1) := by simp [hq]
        rw [List.cons_append, lastEntries, if_pos hmem, lastEntries, if_neg hrest, ih,
          List.filter_cons_of_neg (by simp [hq])]
      · have hmem : q.1 ∉ (rest ++ [p]).map (·.1) := by
          rw [List.map_append, List.mem_append]
          exact fun h => h.elim hrest (by simpa using hq)
        rw [List.cons_append, lastEntries, if_neg hmem, lastEntries, if_neg hrest, ih,
          List.filter_cons_of_pos (by simpa using hq), List.cons_append]

/-- Last entries stand in the order in which they came. -/
theorem lastEntries_sublist (ps : List (κ × α)) : (lastEntries ps).Sublist ps := by
  induction ps with
  | nil => exact .slnil
  | cons p rest ih =>
    rw [lastEntries]
    split
    · exact ih.cons p
    · exact ih.cons_cons p

example : lastEntries [(1, 'a'), (2, 'b'), (1, 'c')] = [(2, 'b'), (1, 'c')] := by decide

end Entries

section Distinct

variable {α : Type} [BEq α] [LawfulBEq α]

private theorem eraseDups_append_singleton (xs : List α) (x : α) :
    (xs ++ [x]).eraseDups =
      if x ∈ xs.eraseDups then xs.eraseDups else xs.eraseDups ++ [x] := by
  rw [List.eraseDups_append]
  by_cases hx : x ∈ xs <;> simp [List.removeAll, hx, List.eraseDups_cons]

private theorem length_eraseDups_le (xs : List α) :
    xs.eraseDups.length ≤ xs.length := by
  induction xs using List.reverseRecOn with
  | nil => exact Nat.le_refl _
  | append_singleton xs x ih =>
    rw [eraseDups_append_singleton]
    split <;> simp only [List.length_append, List.length_singleton] <;> omega

end Distinct

/-! ## Hosts that add elements -/

/-- A host keeps the container of a view: an array appends, a set appends what it does not hold yet,
and a map appends an entry while that of its key goes. -/
structure Keeps {σ : Type} (view : View σ) (host : Primitives σ)
    (contents : σ → Option Contents) : Prop extends Stores view host contents where
  arrayAdd {s : σ} {items : List Bytes} {d : Bytes} : contents s = some (.array items) →
    ∃ t, (host.arrayAdd view.owner view.prop d).runOn s = (.ok (.int 0), t) ∧
      contents t = some (.array (items ++ [d]))
  setAdd {s : σ} {items : List Bytes} {d : Bytes} : contents s = some (.set items) →
    ∃ t, (host.setAdd view.owner view.prop d).runOn s = (.ok (.int 0), t) ∧
      contents t = some (.set (if d ∈ items then items else items ++ [d]))
  mapAdd {s : σ} {pairs : List (Bytes × Bytes)} {k v : Bytes} : contents s = some (.map pairs) →
    ∃ t, (host.mapAdd view.owner view.prop k v).runOn s = (.ok (.int 0), t) ∧
      contents t = some (.map (pairs.filter (fun p => p.1 ≠ k) ++ [(k, v)]))

namespace Engine

variable {e : Engine} {owner prop : Int}

theorem beq_bytes {v : Value} {d : Bytes} (h : v.byteString? = some d) (d' : Bytes) :
    (v == .bytes d') = (d == d') := by
  cases v <;> cases h <;> rfl

/-- The engine compares elements as values, which for byte strings compares the bytes. -/
private theorem any_beq_bytes {items : List Value} {ds : List Bytes}
    (h : List.Forall₂ (fun v d => v.byteString? = some d) items ds) (d : Bytes) :
    items.any (fun v => v == .bytes d) = decide (d ∈ ds) := by
  induction h with
  | nil => rfl
  | @cons v d' _ _ hv _ ih =>
    rw [List.any_cons, ih, beq_bytes hv, Bool.eq_iff_iff, Bool.or_eq_true, beq_iff_eq,
      decide_eq_true_iff, decide_eq_true_iff, List.mem_cons]
    exact or_congr_left eq_comm

/-- A change of a container that leaves its elements as they are. -/
theorem alter_none_of_found (h : e.Finds owner)
    {f : List Value → Except Fault (Value × Option (List Value))} {code : Value}
    (hf : f (e.items (.int owner, .int prop)) = .ok (code, none)) :
    alter (.int owner, .int prop) f e = .ok (code, e) := by
  simp only [alter, h, hf]
  rfl

/-- The keys and the values of the entries of a map. -/
private theorem exists_mapM_pairOf {items : List Value} {pairs : List (Bytes × Bytes)}
    (h : List.Forall₂ (fun v p => pairBytes? v = some p) items pairs) :
    ∃ split : List (Value × Value), items.mapM pairOf = .ok split ∧
      List.Forall₂ (fun q p => q.1.byteString? = some p.1 ∧ q.2.byteString? = some p.2)
        split pairs := by
  induction h with
  | nil => exact ⟨[], rfl, .nil⟩
  | cons hv _ ih =>
    obtain ⟨key, value, hpair, hkey, hvalue⟩ := pair_of_pairBytes hv
    obtain ⟨split, hsplit, hbytes⟩ := ih
    refine ⟨(key, value) :: split, ?_, .cons ⟨hkey, hvalue⟩ hbytes⟩
    rw [List.mapM_cons, hpair, hsplit]
    rfl

/-- The entries of a map without that of a key. -/
theorem exists_withoutKey {items : List Value} {pairs : List (Bytes × Bytes)}
    (h : List.Forall₂ (fun v p => pairBytes? v = some p) items pairs) (k : Bytes) :
    ∃ rest, withoutKey k items = .ok rest ∧
      List.Forall₂ (fun v p => pairBytes? v = some p) rest (pairs.filter fun p => p.1 ≠ k) := by
  obtain ⟨split, hsplit, hbytes⟩ := exists_mapM_pairOf h
  refine ⟨_, by rw [withoutKey, hsplit]; rfl, ?_⟩
  clear hsplit h
  rw [List.forall₂_map_left_iff]
  induction hbytes with
  | nil => exact .nil
  | @cons q p _ _ hq _ ih =>
    have hbeq : (q.1 != .bytes k) = !(p.1 == k) := congrArg (! ·) (beq_bytes hq.1 k)
    have hpair : pairBytes? (.list [q.1, q.2]) = some p := by
      rw [pairBytes?, show pairOf (.list [q.1, q.2]) = .ok (q.1, q.2) from rfl]
      simp only [hq.1, hq.2, Option.bind_eq_bind, Option.bind_some]
      rfl
    by_cases hk : p.1 = k
    · rwa [List.filter_cons_of_neg (by simp [hbeq, hk]), List.filter_cons_of_neg (by simp [hk])]
    · rw [List.filter_cons_of_pos (by simp [hbeq, hk]), List.filter_cons_of_pos (by simpa using hk)]
      exact .cons hpair ih

/-- The engine keeps the containers of an owner while a condition holds. -/
theorem keeps_while {holds : Engine → Prop} [DecidablePred holds]
    (report : CallRecord → Act Engine Unit) (fire : Location → Value → Act Engine Value)
    (shape : Shape) (owner prop : Int) (hcondition : Condition owner holds) :
    let host := primitives .whole report fire
    Keeps { dispatch := pure host, owner := .int owner, prop := .int prop } host
      (contentsWhile holds shape owner prop) where
  toStores := stores_while report fire shape owner prop hcondition
  arrayAdd {e items d} h := by
    obtain ⟨hholds, hitems, rfl⟩ := holds_of_contents h
    cases hitems with
    | array hitems =>
      have hadd : Holds (e.items (.int owner, .int prop) ++ [.bytes d]) (.array (items ++ [d])) :=
        .array (List.rel_append hitems (.cons rfl .nil))
      exact ⟨_, runOn_tell (hcondition.faults hholds)
        (alter_of_found (hcondition.finds hholds) rfl),
        contentsWhile_withItems hcondition hholds hadd⟩
  setAdd {e items d} h := by
    have ⟨hholds, hitems, hshape⟩ := holds_of_contents h
    obtain rfl := hshape
    cases hitems with
    | set hitems =>
      have hany := any_beq_bytes hitems d
      by_cases hd : d ∈ items
      · rw [decide_eq_true hd] at hany
        refine ⟨e, runOn_tell (hcondition.faults hholds)
          (alter_none_of_found (hcondition.finds hholds) ?_), by rwa [if_pos hd]⟩
        rw [if_pos hany]
        rfl
      · rw [decide_eq_false hd] at hany
        have hadd : Holds (e.items (.int owner, .int prop) ++ [.bytes d]) (.set (items ++ [d])) :=
          .set (List.rel_append hitems (.cons rfl .nil))
        rw [if_neg hd]
        refine ⟨_, runOn_tell (hcondition.faults hholds)
          (alter_of_found (hcondition.finds hholds) ?_),
          contentsWhile_withItems hcondition hholds hadd⟩
        rw [hany]
        rfl
  mapAdd {e pairs k v} h := by
    obtain ⟨hholds, hitems, rfl⟩ := holds_of_contents h
    cases hitems with
    | map hitems =>
      obtain ⟨rest, hrest, hpairs⟩ := exists_withoutKey hitems k
      have hadd : Holds (rest ++ [.list [.bytes k, .bytes v]])
          (.map (pairs.filter (fun p => p.1 ≠ k) ++ [(k, v)])) :=
        .map (List.rel_append hpairs (.cons rfl .nil))
      refine ⟨_, runOn_tell (hcondition.faults hholds)
        (alter_of_found (hcondition.finds hholds) ?_),
        contentsWhile_withItems hcondition hholds hadd⟩
      rw [hrest]
      rfl

end Engine

/-! ## Codecs -/

/-- Whatever is packed fills its slot. -/
theorem Wire.length_of_pack {w : Wire} {v : Value} {d : Bytes} (h : w.pack v = .ok d) :
    d.length = w.size := by
  have haddress {v : Value} {d : Bytes} (h : packAddress v = .ok d) : d.length = 8 := by
    obtain ⟨n, -, rfl⟩ := packAddress_eq_ok_iff.1 h
    exact IntType.length_encode _ n
  cases w with
  | bool =>
    obtain rfl := Except.ok.inj h
    rfl
  | int t =>
    obtain ⟨n, -, hn⟩ := Outcome.bind_eq_ok_iff.1
      (show (v.toInt >>= fun n => .ok (t.encode n)) = _ by
        rw [← h, pack]
        cases v.toInt <;> rfl)
    obtain rfl := Except.ok.inj hn
    exact t.length_encode n
  | f32 =>
    obtain ⟨x, -, hx⟩ := Outcome.bind_eq_ok_iff.1 (show (packedDouble v >>= _) = _ from h)
    split at hx
    · cases hx
    · obtain rfl := Except.ok.inj hx
      exact Bytes.length_ofNat ..
  | f64 =>
    obtain ⟨x, -, hx⟩ := Outcome.bind_eq_ok_iff.1 (show (packedDouble v >>= _) = _ from h)
    obtain rfl := Except.ok.inj hx
    exact Bytes.length_ofNat ..
  | handle => exact haddress h
  | name => exact haddress h

theorem Wire.unpack_of_le {w : Wire} {d : Bytes} (h : w.size ≤ d.length) :
    w.unpack d = .ok (w.decode (d.take w.size)) := if_neg (Nat.not_lt.2 h)

/-- A class answers for every integer, also if it has no members. -/
theorem EnumClass.exists_fromValue {c : EnumClass} (hc : c.Unshadowed) (n : Int) :
    ∃ found, c.fromValue (.int n) = .ok found := by
  by_cases hvariants : c.layout.variants = []
  · have hplain : c.isPlain = true := by simp [isPlain, hvariants]
    have hshadow : c.shadowed? = none := by
      unfold shadowed?
      split
      · exact absurd (by simp [*]) hc.name
      · exact absurd (by simp [*]) hc.name
      · rfl
    have hof : c.intOf (.int n) = .ok n := by simp [intOf, hc.converts, hplain, Value.toInt]
    refine ⟨some (.int (c.layout.repr.wrap n)), ?_⟩
    simp [fromValue, hplain, hof, hshadow, bind, Except.bind, pure, Except.pure]
  · exact ⟨_, fromValue_int hc hvariants n⟩

namespace ElementCodec

/-- A codec that reads all that it writes. What is stored of an enum is an integer, and its class
answers for every one. -/
inductive ReadsBack : ElementCodec → Prop where
  | slot (w : Wire) : ReadsBack (slot w)
  | name : ReadsBack name
  | object : ReadsBack object
  | text : ReadsBack text
  | struct : ReadsBack struct
  | enum (e : EnumClass) (t : IntType) : e.Unshadowed → ReadsBack (enum e (.int t))

variable {codec : ElementCodec}

/-- The fewest bytes that an element can be read from. -/
def leastSize : ElementCodec → Nat
  | slot w | enum _ w => w.size
  | name => Wire.name.size
  | object => Wire.handle.size
  | text | struct | stray _ => 0

/-- The buffer of a codec holds enough bytes to be read. -/
theorem leastSize_le_bufferSize {size : Nat} (h : codec.bufferSize = .ok size) :
    codec.leastSize ≤ size := by
  cases codec <;> cases h <;> first | exact Nat.le_refl _ | exact Nat.zero_le _

/-- What is written of an element can be read from. -/
theorem leastSize_le_of_encode {v : Value} {d : Bytes} (h : codec.encode v = .ok d) :
    codec.leastSize ≤ d.length := by
  cases codec with
  | slot w => exact (Wire.length_of_pack h).ge
  | name =>
    obtain ⟨n, -, hn⟩ := Outcome.bind_eq_ok_iff.1 (show (v.nameIndex >>= _) = _ from h)
    exact (Wire.length_of_pack hn).ge
  | object =>
    obtain ⟨n, -, hn⟩ := Outcome.bind_eq_ok_iff.1 (show (v.rawHandle >>= _) = _ from h)
    exact (Wire.length_of_pack hn).ge
  | enum e w =>
    obtain ⟨n, -, hn⟩ := Outcome.bind_eq_ok_iff.1 (show (v.toInt >>= _) = _ from h)
    exact (Wire.length_of_pack hn).ge
  | text | struct | stray _ => exact Nat.zero_le _

/-- Bytes that are enough are read, whatever they are. -/
theorem ReadsBack.decode_of_length (h : codec.ReadsBack) {d : Bytes}
    (hd : codec.leastSize ≤ d.length) : ∃ v, codec.decode d = .ok v := by
  cases h with
  | slot w => exact ⟨_, Wire.unpack_of_le hd⟩
  | name => exact ⟨_, congrArg (Value.name <$> ·) (Wire.unpack_of_le (w := .name) hd)⟩
  | object => exact ⟨_, congrArg (Value.refTo <$> ·) (Wire.unpack_of_le (w := .handle) hd)⟩
  | text => exact ⟨_, rfl⟩
  | struct => exact ⟨_, rfl⟩
  | enum e t hclass =>
    obtain ⟨found, hfound⟩ :=
      EnumClass.exists_fromValue hclass (t.decode (d.take (Wire.int t).size))
    have hmember : (ElementCodec.enum e (.int t)).decode d =
        memberOr e (.int (t.decode (d.take (Wire.int t).size))) := by
      rw [ElementCodec.decode, Wire.unpack_of_le (w := .int t) hd]
      rfl
    rw [hmember, memberOr, hfound]
    exact ⟨_, rfl⟩

/-- The bytes of a key and of a value. -/
def encodePair (keys values : ElementCodec) (p : Value × Value) : Except Fault (Bytes × Bytes) := do
  return (← keys.encode p.1, ← values.encode p.2)

end ElementCodec

/-! ## Filling a container -/

/-- A pass over a list whose steps add to what holds of those before. -/
theorem Act.exists_runOn_forM {σ α β : Type} {f : α → Act σ Unit} {R : α → β → Prop}
    {xs : List α} {ys : List β} (h : List.Forall₂ R xs ys) (holds : List β → σ → Prop)
    (hstep : ∀ before x y s, R x y → holds before s →
      ∃ t, (f x).runOn s = (.ok (), t) ∧ holds (before ++ [y]) t)
    (before : List β) {s : σ} (hs : holds before s) :
    ∃ t, (xs.forM f).runOn s = (.ok (), t) ∧ holds (before ++ ys) t := by
  induction h generalizing before s with
  | nil => exact ⟨s, rfl, by simpa using hs⟩
  | @cons x y _ ys hxy _ ih =>
    obtain ⟨t, hx, ht⟩ := hstep before x y s hxy hs
    obtain ⟨u, hrest, hu⟩ := ih _ ht
    refine ⟨u, ?_, by simpa using hu⟩
    rw [List.forM_eq_forM, List.forM_cons, Act.runOn_bind, hx]
    exact hrest

namespace View

variable {σ : Type} (view : View σ)

/-- The pairs that are added to a map: the entries of a table, or the members of a collection. -/
def pairsOf (pairs : Value) : Except Fault (List (Value × Value)) :=
  match pairs with
  | .table entries => .ok entries
  | _ => do (← pairs.items).mapM pairOf

/-- Pairs that can all be taken apart are added one after the other. -/
theorem runOn_addPairs {keys values : ElementCodec} {pairs : Value} {kvs : List (Value × Value)}
    (h : pairsOf pairs = .ok kvs) (s : σ) :
    (view.addPairs keys values pairs).runOn s =
      (kvs.forM fun p => view.addPair keys values p.1 p.2).runOn s := by
  unfold addPairs
  unfold pairsOf at h
  split at h
  · obtain rfl := Except.ok.inj h
    rfl
  · obtain ⟨items, hitems, hsplit⟩ := Outcome.bind_eq_ok_iff.1 h
    simp only [Act.runOn_bind, hitems, Act.runOn_liftM]
    have hpairs := Outcome.mapM_eq_ok_iff.1 hsplit
    clear hsplit hitems h
    simp only [List.forM_eq_forM] at *
    -- A pair that cannot be taken apart would end the pass, but here all of them can.
    induction hpairs generalizing s with
    | nil => rfl
    | @cons v p _ _ hv _ ih =>
      simp only [List.forM_cons, Act.runOn_bind, hv, Act.runOn_liftM]
      rcases (view.addPair keys values p.1 p.2).runOn s with ⟨_ | _, t⟩
      · rfl
      · exact ih t

end View

namespace Keeps

variable {σ : Type} {view : View σ} {host : Primitives σ} {contents : σ → Option Contents}
  {s : σ} (h : Keeps view host contents)

include h

/-- An array holds the encodings in order. -/
theorem runOn_extendArray (hs : contents s = some (.array [])) {codec : ElementCodec}
    {vs : List Value} {data : List Bytes} (hdata : vs.mapM codec.encode = .ok data) :
    ∃ t, (view.extendArray codec vs).runOn s = (.ok (), t) ∧ contents t = some (.array data) := by
  refine Act.exists_runOn_forM (Outcome.mapM_eq_ok_iff.1 hdata)
    (fun before s => contents s = some (.array before)) (fun before v d s hv hs => ?_) [] hs
  obtain ⟨t, hadd, ht⟩ := h.arrayAdd (d := d) hs
  refine ⟨t, ?_, ht⟩
  simp only [View.push, View.perform, Act.runOn_bind, h.dispatch hs, hv, Act.runOn_liftM, hadd,
    View.runOn_accept]

/-- A set holds the encodings, each where it came first. -/
theorem runOn_extendSet (hs : contents s = some (.set [])) {codec : ElementCodec}
    {vs : List Value} {data : List Bytes} (hdata : vs.mapM codec.encode = .ok data) :
    ∃ t, (view.extendSet codec vs).runOn s = (.ok (), t) ∧
      contents t = some (.set data.eraseDups) := by
  refine Act.exists_runOn_forM (Outcome.mapM_eq_ok_iff.1 hdata)
    (fun before s => contents s = some (.set before.eraseDups)) (fun before v d s hv hs => ?_) [] hs
  obtain ⟨t, hadd, ht⟩ := h.setAdd (d := d) hs
  refine ⟨t, ?_, by rw [ht, eraseDups_append_singleton]⟩
  simp only [View.add, View.perform, Act.runOn_bind, h.dispatch hs, hv, Act.runOn_liftM, hadd,
    View.runOn_accept]

/-- A map holds the encodings, each key where it came last. -/
theorem runOn_addPairs (hs : contents s = some (.map [])) {keys values : ElementCodec}
    {pairs : Value} {kvs : List (Value × Value)} {data : List (Bytes × Bytes)}
    (hpairs : View.pairsOf pairs = .ok kvs)
    (hdata : kvs.mapM (keys.encodePair values) = .ok data) :
    ∃ t, (view.addPairs keys values pairs).runOn s = (.ok (), t) ∧
      contents t = some (.map (lastEntries data)) := by
  rw [view.runOn_addPairs hpairs]
  refine Act.exists_runOn_forM (Outcome.mapM_eq_ok_iff.1 hdata)
    (fun before s => contents s = some (.map (lastEntries before)))
    (fun before p d s hp hs => ?_) [] hs
  obtain ⟨k, hk, hp⟩ := Outcome.bind_eq_ok_iff.1 hp
  obtain ⟨v, hv, hp⟩ := Outcome.bind_eq_ok_iff.1 hp
  obtain rfl := Except.ok.inj hp
  obtain ⟨t, hadd, ht⟩ := h.mapAdd (k := k) (v := v) hs
  refine ⟨t, ?_, by rw [ht, lastEntries_append]⟩
  simp only [View.addPair, View.perform, Act.runOn_bind, h.dispatch hs, hk, hv, Act.runOn_liftM,
    hadd, View.runOn_accept]

end Keeps

/-- Reading an empty container after it was filled with values whose encodings fit into the buffers.
An array gives back all of them in order, as they are decoded from their encodings; a set gives each
encoding where it came first; a map gives each encoded key once, where it came last and with the
value that came with it then, whether its pairs were the entries of a table or the members of a
collection. Encodings can be decoded, those of enums as long as their classes answer. -/
theorem read_after_write {σ : Type} {view : View σ} {host : Primitives σ}
    {contents : σ → Option Contents} (h : Keeps view host contents) (s : σ) :
    (∀ (codec : ElementCodec) (vs : List Value) (data : List Bytes),
      contents s = some (.array []) → vs.length ≤ View.maxLength →
      vs.mapM codec.encode = .ok data → (∀ d ∈ data, codec.Fits d) →
      ∃ t, (view.extendArray codec vs).runOn s = (.ok (), t) ∧
        (view.arrayList codec).runOn t =
          (vs.mapM fun v => codec.encode v >>= codec.decode, t)) ∧
    (∀ (codec : ElementCodec) (vs : List Value) (data : List Bytes),
      contents s = some (.set []) → vs.length ≤ View.maxLength →
      vs.mapM codec.encode = .ok data → (∀ d ∈ data, codec.Fits d) →
      ∃ t, (view.extendSet codec vs).runOn s = (.ok (), t) ∧
        (view.setList codec).runOn t = (data.eraseDups.mapM codec.decode, t)) ∧
    (∀ (keys values : ElementCodec) (pairs : Value) (kvs : List (Value × Value))
      (data : List (Bytes × Bytes)),
      contents s = some (.map []) → View.pairsOf pairs = .ok kvs → kvs.length ≤ View.maxLength →
      kvs.mapM (keys.encodePair values) = .ok data →
      (∀ p ∈ data, keys.Fits p.1 ∧ values.Fits p.2) →
      ∃ t, (view.addPairs keys values pairs).runOn s = (.ok (), t) ∧
        (view.pairList keys values).runOn t =
          ((lastEntries data).mapM (keys.decodePair values), t)) ∧
    ∀ codec : ElementCodec, codec.ReadsBack → ∀ v d, codec.encode v = .ok d →
      ∃ w, codec.decode d = .ok w := by
  refine ⟨?_, ?_, ?_, fun codec hcodec v d hd =>
    hcodec.decode_of_length (ElementCodec.leastSize_le_of_encode hd)⟩
  · intro codec vs data hs hmax hdata hfits
    have hlength : vs.length = data.length := (Outcome.mapM_eq_ok_iff.1 hdata).length_eq
    obtain ⟨t, hwrite, ht⟩ := h.runOn_extendArray hs hdata
    refine ⟨t, hwrite, ?_⟩
    rw [← ElementCodec.mapM_decode hdata]
    exact h.runOn_arrayList ht (hlength ▸ hmax) hfits
  · intro codec vs data hs hmax hdata hfits
    have hlength : vs.length = data.length := (Outcome.mapM_eq_ok_iff.1 hdata).length_eq
    have hle := length_eraseDups_le data
    obtain ⟨t, hwrite, ht⟩ := h.runOn_extendSet hs hdata
    exact ⟨t, hwrite, h.runOn_setList ht (by omega) fun d hd => hfits d (List.mem_eraseDups.1 hd)⟩
  · intro keys values pairs kvs data hs hpairs hmax hdata hfits
    have hlength : kvs.length = data.length := (Outcome.mapM_eq_ok_iff.1 hdata).length_eq
    have hle := (lastEntries_sublist data).length_le
    obtain ⟨t, hwrite, ht⟩ := h.runOn_addPairs hs hpairs hdata
    exact ⟨t, hwrite, h.runOn_pairList ht (by omega) fun p hp =>
      hfits p ((lastEntries_sublist data).subset hp)⟩

/-! ## A temporary of the engine -/

namespace Engine

/-- An engine whose primitives all do their work, with a temporary that is not freed. -/
def Stages (base : Int) (e : Engine) : Prop := e.faults = [] ∧ base ∈ e.temporaries

instance (base : Int) (e : Engine) : Decidable (Stages base e) :=
  inferInstanceAs (Decidable (e.faults = [] ∧ base ∈ e.temporaries))

private theorem condition_stages (base : Int) : Condition base (Stages base) where
  faults h := h.1
  finds h := finds_of_mem (List.mem_append_right _ h.2)
  withItems h := h

end Engine

/-- The engine after it allocated a temporary for a property. -/
def stagedEngine : Engine := ((containerHost.allocTemp (.int 2)).runOn {}).2

def stagedView : View Engine where
  dispatch := pure containerHost
  owner := .int 4112
  prop := .int 2

/-- A set of bytes takes two integers with one encoding for one element. -/
theorem read_after_write_temporary :
    ((containerHost.allocTemp (.int 2)).runOn {}).1 = .ok (.int 4112) ∧
    ∃ t, (stagedView.extendSet (.slot (.int .i8)) [.int 1, .int 257, .int 2]).runOn stagedEngine =
        (.ok (), t) ∧
      (stagedView.setList (.slot (.int .i8))).runOn t = (.ok [.int 1, .int 2], t) := by
  have hkeeps : Keeps stagedView containerHost
      (Engine.contentsWhile (Engine.Stages 4112) .set 4112 2) :=
    Engine.keeps_while _ _ .set 4112 2 (Engine.condition_stages 4112)
  have hempty : Engine.contentsWhile (Engine.Stages 4112) .set 4112 2 stagedEngine =
      some (.set []) := rfl
  have hfits : ∀ d ∈ ([[1], [1], [2]] : List Bytes), (ElementCodec.slot (.int .i8)).Fits d := by
    have hsize : ∀ d ∈ ([[1], [1], [2]] : List Bytes), d.length ≤ 1 := by decide
    exact fun d hd => ⟨1, rfl, hsize d hd⟩
  exact ⟨rfl, (read_after_write hkeeps stagedEngine).2.1 (.slot (.int .i8)) _ _ hempty (by decide)
    rfl hfits⟩

end Bindery
