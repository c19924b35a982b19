import Bindery.Container.View
import Bindery.Engine.Primitives
import Bindery.Proofs.Effect
import Bindery.Proofs.Outcome

/-!
# Hosts that store byte strings

What the views take for granted of the container that they address: its host stores byte strings,
hands them out one by one, cut to the size that is asked for, or all at once as frames, and takes
frames to replace them all.

* `Contents`: what a container holds.
* `Stores`: a host stores the container of a view.
* `Engine.stores_while`: so does the engine while its primitives do their work for the owner, and
  `Engine.stores` for an owner that is live.
-/

namespace Bindery

open Host

/-! ## What is stored -/

/-- What a container holds: byte strings, or pairs of them. -/
inductive Contents where
  | array (items : List Bytes)
  | set (items : List Bytes)
  | map (pairs : List (Bytes × Bytes))

namespace Contents

/-- The shape of the container. -/
def shape : Contents → Shape
  | array _ => .array
  | set _ => .set
  | map _ => .map

/-- Number of elements. -/
def length : Contents → Nat
  | array items | set items => items.length
  | map pairs => pairs.length

/-- The byte strings in the order of a bulk copy: in a map every key is followed by its value. -/
def parts : Contents → List Bytes
  | array items | set items => items
  | map pairs => pairs.flatMap fun p => [p.1, p.2]

end Contents

/-- A host stores the container of a view: `contents` is what it holds in a state, if it is there.
Reading changes nothing. -/
structure Stores {σ : Type} (view : View σ) (host : Primitives σ)
    (contents : σ → Option Contents) : Prop where
  dispatch {s : σ} {c : Contents} : contents s = some c → view.dispatch.runOn s = (.ok host, s)
  count {s : σ} {c : Contents} : contents s = some c →
    (host.count c.shape view.owner view.prop).runOn s = (.ok (.int c.length), s)
  copyAll {s : σ} {c : Contents} : contents s = some c →
    (∀ d ∈ c.parts, d.length < Nat.pow 2 32) →
    (host.copyAll c.shape view.owner view.prop).runOn s =
      (.ok (.int 0, Bytes.frames c.parts, c.length), s)
  arrayGet {s : σ} {items : List Bytes} {i size : Nat} {d : Bytes} :
    contents s = some (.array items) → items[i]? = some d →
    (host.arrayGet view.owner view.prop (.int i) size).runOn s =
      (.ok (.int 0, .bytes (d.take size)), s)
  setGet {s : σ} {items : List Bytes} {i size : Nat} {d : Bytes} :
    contents s = some (.set items) → items[i]? = some d →
    (host.setGet view.owner view.prop (.int i) size).runOn s =
      (.ok (.int 0, .bytes (d.take size)), s)
  mapPair {s : σ} {pairs : List (Bytes × Bytes)} {i keySize valueSize : Nat} {k v : Bytes} :
    contents s = some (.map pairs) → pairs[i]? = some (k, v) →
    (host.mapPair view.owner view.prop (.int i) keySize valueSize).runOn s =
      (.ok (.int 0, .bytes (k.take keySize), .bytes (v.take valueSize)), s)
  arraySetAll {s : σ} {items parts : List Bytes} {count : Nat} {data : Bytes} :
    contents s = some (.array items) → Bytes.unframe count data = some parts →
    ∃ t, (host.arraySetAll view.owner view.prop data count).runOn s = (.ok (.int 0), t) ∧
      contents t = some (.array parts)

/-! ## Passes over lists -/

private theorem forall₂_of_mapM {α β : Type} {f : α → Option β} {xs : List α} {ys : List β}
    (h : xs.mapM f = some ys) : List.Forall₂ (fun x y => f x = some y) xs ys := by
  induction xs generalizing ys with
  | nil => cases h; exact .nil
  | cons x xs ih =>
    simp only [List.mapM_cons, Option.bind_eq_bind, Option.bind_eq_some_iff, Option.pure_def,
      Option.some.injEq] at h
    obtain ⟨y, hx, rest, hrest, rfl⟩ := h
    exact .cons hx (ih hrest)

private theorem mapM_some_of_forall₂ {α β : Type} {f : α → Option β} {xs : List α} {ys : List β}
    (h : List.Forall₂ (fun x y => f x = some y) xs ys) : xs.mapM f = some ys := by
  induction h with
  | nil => rfl
  | cons hx _ ih => simp [List.mapM_cons, hx, ih]

/-- What stands at an index of the second list stands there in the first one too. -/
theorem exists_getElem_of_forall₂ {α β : Type} {R : α → β → Prop} {xs : List α} {ys : List β}
    (h : List.Forall₂ R xs ys) {i : Nat} {y : β} (hy : ys[i]? = some y) :
    ∃ x, xs[i]? = some x ∧ R x y := by
  induction h generalizing i with
  | nil => simp at hy
  | @cons x y' _ _ hxy _ ih =>
    cases i with
    | zero => exact ⟨x, rfl, by simpa using (Option.some.inj hy) ▸ hxy⟩
    | succ i => exact ih (by simpa using hy)

/-! ## The engine -/

namespace Engine

/-- The byte strings of an element of a map. -/
def pairBytes? (element : Value) : Option (Bytes × Bytes) :=
  match pairOf element with
  | .ok (key, value) => do return (← key.byteString?, ← value.byteString?)
  | .error _ => none

/-- What some elements are as the elements of a container of a shape. -/
def contentsOf : Shape → List Value → Option Contents
  | .array, items => .array <$> items.mapM Value.byteString?
  | .set, items => .set <$> items.mapM Value.byteString?
  | .map, items => .map <$> items.mapM pairBytes?

/-- Whether an owner of containers is there: a live object, or a temporary that is not freed. -/
abbrev Finds (owner : Int) (e : Engine) : Prop := e.isGone (.int owner) = .ok false

/-- An engine whose primitives all do their work, with an owner that is there. -/
def Serves (owner : Int) (e : Engine) : Prop := e.faults = [] ∧ owner ∈ e.live

instance (owner : Int) (e : Engine) : Decidable (Serves owner e) :=
  inferInstanceAs (Decidable (e.faults = [] ∧ owner ∈ e.live))

/-- What the container of an owner and a property holds, taken to be of a shape. -/
def contents (shape : Shape) (owner prop : Int) (e : Engine) : Option Contents :=
  if e.Serves owner then contentsOf shape (e.items (.int owner, .int prop)) else none

/-- A condition under which the primitives do their work for an owner. Other elements in a container
do not end it. -/
structure Condition (owner : Int) (holds : Engine → Prop) : Prop where
  faults {e : Engine} : holds e → e.faults = []
  finds {e : Engine} : holds e → e.Finds owner
  withItems {e : Engine} {loc : Location} {items : List Value} :
    holds e → holds (e.withItems loc items)

/-- What the container of an owner and a property holds while a condition does. -/
def contentsWhile (holds : Engine → Prop) [DecidablePred holds] (shape : Shape) (owner prop : Int)
    (e : Engine) : Option Contents :=
  if holds e then contentsOf shape (e.items (.int owner, .int prop)) else none

variable {α : Type} {e : Engine} {owner prop : Int}

/-- Without faults that are set up, a primitive does its work. -/
theorem runOn_work (h : e.faults = []) (primitive : String) (answer : Value → α)
    (f : Act Engine α) : (work .whole primitive answer f).runOn e = f.runOn e := by
  simp only [work, Part.runOn_within, Part.whole_get, faulty, Act.runOn_bind, Part.runOn_read, h,
    Assoc.get?]
  rfl

theorem runOn_ask (h : e.faults = []) (primitive : String) (answer : Value → α)
    (f : Engine → Except Fault α) : (ask .whole primitive answer f).runOn e = (f e, e) := by
  rw [ask, runOn_work h, Act.runOn_bind, Part.runOn_read]
  exact Act.runOn_ofExcept ..

theorem runOn_tell (h : e.faults = []) {primitive : String}
    {f : Engine → Except Fault (Value × Engine)} {code : Value} {t : Engine}
    (hf : f e = .ok (code, t)) : (tell .whole primitive f).runOn e = (.ok code, t) := by
  rw [tell, runOn_work h, Act.runOn_bind, Part.runOn_read]
  simp only [Part.whole_get, Act.runOn_bind, Act.runOn_ofExcept, hf]
  rfl

/-- An owner that is live, or temporary and not freed, is there. -/
theorem finds_of_mem (h : owner ∈ e.live ++ e.temporaries) : e.Finds owner := by
  have hany : (e.live ++ e.temporaries).any (fun n => Value.int owner == .int n) = true :=
    List.any_eq_true.mpr ⟨owner, h, beq_self_eq_true owner⟩
  have hamong : isAmong (.int owner) (e.live ++ e.temporaries) = .ok true := congrArg Except.ok hany
  rw [Finds, isGone, hamong]
  rfl

theorem atKey_int (operation : Engine → Except Fault α) :
    atKey (.int owner, .int prop) operation e = operation e := rfl

theorem look_of_found (h : e.Finds owner) (default : α)
    (f : List Value → Except Fault (Value × α)) :
    look (.int owner, .int prop) default f e = f (e.items (.int owner, .int prop)) := by
  simp only [look, h]
  rfl

theorem alter_of_found (h : e.Finds owner)
    {f : List Value → Except Fault (Value × Option (List Value))} {code : Value}
    {items : List Value} (hf : f (e.items (.int owner, .int prop)) = .ok (code, some items)) :
    alter (.int owner, .int prop) f e =
      .ok (code, e.withItems (.int owner, .int prop) items) := by
  simp only [alter, h, hf]
  rfl

/-- The elements that were put in are found there. -/
private theorem items_withItems (items : List Value) :
    (e.withItems (.int owner, .int prop) items).items (.int owner, .int prop) = items := by
  have hself : (((.int owner, .int prop) : Location) == (.int owner, .int prop)) = true :=
    Bool.and_eq_true_iff.mpr ⟨beq_self_eq_true owner, beq_self_eq_true prop⟩
  simp only [Engine.items, withItems, Assoc.get?_set_of_beq hself, Option.getD_some]

/-- The number of elements, whatever they are. -/
theorem count_of_found (h : e.Finds owner) :
    count (.int owner, .int prop) e =
      .ok (.int (e.items (.int owner, .int prop)).length) := by
  simp only [count, h]
  rfl

/-- A byte string is handed out up to the size that is asked for. -/
theorem cut_of_byteString {v : Value} {d : Bytes} (h : v.byteString? = some d) (size : Nat) :
    v.cut size = .ok (.bytes (d.take size)) := by
  cases v <;> simp_all [Value.byteString?, Value.cut]

theorem pair_of_pairBytes {element : Value} {k v : Bytes} (h : pairBytes? element = some (k, v)) :
    ∃ key value, pairOf element = .ok (key, value) ∧ key.byteString? = some k ∧
      value.byteString? = some v := by
  unfold pairBytes? at h
  split at h
  next key value hpair =>
    simp only [Option.bind_eq_bind, Option.bind_eq_some_iff, Option.pure_def, Option.some.injEq,
      Prod.mk.injEq] at h
    obtain ⟨k', hk, v', hv, rfl, rfl⟩ := h
    exact ⟨key, value, hpair, hk, hv⟩
  next => cases h

/-- An index at which an element stands. -/
theorem placeIn_of_getElem? {items : List Value} {i : Nat} {v : Value} (hi : items[i]? = some v) :
    (Value.int i).placeIn items.length = .ok (some i) ∧ items.getD i .null = v := by
  have hplace : 0 ≤ (i : Int) ∧ (i : Int) < items.length := by
    have := (List.getElem?_eq_some_iff.mp hi).1
    omega
  exact ⟨by rw [Value.placeIn_int, if_pos hplace, Int.toNat_natCast], by simp [List.getD, hi]⟩

/-- The element at an index, cut to size. -/
private theorem elementAt_of_found (h : e.Finds owner) {i : Nat} {v : Value} {d : Bytes}
    (hi : (e.items (.int owner, .int prop))[i]? = some v) (hv : v.byteString? = some d)
    (size : Nat) :
    elementAt (.int owner, .int prop) (.int i) size e = .ok (ok, .bytes (d.take size)) := by
  obtain ⟨hplace, hget⟩ := placeIn_of_getElem? hi
  rw [elementAt, atKey_int, look_of_found h]
  simp only [hplace, Bind.bind, Except.bind, hget, cut_of_byteString hv, pure, Except.pure]

private theorem mapPair_of_found (h : e.Finds owner) {i : Nat} {element : Value} {k v : Bytes}
    (hi : (e.items (.int owner, .int prop))[i]? = some element)
    (hv : pairBytes? element = some (k, v)) (keySize valueSize : Nat) :
    mapPair (.int owner, .int prop) (.int i) keySize valueSize e =
      .ok (ok, .bytes (k.take keySize), .bytes (v.take valueSize)) := by
  obtain ⟨hplace, hget⟩ := placeIn_of_getElem? hi
  obtain ⟨key, value, hpair, hkey, hvalue⟩ := pair_of_pairBytes hv
  rw [mapPair, atKey_int, look_of_found h]
  simp only [hplace, Bind.bind, Except.bind, hget, hpair, cut_of_byteString hkey,
    cut_of_byteString hvalue, pure, Except.pure]

/-- Frames replace all elements, each by what it frames. -/
private theorem arraySetAll_of_found (h : e.Finds owner) {count : Nat} {data : Bytes}
    {parts : List Bytes}
    (hparts : Bytes.unframe count data = some parts) :
    arraySetAll (.int owner, .int prop) data count e =
      .ok (ok, e.withItems (.int owner, .int prop) (parts.map .bytes)) := by
  refine alter_of_found h ?_
  simp only [Int.toNat_natCast, hparts]
  rfl

/-- What a bulk copy answers for elements with some parts each. -/
private theorem copyAll_of_found (h : e.Finds owner) {shape : Shape} {parts : List (List Bytes)}
    (hparts : List.Forall₂ (fun element p => framedParts shape element = .ok p)
      (e.items (.int owner, .int prop)) parts)
    (hsmall : ∀ d ∈ parts.flatten, d.length < Nat.pow 2 32) :
    copyAll shape (.int owner, .int prop) e =
      .ok (ok, Bytes.frames parts.flatten, (e.items (.int owner, .int prop)).length) := by
  have hframed : parts.flatten.mapM Bytes.framed = .ok (parts.flatten.map Bytes.frame) := by
    refine Outcome.mapM_eq_ok_iff.2 (List.forall₂_map_right_iff.mpr ?_)
    refine List.forall₂_same.mpr fun d hd => ?_
    rw [Bytes.framed, if_pos (hsmall d hd)]
  rw [copyAll, look_of_found h, Outcome.mapM_eq_ok_iff.2 hparts]
  simp only [Bind.bind, Except.bind, hframed, pure, Except.pure, Bytes.frames, List.flatMap]

/-- What is stored: byte strings, or pairs of them, in the elements of the container. -/
inductive Holds : List Value → Contents → Prop where
  | array {items : List Value} {ds : List Bytes} :
    List.Forall₂ (fun v d => v.byteString? = some d) items ds → Holds items (.array ds)
  | set {items : List Value} {ds : List Bytes} :
    List.Forall₂ (fun v d => v.byteString? = some d) items ds → Holds items (.set ds)
  | map {items : List Value} {pairs : List (Bytes × Bytes)} :
    List.Forall₂ (fun v p => pairBytes? v = some p) items pairs → Holds items (.map pairs)

/-- A container of known contents is there, and its elements are those contents. -/
theorem holds_of_contents {holds : Engine → Prop} [DecidablePred holds] {shape : Shape}
    {c : Contents} (h : contentsWhile holds shape owner prop e = some c) :
    holds e ∧ Holds (e.items (.int owner, .int prop)) c ∧ shape = c.shape := by
  have hholds : holds e := by
    by_contra hnot
    rw [contentsWhile, if_neg hnot] at h
    cases h
  rw [contentsWhile, if_pos hholds] at h
  refine ⟨hholds, ?_⟩
  cases shape <;> obtain ⟨stored, hmap, rfl⟩ := Option.map_eq_some_iff.mp h
  · exact ⟨.array (forall₂_of_mapM hmap), rfl⟩
  · exact ⟨.map (forall₂_of_mapM hmap), rfl⟩
  · exact ⟨.set (forall₂_of_mapM hmap), rfl⟩

theorem Holds.length {items : List Value} {c : Contents} (h : Holds items c) :
    items.length = c.length := by
  cases h with
  | array h | set h | map h => exact h.length_eq

private theorem elementBytes_of_byteString {v : Value} {d : Bytes} (h : v.byteString? = some d) :
    elementBytes v = .ok d := by
  rw [elementBytes, h]

/-- Each element has the parts of a bulk copy, a pair its key before its value. -/
theorem Holds.parts {items : List Value} {c : Contents} (h : Holds items c) :
    ∃ parts, List.Forall₂ (fun v p => framedParts c.shape v = .ok p) items parts ∧
      parts.flatten = c.parts := by
  cases h with
  | @array ds h | @set ds h =>
    refine ⟨ds.map ([·]), List.forall₂_map_right_iff.mpr (h.imp fun v d hd => ?_), ?_⟩
    · rw [framedParts, elementBytes_of_byteString hd]
      rfl
    · exact List.flatMap_singleton' ds
  | @map pairs h =>
    refine ⟨pairs.map fun p => [p.1, p.2],
      List.forall₂_map_right_iff.mpr (h.imp fun v p hp => ?_), rfl⟩
    obtain ⟨key, value, hpair, hkey, hvalue⟩ := pair_of_pairBytes hp
    simp only [framedParts, Contents.shape, if_true, hpair, Bind.bind, Except.bind,
      elementBytes_of_byteString hkey, elementBytes_of_byteString hvalue, pure, Except.pure]

private theorem contentsOf_of_holds {items : List Value} {c : Contents} (h : Holds items c) :
    contentsOf c.shape items = some c := by
  cases h with
  | array h | set h | map h =>
    simp only [Contents.shape, contentsOf, mapM_some_of_forall₂ h]
    rfl

/-- What a container holds once it was given other elements. -/
theorem contentsWhile_withItems {holds : Engine → Prop} [DecidablePred holds]
    (hcondition : Condition owner holds) (h : holds e) {items : List Value} {c : Contents}
    (hitems : Holds items c) :
    contentsWhile holds c.shape owner prop (e.withItems (.int owner, .int prop) items) =
      some c := by
  rw [contentsWhile, if_pos (hcondition.withItems h), items_withItems, contentsOf_of_holds hitems]

/-- The engine stores the containers of an owner while a condition holds. -/
theorem stores_while {holds : Engine → Prop} [DecidablePred holds]
    (report : CallRecord → Act Engine Unit) (fire : Location → Value → Act Engine Value)
    (shape : Shape) (owner prop : Int) (hcondition : Condition owner holds) :
    let host := primitives .whole report fire
    Stores { dispatch := pure host, owner := .int owner, prop := .int prop } host
      (contentsWhile holds shape owner prop) where
  dispatch _ := rfl
  count {e c} h := by
    obtain ⟨hholds, hitems, -⟩ := holds_of_contents h
    exact (runOn_ask (hcondition.faults hholds) ..).trans
      (by rw [count_of_found (hcondition.finds hholds), hitems.length])
  copyAll {e c} h hsmall := by
    obtain ⟨hholds, hitems, -⟩ := holds_of_contents h
    obtain ⟨parts, hparts, hflat⟩ := hitems.parts
    have hcopy := copyAll_of_found (hcondition.finds hholds) hparts (hflat ▸ hsmall)
    refine (runOn_ask (hcondition.faults hholds) ..).trans ?_
    rw [hcopy, hflat, hitems.length]
    rfl
  arrayGet {e items i size d} h hi := by
    obtain ⟨hholds, hitems, -⟩ := holds_of_contents h
    -- The shape rules out the other contents.
    cases hitems with
    | array hitems =>
      obtain ⟨v, hv, hd⟩ := exists_getElem_of_forall₂ hitems hi
      exact (runOn_ask (hcondition.faults hholds) ..).trans
        (by rw [elementAt_of_found (hcondition.finds hholds) hv hd]; rfl)
  setGet {e items i size d} h hi := by
    obtain ⟨hholds, hitems, -⟩ := holds_of_contents h
    cases hitems with
    | set hitems =>
      obtain ⟨v, hv, hd⟩ := exists_getElem_of_forall₂ hitems hi
      exact (runOn_ask (hcondition.faults hholds) ..).trans
        (by rw [elementAt_of_found (hcondition.finds hholds) hv hd]; rfl)
  mapPair {e pairs i keySize valueSize k v} h hi := by
    obtain ⟨hholds, hitems, -⟩ := holds_of_contents h
    cases hitems with
    | map hpairs =>
      obtain ⟨element, hv, hd⟩ := exists_getElem_of_forall₂ hpairs hi
      exact (runOn_ask (hcondition.faults hholds) ..).trans
        (by rw [mapPair_of_found (hcondition.finds hholds) hv hd]; rfl)
  arraySetAll {e items parts count data} h hparts := by
    obtain ⟨hholds, -, rfl⟩ := holds_of_contents h
    have hbytes : Holds (parts.map .bytes) (.array parts) :=
      .array (List.forall₂_map_left_iff.mpr (List.forall₂_same.mpr fun _ _ => rfl))
    exact ⟨_, runOn_tell (hcondition.faults hholds)
      (arraySetAll_of_found (hcondition.finds hholds) hparts),
      contentsWhile_withItems hcondition hholds hbytes⟩

/-- A live owner stays live, whatever its containers are given. -/
theorem condition_serves (owner : Int) : Condition owner (Serves owner) where
  faults h := h.1
  finds h := finds_of_mem (List.mem_append_left _ h.2)
  withItems h := h

/-- The engine stores the containers of its live objects. -/
theorem stores (report : CallRecord → Act Engine Unit) (fire : Location → Value → Act Engine Value)
    (shape : Shape) (owner prop : Int) :
    let host := primitives .whole report fire
    Stores { dispatch := pure host, owner := .int owner, prop := .int prop } host
      (contents shape owner prop) :=
  stores_while report fire shape owner prop (condition_serves owner)

end Engine
end Bindery
