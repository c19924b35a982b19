import Bindery.DynamicCall
import Bindery.Engine.Primitives
import Bindery.Proofs.Association
import Bindery.Proofs.Container.RoundTrip

/-!
# Parameters of a call by name

The parameters of a call by name stand in its block, at offsets that the host reports. Which bytes
an access takes is up to the slot type that it is made with, so the parameters stay apart only as
far as their slots do.

* `LaysOut`: a host with an offset for each parameter of a function that it knows.
* `Assignment`, `Assignment.slot?`: a parameter that is given a value, and what that writes.
* `LaysOut.runOn_setParam`: one assignment; `LaysOut.runOn_assign`: assignments one after the other.
* `Engine.laysOut`: the parameters of the engine's functions.
* `parameters_stand_apart`: what is read after other parameters were given values.
-/

namespace Bindery

open Host

/-! ## What an argument writes -/

/-- What an argument is reduced to for a slot: whatever can stand for an object or a name may be
given as one. -/
def Wire.reduce (w : Wire) (v : Value) : Except Fault Value :=
  match w with
  | handle => v.rawHandle
  | name => v.nameIndex
  | _ => .ok v

private theorem Wire.ofValue_tag (w : Wire) : ofValue (.text w.tag) = .ok w := by
  rw [ofValue, ofValue?, ofTag?_tag]
  rfl

private theorem Wire.tag_eq_iff {w w' : Wire} : w.tag = w'.tag ↔ w = w' :=
  ⟨fun h => Option.some.inj (by rw [← ofTag?_tag w, h, ofTag?_tag]), congrArg tag⟩

/-- An argument is reduced for the slot of its tag, and packed there. -/
theorem DynamicCall.argument_tag (w : Wire) (v : Value) :
    argument (.text w.tag) v = w.reduce v >>= w.pack := by
  simp only [argument, Value.beq_text_iff, Value.text.injEq, Wire.tag_eq_iff, Wire.ofValue_tag]
  cases w <;> rfl

/-- What is written fills the slot of the tag. -/
theorem DynamicCall.length_of_argument {tag v : Value} {data : Bytes}
    (h : argument tag v = .ok data) : ∃ w, Wire.ofValue tag = .ok w ∧ data.length = w.size := by
  have hpack : ∀ reduced, (do (← Wire.ofValue tag).pack reduced) = .ok data →
      ∃ w, Wire.ofValue tag = .ok w ∧ data.length = w.size := fun reduced h => by
    obtain ⟨w, hw, h⟩ := Outcome.bind_eq_ok_iff.1 h
    exact ⟨w, hw, Wire.length_of_pack h⟩
  unfold argument at h
  dsimp only at h
  split at h
  · obtain ⟨handle, -, h⟩ := Outcome.bind_eq_ok_iff.1 h
    exact hpack handle h
  split at h
  · obtain ⟨index, -, h⟩ := Outcome.bind_eq_ok_iff.1 h
    exact hpack index h
  · exact hpack v h

/-! ## Hosts that lay out parameters -/

/-- A host knows the parameters of a function that have an offset, and no others. Looking for them
leaves memory as it is, and the host goes on like this whatever is in memory. -/
structure LaysOut {σ : Type} (dispatch : Act σ (Primitives σ)) (memory : Part σ Cells)
    (func : Value) (offset? : String → Option Int) (ready : σ → Prop) : Prop where
  get_set (m : Cells) (s : σ) : memory.get (memory.set m s) = m
  ready_set {m : Cells} {s : σ} : ready s → ready (memory.set m s)
  known {s : σ} {param : String} {o : Int} : ready s → offset? param = some o →
    ∃ host prop t u, dispatch.runOn s = (.ok host, s) ∧
      (host.findIn .parameter func (.text param)).runOn s = (.ok prop, t) ∧
      prop.isTruthy = true ∧ (host.measure .propertyOffset prop).runOn t = (.ok (.int o), u) ∧
      ready u ∧ memory.get u = memory.get s
  unknown {s : σ} {param : String} : ready s → offset? param = none →
    ∃ host answer t, dispatch.runOn s = (.ok host, s) ∧
      (host.findIn .parameter func (.text param)).runOn s = (answer, t) ∧
      (∀ prop, answer = .ok prop → prop.isTruthy = false) ∧ ready t ∧ memory.get t = memory.get s

/-- A parameter that is given a value. -/
structure Assignment where
  param : String
  value : Value
  tag : Value

/-- Where an assignment writes what; nothing if the parameter is not known or the value does not go
into the slot. -/
def Assignment.slot? (offset? : String → Option Int) (a : Assignment) : Option (Int × Bytes) :=
  match DynamicCall.argument a.tag a.value with
  | .ok data => (offset? a.param).map (·, data)
  | .error _ => none

/-- A block after an assignment. -/
def Assignment.apply (offset? : String → Option Int) (base : Int) (cells : Cells) (a : Assignment) :
    Cells :=
  (a.slot? offset?).elim cells fun s => cells.write (base + s.1) s.2

/-- The assignments one after the other. One that fails is passed over. -/
def DynamicCall.assign {σ : Type} (dispatch : Act σ (Primitives σ)) (memory : Part σ Cells)
    (c : DynamicCall) : List Assignment → Act σ Unit
  | [] => return ()
  | a :: as => do
    let _ ← (c.setParam dispatch memory (.text a.param) a.value a.tag).attempt
    c.assign dispatch memory as

/-- An open call has a block. -/
theorem DynamicCall.runOn_block {σ : Type} {c : DynamicCall} {base : Int}
    (hparams : c.params = .int base) (hbase : base ≠ 0) (s : σ) :
    c.block.runOn s = (.ok (.int base), s) := by
  simp [block, hparams, Value.isTruthy, hbase]

namespace LaysOut

variable {σ : Type} {dispatch : Act σ (Primitives σ)} {memory : Part σ Cells} {c : DynamicCall}
  {offset? : String → Option Int} {ready : σ → Prop} {base : Int} {s : σ} {param : String}
  (h : LaysOut dispatch memory c.func offset? ready) (hparams : c.params = .int base)
  (hbase : base ≠ 0) (hs : ready s)

include h hparams hbase hs

/-- The address of a parameter is that of the block with the parameter's offset. -/
theorem runOn_address {o : Int} (ho : offset? param = some o) :
    ∃ t, (c.address dispatch (.text param)).runOn s = (.ok (.int (base + o)), t) ∧ ready t ∧
      memory.get t = memory.get s := by
  obtain ⟨host, prop, t, u, hdispatch, hfind, htruthy, hmeasure, hu, hmem⟩ := h.known hs ho
  refine ⟨u, ?_, hu, hmem⟩
  simp only [DynamicCall.address, Act.runOn_bind,
    DynamicCall.runOn_block hparams hbase, hdispatch, hfind]
  rw [if_neg (by simp [htruthy])]
  simp only [Act.runOn_bind, hmeasure, Act.runOn_liftM, Value.plus_int]

theorem runOn_address_unknown (ho : offset? param = none) :
    ∃ e t, (c.address dispatch (.text param)).runOn s = (.error e, t) ∧ ready t ∧
      memory.get t = memory.get s := by
  obtain ⟨host, answer, t, hdispatch, hfind, hnull, ht, hmem⟩ := h.unknown hs ho
  simp only [DynamicCall.address, Act.runOn_bind,
    DynamicCall.runOn_block hparams hbase, hdispatch, hfind]
  cases answer with
  | error e => exact ⟨e, t, rfl, ht, hmem⟩
  | ok prop =>
    dsimp only
    rw [if_pos (by simp [hnull prop rfl])]
    -- The error carries the name of the call, which need not be a text.
    cases hname : c.name.spoken with
    | error e => exact ⟨e, t, rfl, ht, hmem⟩
    | ok name => exact ⟨_, t, rfl, ht, hmem⟩

/-- An assignment that writes its slot succeeds, and one that writes nothing fails. -/
theorem runOn_setParam (a : Assignment) :
    ∃ outcome t, (c.setParam dispatch memory (.text a.param) a.value a.tag).runOn s =
        (outcome, t) ∧
      (outcome = .ok () ↔ (a.slot? offset?).isSome = true) ∧ ready t ∧
      memory.get t = a.apply offset? base (memory.get s) := by
  cases hdata : DynamicCall.argument a.tag a.value with
  | error e =>
    refine ⟨.error e, s, ?_, ?_, hs, ?_⟩
    · simp only [DynamicCall.setParam, Act.runOn_bind, Act.runOn_liftM, hdata]
    · simp [Assignment.slot?, hdata]
    · simp [Assignment.apply, Assignment.slot?, hdata]
  | ok data =>
    cases ho : offset? a.param with
    | none =>
      obtain ⟨e, t, haddress, ht, hmem⟩ := h.runOn_address_unknown hparams hbase hs ho
      refine ⟨.error e, t, ?_, ?_, ht, ?_⟩
      · simp only [DynamicCall.setParam, Act.runOn_bind, Act.runOn_liftM, hdata, haddress]
      · simp [Assignment.slot?, hdata, ho]
      · simp [Assignment.apply, Assignment.slot?, hdata, ho, hmem]
    | some o =>
      obtain ⟨t, haddress, ht, hmem⟩ := h.runOn_address hparams hbase hs ho
      refine ⟨.ok (), memory.set ((memory.get t).write (base + o) data) t, ?_, ?_,
        h.ready_set ht, ?_⟩
      · simp only [DynamicCall.setParam, Act.runOn_bind, Act.runOn_liftM, hdata, haddress]
        rfl
      · simp [Assignment.slot?, hdata, ho]
      · simp [Assignment.apply, Assignment.slot?, hdata, ho, hmem, h.get_set]

/-- The assignments of a list change memory one after the other. -/
theorem runOn_assign (as : List Assignment) :
    ∃ t, (c.assign dispatch memory as).runOn s = (.ok (), t) ∧ ready t ∧
      memory.get t = as.foldl (Assignment.apply offset? base) (memory.get s) := by
  induction as generalizing s with
  | nil => exact ⟨s, rfl, hs, rfl⟩
  | cons a as ih =>
    obtain ⟨outcome, t, hset, -, ht, hmem⟩ := h.runOn_setParam hparams hbase hs a
    obtain ⟨u, hrest, hu, hmem'⟩ := ih ht
    refine ⟨u, ?_, hu, by rw [hmem', hmem, List.foldl_cons]⟩
    simpa only [DynamicCall.assign, Act.runOn_bind, Act.runOn_attempt, hset] using hrest

/-- A parameter is read from its slot. -/
theorem runOn_getParam {o : Int} (ho : offset? param = some o) (w : Wire) :
    ∃ t, (c.getParam dispatch memory (.text param) (.text w.tag)).runOn s =
        (w.unpack ((memory.get s).read (base + o) w.size), t) ∧
      memory.get t = memory.get s := by
  obtain ⟨t, haddress, -, hmem⟩ := h.runOn_address hparams hbase hs ho
  refine ⟨t, ?_, hmem⟩
  simp only [DynamicCall.getParam, Act.runOn_bind, haddress, Wire.ofValue_tag, Act.runOn_liftM,
    Part.runOn_read, hmem]
  rfl

end LaysOut

/-! ## Slots side by side -/

namespace Assignment

variable {offset? : String → Option Int} {base : Int}

/-- Whether an assignment writes nothing between an offset and the end of a slot there. -/
def Avoids (offset? : String → Option Int) (o : Int) (size : Nat) (a : Assignment) : Prop :=
  ∀ o' data, a.slot? offset? = some (o', data) → o + size ≤ o' ∨ o' + data.length ≤ o

/-- An assignment writes just if the parameter is known and the value goes into its slot. -/
theorem slot?_eq_some_iff {a : Assignment} {o : Int} {data : Bytes} :
    a.slot? offset? = some (o, data) ↔
      offset? a.param = some o ∧ DynamicCall.argument a.tag a.value = .ok data := by
  unfold slot?
  cases DynamicCall.argument a.tag a.value with
  | error e => simp
  | ok d => cases offset? a.param <;> simp

theorem apply_of_slot? {a : Assignment} {o : Int} {data : Bytes}
    (h : a.slot? offset? = some (o, data)) (cells : Cells) :
    a.apply offset? base cells = cells.write (base + o) data := by
  rw [apply, h]
  rfl

/-- Assignments do not show in a slot that they all avoid. -/
theorem read_foldl_of_avoids {o : Int} {size : Nat} {as : List Assignment}
    (h : ∀ a ∈ as, a.Avoids offset? o size) (cells : Cells) :
    (as.foldl (apply offset? base) cells).read (base + o) size = cells.read (base + o) size := by
  induction as generalizing cells with
  | nil => rfl
  | cons a as ih =>
    rw [List.foldl_cons, ih fun b hb => h b (.tail _ hb)]
    cases hslot : a.slot? offset? with
    | none => rw [apply, hslot]; rfl
    | some slot =>
      have havoids := h a (.head _) slot.1 slot.2 hslot
      rw [apply_of_slot? hslot]
      exact Cells.read_write_of_disjoint (by omega)

end Assignment

/-! ## The engine -/

namespace Engine

/-- The memory of an engine. -/
def cells : Part Engine Cells := ⟨Engine.memory, fun m e => { e with memory := m }⟩

/-- The offset of a parameter, zero if none was given for its name. -/
def parameterOffset? (offsets : Assoc String Int) (missing : List Value) (name : String) :
    Option Int :=
  if missing.any (· == .text name) then none else some ((Assoc.get? name offsets).getD 0)

section

variable {offsets : Assoc String Int} {missing : List Value} {name : String}

theorem parameterOffset?_eq_some_iff {o : Int} :
    parameterOffset? offsets missing name = some o ↔
      missing.any (· == .text name) = false ∧ (Assoc.get? name offsets).getD 0 = o := by
  unfold parameterOffset?
  split
  · next h => simp [h]
  · next h => simp [Bool.eq_false_iff.2 h]

theorem parameterOffset?_eq_none_iff :
    parameterOffset? offsets missing name = none ↔ missing.any (· == .text name) = true := by
  unfold parameterOffset?
  split
  · next h => simp [h]
  · next h => simp [Bool.eq_false_iff.2 h]

end

/-- An engine whose primitives all do their work, with given offsets of parameters. No handle was
given out twice, and the next one is new. -/
structure Offers (offsets : Assoc String Int) (missing : List Value) (e : Engine) : Prop where
  faults : e.faults = []
  missing : e.missing = missing
  offsets : e.offsets = offsets.map fun f => (.text f.1, .int f.2)
  distinct : ∀ a ∈ e.handles, ∀ b ∈ e.handles, a.2 = b.2 → a = b
  range : ∀ a ∈ e.handles, 0 < a.2 ∧ a.2 ≤ e.lastHandle
  positive : 0 ≤ e.lastHandle

private theorem name_of_beq {k : LookupKey} {owner : Value} {name : String} {kind : LookupKind}
    (h : (k == ⟨kind, owner, .text name⟩) = true) : k.name = .text name := by
  obtain ⟨kind', owner', name'⟩ := k
  have hparts : (kind' == kind && (owner' == owner && name' == .text name)) = true := h
  simp only [Bool.and_eq_true, Value.beq_text_iff] at hparts
  exact hparts.2.2

/-- An engine that has made a handle for a key. -/
def withHandle (key : LookupKey) (e : Engine) : Engine :=
  { e with lastHandle := e.lastHandle + 16, handles := e.handles.set key (e.lastHandle + 16) }

/-- A handle is made on first use and is the same one from then on. -/
private theorem runOn_handleFor_text (kind : LookupKind) (owner : Int) (name : String)
    (e : Engine) :
    (handleFor ⟨kind, .int owner, .text name⟩).runOn e =
      if e.missing.any (· == .text name) then (.ok .null, e)
      else match e.handles.get? ⟨kind, .int owner, .text name⟩ with
        | some h => (.ok (.int h), e)
        | none =>
          (.ok (.int (e.lastHandle + 16)), e.withHandle ⟨kind, .int owner, .text name⟩) := by
  have hdiscard (v : Value) : (discard (Act.ofExcept (.ok v)) : Act Engine PUnit) = pure ⟨⟩ := rfl
  have hname : (Value.text name).asKey = .ok (.text name) := rfl
  have howner : (Value.int owner).asKey = .ok (.int owner) := rfl
  simp only [handleFor, hname, howner, hdiscard, pure_bind, Act.runOn_bind, Part.runOn_read,
    Part.whole_get]
  split
  · rfl
  · cases e.handles.get? ⟨kind, .int owner, .text name⟩ <;> rfl

variable {offsets : Assoc String Int} {missing : List Value} {e : Engine}

/-- A handle that was given out is known by its name. -/
theorem Offers.nameOf (he : e.Offers offsets missing) {k : LookupKey} {h : Int}
    (hmem : (k, h) ∈ e.handles) : e.nameOf (.int h) = .ok k.name := by
  have hbeq (n : Int) : (Value.int h == .int n) = (h == n) := rfl
  have hfind : e.handles.find? (fun entry => Value.int h == .int entry.2) = some (k, h) := by
    have hsome : (e.handles.find? fun entry => Value.int h == .int entry.2).isSome = true :=
      List.find?_isSome.2 ⟨(k, h), hmem, by simp [hbeq]⟩
    obtain ⟨found, hfound⟩ := Option.isSome_iff_exists.1 hsome
    have hvalue := List.find?_some hfound
    simp only [hbeq, beq_iff_eq] at hvalue
    rw [hfound, he.distinct found (List.mem_of_find?_eq_some hfound) _ hmem hvalue.symm]
  show (Except.ok (((e.handles.find? _).map (·.1.name)).getD .null) : Except Fault Value) = _
  rw [hfind]
  rfl

private theorem get?_textKeys (name : String) (offsets : Assoc String Int) :
    Assoc.get? (Value.text name) (offsets.map fun f => (.text f.1, .int f.2)) =
      (Assoc.get? name offsets).map Value.int := by
  induction offsets with
  | nil => rfl
  | cons f rest ih =>
    by_cases hf : f.1 = name
    · simp [Assoc.get?, Value.beq_text_iff, hf]
    · simp [Assoc.get?, Value.beq_text_iff, hf, ih]

/-- The offset of a handle is that of the name it was given out for. -/
theorem Offers.offsetOf (he : e.Offers offsets missing) {k : LookupKey} {h : Int} {name : String}
    (hmem : (k, h) ∈ e.handles) (hname : k.name = .text name) :
    e.offsetOf (.int h) = .ok (.int ((Assoc.get? name offsets).getD 0)) := by
  rw [Engine.offsetOf, he.nameOf hmem, hname]
  show (Except.ok ((e.offsets.get? (.text name)).getD (.int 0)) : Except Fault Value) = _
  rw [he.offsets, get?_textKeys]
  cases Assoc.get? name offsets <;> rfl

/-- A handle above all others does not confuse them. -/
theorem Offers.newHandle (he : e.Offers offsets missing) {key : LookupKey}
    (hnone : e.handles.get? key = none) : (e.withHandle key).Offers offsets missing := by
  -- The new handle is greater than all that were given out.
  have hlast := he.positive
  refine ⟨he.faults, he.missing, he.offsets, ?_, ?_, by dsimp only [withHandle]; omega⟩
  · simp only [withHandle, Assoc.set_of_get?_none hnone, List.mem_append, List.mem_singleton]
    rintro a (ha | rfl) b (hb | rfl) hab
    · exact he.distinct a ha b hb hab
    · have := (he.range a ha).2
      omega
    · have := (he.range b hb).2
      omega
    · rfl
  · simp only [withHandle, Assoc.set_of_get?_none hnone, List.mem_append, List.mem_singleton]
    rintro a (ha | rfl)
    · have := he.range a ha
      omega
    · dsimp only
      omega

/-- A name that is not missing has a handle, made on first use. -/
theorem Offers.runOn_handleFor (he : e.Offers offsets missing) (kind : LookupKind) (owner : Int)
    {name : String} (hmissing : missing.any (· == .text name) = false) :
    ∃ k h e', (handleFor ⟨kind, .int owner, .text name⟩).runOn e = (.ok (.int h), e') ∧
      (k, h) ∈ e'.handles ∧ k.name = .text name ∧ e'.Offers offsets missing ∧
      e'.memory = e.memory := by
  have hrun := runOn_handleFor_text kind owner name e
  rw [if_neg (by simp [he.missing, hmissing])] at hrun
  cases hget : e.handles.get? ⟨kind, .int owner, .text name⟩ with
  | some h =>
    obtain ⟨k, hmem, hkey⟩ := Assoc.exists_mem_of_get? hget
    exact ⟨k, h, e, by rw [hrun, hget], hmem, name_of_beq hkey, he, rfl⟩
  | none =>
    refine ⟨⟨kind, .int owner, .text name⟩, e.lastHandle + 16, _, by rw [hrun, hget], ?_, rfl,
      he.newHandle hget, rfl⟩
    rw [withHandle, Assoc.set_of_get?_none hget]
    exact List.mem_append_right _ (.head _)

/-- Handles and offsets are apart from memory. -/
theorem Offers.withCells (he : e.Offers offsets missing) (m : Cells) :
    (cells.set m e).Offers offsets missing := ⟨he.1, he.2, he.3, he.4, he.5, he.6⟩

/-- An engine that has given out no handles. -/
theorem offers_new (offsets : Assoc String Int) (missing : List Value) :
    ({ missing, offsets := offsets.map fun f => (.text f.1, .int f.2) } : Engine).Offers
      offsets missing where
  faults := rfl
  missing := rfl
  offsets := rfl
  distinct _ ha := absurd ha List.not_mem_nil
  range _ ha := absurd ha List.not_mem_nil
  positive := show (0 : Int) ≤ 0x1000 by decide

/-- The engine lays out the parameters of each of its functions. -/
theorem laysOut (report : CallRecord → Act Engine Unit)
    (fire : Location → Value → Act Engine Value) (func : Int) (offsets : Assoc String Int)
    (missing : List Value) :
    LaysOut (pure (primitives .whole report fire)) cells (.int func)
      (parameterOffset? offsets missing) (Offers offsets missing) where
  get_set _ _ := rfl
  ready_set h := h.withCells _
  known {e name o} he ho := by
    obtain ⟨hmissing, rfl⟩ := parameterOffset?_eq_some_iff.1 ho
    obtain ⟨k, h, t, hrun, hmem, hname, ht, hcells⟩ :=
      he.runOn_handleFor .parameter func hmissing
    have hpos := (ht.range _ hmem).1
    refine ⟨_, .int h, t, t, rfl, (runOn_work he.faults ..).trans hrun, ?_, ?_, ht, hcells⟩
    · exact decide_eq_true (Int.ne_of_gt hpos)
    · exact (runOn_ask ht.faults ..).trans (by rw [measure, ht.offsetOf hmem hname])
  unknown {e name} he ho := by
    have hmissing := parameterOffset?_eq_none_iff.1 ho
    refine ⟨_, .ok .null, e, rfl,
      (runOn_work he.faults ..).trans ((runOn_handleFor_text ..).trans ?_), ?_, he, rfl⟩
    · rw [he.missing, if_pos hmissing]
    rintro _ ⟨⟩
    rfl

end Engine

/-! ## Values of parameters -/

/-- A parameter of an open call that is given a value reads back what its slot makes of that value,
whatever was assigned before, as long as the assignments that follow avoid the slot. An assignment
succeeds exactly if the parameter is known and its value goes into the slot; it changes no byte
beside the slot, and none at all if it fails. -/
theorem parameters_stand_apart {σ : Type} {dispatch : Act σ (Primitives σ)} {memory : Part σ Cells}
    {c : DynamicCall} {offset? : String → Option Int} {ready : σ → Prop} {base : Int}
    (h : LaysOut dispatch memory c.func offset? ready) (hparams : c.params = .int base)
    (hbase : base ≠ 0) {s : σ} (hs : ready s) :
    (∀ (before later : List Assignment) (param : String) (o : Int) (w : Wire) (v : Value)
      (data : Bytes), offset? param = some o → (w.reduce v >>= w.pack) = .ok data →
      (∀ a ∈ later, a.Avoids offset? o w.size) →
      ∃ t u, (c.assign dispatch memory (before ++ ⟨param, v, .text w.tag⟩ :: later)).runOn s =
          (.ok (), t) ∧
        (c.getParam dispatch memory (.text param) (.text w.tag)).runOn t = (w.unpack data, u) ∧
        memory.get u = memory.get t) ∧
    ∀ a : Assignment, ∃ outcome t,
      (c.setParam dispatch memory (.text a.param) a.value a.tag).runOn s = (outcome, t) ∧ ready t ∧
      (∀ e, outcome = .error e → memory.get t = memory.get s) ∧
      (outcome = .ok () ↔
        ∃ o data, offset? a.param = some o ∧ DynamicCall.argument a.tag a.value = .ok data) ∧
      ∀ o data, offset? a.param = some o → DynamicCall.argument a.tag a.value = .ok data →
        memory.get t = (memory.get s).write (base + o) data ∧
        ∃ w, Wire.ofValue a.tag = .ok w ∧ data.length = w.size ∧
          ∀ x, x < base + o ∨ base + o + w.size ≤ x →
            (memory.get t).byte x = (memory.get s).byte x := by
  refine ⟨fun before later param o w v data ho hdata havoids => ?_, fun a => ?_⟩
  · have hslot : (Assignment.mk param v (.text w.tag)).slot? offset? = some (o, data) :=
      Assignment.slot?_eq_some_iff.2 ⟨ho, (DynamicCall.argument_tag w v).trans hdata⟩
    have hlength : data.length = w.size := by
      obtain ⟨reduced, -, hpack⟩ := Outcome.bind_eq_ok_iff.1 hdata
      exact Wire.length_of_pack hpack
    obtain ⟨t, hassign, ht, hmem⟩ := h.runOn_assign hparams hbase hs
      (before ++ ⟨param, v, .text w.tag⟩ :: later)
    obtain ⟨u, hget, hu⟩ := h.runOn_getParam hparams hbase ht ho w
    refine ⟨t, u, hassign, ?_, hu⟩
    rw [hget, hmem, List.foldl_append, List.foldl_cons, Assignment.read_foldl_of_avoids havoids,
      Assignment.apply_of_slot? hslot, ← hlength, Cells.read_write_self]
  · obtain ⟨outcome, t, hset, hiff, ht, hmem⟩ := h.runOn_setParam hparams hbase hs a
    refine ⟨outcome, t, hset, ht, fun e he => ?_, ?_, fun o data ho hdata => ?_⟩
    · have hnone : a.slot? offset? = none := by
        rw [he] at hiff
        simpa using hiff
      rw [hmem, Assignment.apply, hnone]
      rfl
    · simp only [hiff, Option.isSome_iff_exists, Prod.exists, Assignment.slot?_eq_some_iff]
    · rw [Assignment.apply_of_slot? (Assignment.slot?_eq_some_iff.2 ⟨ho, hdata⟩)] at hmem
      obtain ⟨w, hw, hlength⟩ := DynamicCall.length_of_argument hdata
      refine ⟨hmem, w, hw, hlength, fun x hx => ?_⟩
      rw [hmem]
      exact Cells.write_apply_of_not_mem (by omega)

/-- The offsets of an amount and of a target. -/
def attackOffsets : Assoc String Int := [("Amount", 0), ("Target", 8)]

/-- A call whose block stands where an engine puts the first one. -/
def attackCall : DynamicCall := ⟨.int 0x1010, .int 0x1020, .text "Attack", .int 0x10000000⟩

/-- An amount is wrapped around to its slot, and stays while the target is changed. -/
theorem parameters_stand_apart_attack :
    let dispatch := pure (Engine.primitives .whole (fun _ => pure ()) fun _ _ => pure .null)
    let e : Engine := { offsets := [(.text "Amount", .int 0), (.text "Target", .int 8)] }
    let amount : Assignment := ⟨"Amount", .int 0x100000007, .text "i32"⟩
    let target : Assignment := ⟨"Target", .ref (.int 0x1010), .text "handle"⟩
    ∃ t u, (attackCall.assign dispatch Engine.cells [amount, target]).runOn e = (.ok (), t) ∧
      (attackCall.getParam dispatch Engine.cells (.text "Amount") (.text "i32")).runOn t =
        (.ok (.int 7), u) ∧ u.memory = t.memory := by
  intro dispatch e amount target
  obtain ⟨hreads, -⟩ := parameters_stand_apart (c := attackCall)
    (Engine.laysOut (fun _ => pure ()) (fun _ _ => pure .null) 0x1020 attackOffsets []) rfl
    (by decide) (Engine.offers_new attackOffsets [])
  refine hreads [] [target] "Amount" 0 (.int .i32)
    (.int 0x100000007) [7, 0, 0, 0] rfl rfl fun a ha o data hslot => ?_
  rw [List.mem_singleton.1 ha, Assignment.slot?_eq_some_iff] at hslot
  have ho : Engine.parameterOffset? attackOffsets [] "Target" = some 8 := rfl
  cases ho.symm.trans hslot.1
  exact .inl (by decide)

end Bindery
