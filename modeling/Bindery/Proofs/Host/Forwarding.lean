import Bindery.Engine.Primitives
import Bindery.Proofs.Host.Calls

/-!
# Hosts behind tables

A table whose entries forward to the primitives of a host stands for that host: the primitives over
the table answer what the host answers and leave it in the same state.

* `Forwards`: each entry calls the primitive of the same name with its arguments and leaves the
  answer behind.
* `PrimitiveScript`: calls one after the other, each of which may depend on the answers so far.
* `native_stands_for_host`: a whole run over the table, next to the one of the host itself.
* `Table.exact`: a table that forwards everything.
-/

namespace Bindery.Host

variable {σ : Type}

/-- A table forwards to a host: where a primitive gives an answer that fits, the entry of the same
name leaves that answer behind, and the host as the primitive leaves it. -/
def Forwards (t : Table σ) (p : Primitives σ) : Prop :=
  ∀ (a : Answer) (c : PrimitiveCall a) (m : a.Machine) (s s' : σ),
    (c.direct p).runOn s = (.ok (a.direct m), s') → (c.entry t).runOn s = (.ok (a.native m), s')

/-- One call over a table that forwards to a host. -/
theorem Forwards.runOn_direct {t : Table σ} {p : Primitives σ} (hf : Forwards t p)
    (hnull : ∀ s, (p.isValid .null).runOn s = (.ok (.bool false), s)) {a : Answer}
    (c : PrimitiveCall a) {m : a.Machine} {s s' : σ}
    (h : (c.direct p).runOn s = (.ok (a.direct m), s')) :
    (c.direct (Primitives.overTable t)).runOn s = (.ok (a.direct m), s') := by
  cases hc : c.asksForNull with
  | false =>
    rw [c.direct_overTable t hc, Act.runOn_map a.read (hf a c m s s' h), a.read_native]
  | true =>
    -- The null object is not asked about, so the host has to answer for it as is done here.
    cases c with
    | isValid obj =>
      obtain rfl : obj = 0 := by simpa [PrimitiveCall.asksForNull] using hc
      rw [← h]
      exact (PrimitiveCall.runOn_isValid_zero t s).trans (hnull s).symm
    | _ => simp [PrimitiveCall.asksForNull] at hc

/-! ## Calls one after the other -/

/-- Calls one after the other. What comes next depends on the answers so far. -/
inductive PrimitiveScript where
  | done
  | call {a : Answer} (c : PrimitiveCall a) (next : a.Direct → PrimitiveScript)

namespace PrimitiveScript

/-- Makes the calls: their answers, in order. -/
def run (p : Primitives σ) : PrimitiveScript → Act σ (List ((a : Answer) × a.Direct))
  | done => return []
  | call (a := a) c next => do
    let answer ← c.direct p
    return ⟨a, answer⟩ :: (← (next answer).run p)

/-- Each call gets an answer that fits, in a run from a given state. -/
def Fits (p : Primitives σ) : PrimitiveScript → σ → Prop
  | done, _ => True
  | call (a := a) c next, s => ∃ (m : a.Machine) (s' : σ),
    (c.direct p).runOn s = (.ok (a.direct m), s') ∧ (next (a.direct m)).Fits p s'

end PrimitiveScript

/-- Over a table that forwards to a host, calls get the answers that the host itself gives, and
leave it in the same state. -/
theorem native_stands_for_host {t : Table σ} {p : Primitives σ} (hf : Forwards t p)
    (hnull : ∀ s, (p.isValid .null).runOn s = (.ok (.bool false), s)) (script : PrimitiveScript)
    (s : σ) (h : script.Fits p s) :
    ∃ answers s', (script.run p).runOn s = (.ok answers, s') ∧
      (script.run (Primitives.overTable t)).runOn s = (.ok answers, s') := by
  induction script generalizing s with
  | done => exact ⟨[], s, rfl, rfl⟩
  | @call a c next ih =>
    obtain ⟨m, s', hdirect, hnext⟩ := h
    obtain ⟨answers, s'', hrun, hnative⟩ := ih _ s' hnext
    have hover := hf.runOn_direct hnull c hdirect
    refine ⟨⟨a, a.direct m⟩ :: answers, s'', ?_, ?_⟩
    · -- The answers decide what is called next, so both runs go on with one script.
      simp only [PrimitiveScript.run, Act.runOn_bind, hdirect, hrun, Act.runOn_pure]
    · simp only [PrimitiveScript.run, Act.runOn_bind, hover, hnative, Act.runOn_pure]

/-! ## A table that forwards everything -/

namespace Table

variable (p : Primitives σ)

/-- The table whose entries forward to the primitives of the same name, with all of a name and with
the scalar of every answer. -/
def exact : Table σ :=
  { forwarding p with
    makeName := fun name => number (p.makeName (.text (Text.decodeLossy name)))
    find := fun kind name => handle (p.find kind (.text (Text.decodeLossy name)))
    findIn := fun kind owner name =>
      handle (p.findIn kind (received owner) (.text (Text.decodeLossy name)))
    getScalar := fun kind obj prop => shielded (strayCode, kind.default) do
      let (code, value) ← p.getScalar kind (received obj) (received prop)
      return (Word.ofCode code, (value.map kind.narrow).getD kind.default) }

/-- What an entry of a forwarding table leaves behind for an answer. -/
def leave : (a : Answer) → Act σ a.Direct → Act σ a.Native
  | .code, act => code act
  | .handle, act => handle act
  | .number, act => number act
  | .truth, act => truth act
  | .count, act => shielded strayCode.toInt32 (Word.ofCount <$> act)
  | .text, act => shielded .stray ((Reply.givingText · (.ofNat nameBuffer)) <$> act)
  | .none, act => shielded () act
  | .scalar kind, act => shielded (strayCode, kind.default) do
    let (code, value) ← act
    return (Word.ofCode code, (value.map kind.narrow).getD kind.default)
  | .bytes size, act => giving act size
  | .record size, act => shielded (strayCode, []) do
    let (code, data) ← act
    return (Word.ofCode code, data.take size.toNat)
  | .element size, act => element act size
  | .pair keySize valueSize, act => shielded (.stray, .stray) do
    let (code, key, value) ← act
    return (.givingElement (code, key) keySize, .givingElement (code, value) valueSize)

/-- Each entry leaves behind what the primitive of its name answers. -/
private theorem entry_exact {a : Answer} (c : PrimitiveCall a) :
    c.entry (exact p) = leave a (c.direct p) := by
  cases c
  case makeName name | find kind name | findIn kind owner name =>
    simp only [PrimitiveCall.entry, exact, PrimitiveCall.nameData, Text.decodeLossy_utf8]
    rfl
  all_goals rfl

/-- An entry that does not fail is not shielded from anything. -/
theorem runOn_shielded {α : Type} (stray : α) {act : Act σ α} {a : α} {s s' : σ}
    (h : act.runOn s = (.ok a, s')) : (shielded stray act).runOn s = (.ok a, s') := by
  rw [shielded, Act.runOn_tryCatch, h]

theorem runOn_shielded_map {α β : Type} (stray : β) (f : α → β) {act : Act σ α} {a : α}
    {s s' : σ} (h : act.runOn s = (.ok a, s')) :
    (shielded stray (f <$> act)).runOn s = (.ok (f a), s') :=
  runOn_shielded stray (Act.runOn_map f h)

theorem ofCode_codeOf (c : UInt32) : Word.ofCode (codeOf c) = c := Word.ofInt_toNat32 c

/-- A reply with bytes that fit has all of them. -/
theorem giving_codeOf (c : UInt32) {data : Bytes} {size : UInt32} (h : data.length ≤ size.toNat) :
    Reply.giving (codeOf c) data size = Answer.replyOf c data := by
  rw [Reply.giving, List.take_of_length_le h, ofCode_codeOf]
  rfl

private theorem givingText_ofPlain {s : String} (h : s.toUTF8.toList.length ≤ nameBuffer) :
    Reply.givingText (.text (Text.ofPlain s)) (.ofNat nameBuffer) =
      Answer.replyOf 0 s.toUTF8.toList := by
  rw [Reply.givingText, Text.utf8?_ofPlain]
  exact giving_codeOf 0 h

/-- What is left behind for an answer that fits is that answer. -/
theorem runOn_leave (a : Answer) {act : Act σ a.Direct} {m : a.Machine} {s s' : σ}
    (h : act.runOn s = (.ok (a.direct m), s')) :
    (leave a act).runOn s = (.ok (a.native m), s') := by
  cases a with
  | code =>
    rw [leave, code, runOn_shielded_map strayCode Word.ofCode h]
    exact congrArg (fun c => (Except.ok c, s')) (ofCode_codeOf m)
  | handle =>
    rw [leave, handle, runOn_shielded_map Word.stray Word.ofHandle h]
    exact congrArg (fun n => (Except.ok n, s')) (Word.ofHandle_handle m)
  | number =>
    rw [leave, number, runOn_shielded_map Word.stray Word.ofNumber h]
    exact congrArg (fun n => (Except.ok n, s')) (Word.ofInt_toNat m)
  | truth => exact runOn_shielded_map true Value.isTruthy h
  | count =>
    rw [leave, runOn_shielded_map strayCode.toInt32 Word.ofCount h]
    exact congrArg (fun n => (Except.ok n, s')) (Int32.ofInt_toInt m)
  | text =>
    rw [leave, runOn_shielded_map Reply.stray (Reply.givingText · (.ofNat nameBuffer)) h]
    exact congrArg (fun r => (Except.ok r, s')) (givingText_ofPlain m.2)
  | none => exact runOn_shielded () h
  | scalar kind =>
    obtain ⟨c, v, hv⟩ := m
    refine runOn_shielded (strayCode, kind.default) ?_
    rw [Act.runOn_bind, h]
    exact congrArg (fun r => (Except.ok r, s'))
      (Prod.ext (ofCode_codeOf c) (ScalarKind.narrow_of_holds hv))
  | bytes size =>
    obtain ⟨c, data, hdata⟩ := m
    refine runOn_shielded Reply.stray ?_
    rw [Act.runOn_bind, h]
    exact congrArg (fun r => (Except.ok r, s')) (giving_codeOf c hdata)
  | record size =>
    obtain ⟨c, data, hdata⟩ := m
    refine runOn_shielded (strayCode, []) ?_
    rw [Act.runOn_bind, h]
    exact congrArg (fun r => (Except.ok r, s'))
      (Prod.ext (ofCode_codeOf c) (List.take_of_length_le (Nat.le_of_eq hdata)))
  | element size =>
    obtain ⟨c, data, hdata⟩ := m
    rw [leave, element, runOn_shielded_map Reply.stray (Reply.givingElement · size) h]
    exact congrArg (fun r => (Except.ok r, s')) (giving_codeOf c hdata)
  | pair keySize valueSize =>
    obtain ⟨c, ⟨key, hkey⟩, value, hvalue⟩ := m
    refine runOn_shielded (Reply.stray, Reply.stray) ?_
    rw [Act.runOn_bind, h]
    exact congrArg (fun r => (Except.ok r, s'))
      (Prod.ext (giving_codeOf c hkey) (giving_codeOf c hvalue))

/-- The table that forwards everything forwards to its host. -/
private theorem forwards_exact : Forwards (exact p) p := by
  intro a c m s s' h
  rw [entry_exact]
  exact runOn_leave a h

end Table

/-! ## An engine behind a table -/

/-- The engine in memory as a host, to which the null object is never there. -/
def engineHost : Primitives Engine :=
  let host := Engine.primitives Part.whole (fun _ => return ()) fun _ _ => return Engine.ok
  { host with isValid := fun h => if h.isNull then return .bool false else host.isValid h }

/-- An engine with one object. -/
def oneObject : Engine := { live := [4112] }

/-- Asks for the null object and for a class, and writes an element of a fixed-size array and reads
it back. -/
def elementScript : PrimitiveScript :=
  .call (.isValid 0) fun _ => .call (.find .cls "Player") fun _ =>
    .call (.setElement 4112 3 1 [7, 8]) fun _ => .call (.getElement 4112 3 1 2) fun _ => .done

private theorem fits_elementScript : elementScript.Fits engineHost oneObject :=
  ⟨false, _, rfl, (4112 : UInt64), _, rfl, (0 : UInt32), _, rfl,
    ((0 : UInt32), ⟨[7, 8], rfl⟩), _, rfl, trivial⟩

/-- The engine behind such a table, and a script that uses four of its entries. -/
theorem native_stands_for_host_engine :
    Forwards (Table.exact engineHost) engineHost ∧
      (∀ s, (engineHost.isValid .null).runOn s = (.ok (.bool false), s)) ∧
      elementScript.Fits engineHost oneObject ∧
      ∃ answers s', (elementScript.run engineHost).runOn oneObject = (.ok answers, s') ∧
        (elementScript.run (Primitives.overTable (Table.exact engineHost))).runOn oneObject =
          (.ok answers, s') :=
  have hforwards := Table.forwards_exact engineHost
  ⟨hforwards, fun _ => rfl, fits_elementScript,
    native_stands_for_host hforwards (fun _ => rfl) elementScript oneObject fits_elementScript⟩

/-- Writes the element of a fixed-size array at index -1, and asks the engine itself for it. -/
def writtenBelow (p : Primitives Engine) : Act Engine (Value × Bytes) := do
  discard (p.setElement (.int 4112) (.int 3) (.int (-1)) [1, 2, 3, 4])
  engineHost.getElement (.int 4112) (.int 3) (.int (-1)) 4

/-- The name that is half of a surrogate pair. -/
def halfName : Value := .text (Text.ofPoints [.half 0])

/-- An index below zero comes out at another element of a fixed-size array than the host itself
would take it for, and a name without bytes of UTF-8 does not get through. -/
theorem native_loses_index_and_name :
    let native := Primitives.overTable (Table.exact engineHost)
    Forwards (Table.exact engineHost) engineHost ∧
      (∀ s, (engineHost.isValid .null).runOn s = (.ok (.bool false), s)) ∧
      ((writtenBelow engineHost).runOn oneObject).1 = .ok (.int 0, [1, 2, 3, 4]) ∧
      ((writtenBelow native).runOn oneObject).1 = .ok (.int 0, [0, 0, 0, 0]) ∧
      ((engineHost.find .cls halfName).runOn oneObject).1 = .ok (.int 4112) ∧
      ((native.find .cls halfName).runOn oneObject).1 = .error .unencodable :=
  ⟨Table.forwards_exact engineHost, fun _ => rfl, rfl, rfl, rfl, rfl⟩

end Bindery.Host
