import Bindery.Proofs.Effect
import Bindery.Session.Cell

/-!
# Cells keep what is stored first

Cells are asked for values, and what computes a value may itself ask any cell, the same one among
them, make new cells and fail. However deeply that nests, every answer is the value that was stored
first at its place since all cells were reset, and a computation that fails stores nothing.

* `Place`: a value of a cell. `Place.serves` says whether what is stored at one place is found at
  another, which is so for equal keys.
* `Place.ask`: asks for the value at a place, and `Initialiser`, `Initialiser.run`: what computes
  it.
* `CellEvent`, `firstStored`: what happened to the cells, and what should be at a place then.
* `Watched.Sound`: the cells hold what they should, and all answers were right. Asking keeps that
  (`minds_ask`), so every initialisation does (`minds_run`), and every step (`sound_run`).
* `answers_are_first_stored`: the main statement.
-/

namespace Bindery

/-! ## Places -/

/-- A value of a cell: the only one, the address in a slot, or the one at a key. -/
inductive Compartment where
  | only
  | address
  | at (key : CellKey)

/-- A value of the cell with a name. -/
structure Place where
  cell : String
  compartment : Compartment

namespace Compartment

/-- Whether what is stored here is found there. -/
def serves : Compartment → Compartment → Bool
  | only, only | address, address => true
  | .at stored, .at asked => stored == asked
  | _, _ => false

/-- A key equals itself, also if its value does not. -/
@[simp] theorem serves_self (m : Compartment) : m.serves m = true := by
  cases m <;> simp [serves, BEq.beq]

/-- The keys of the cache that a value is in. -/
def Key : Compartment → Type
  | only | address => Unit
  | .at _ => CellKey

instance : (m : Compartment) → BEq m.Key
  | only | address => inferInstanceAs (BEq Unit)
  | .at _ => inferInstanceAs (BEq CellKey)

/-- The key of a value. -/
def key : (m : Compartment) → m.Key
  | only | address => ()
  | .at key => key

/-- The cache that a value is in. -/
def cache : (m : Compartment) → Part Cell (Cache m.Key Value)
  | only => Cell.oncePart
  | address => Cell.addressPart
  | .at _ => Cell.keyedPart

end Compartment

namespace Cell

/-- Whether a cell has a value of a kind. -/
def has : Cell → Compartment → Bool
  | once _, .only | keyed _, .at _ | slot _ _, .address => true
  | _, _ => false

/-- The value of a cell, if it has been stored. -/
def value? (m : Compartment) (c : Cell) : Option Value := (m.cache.get c).get? m.key

/-- The cell with a value stored. -/
def storing (m : Compartment) (v : Value) (c : Cell) : Cell :=
  m.cache.set (Assoc.set m.key v (m.cache.get c)) c

private theorem value?_reset (m : Compartment) (c : Cell) : c.reset.value? m = none := by
  cases c <;> cases m <;> rfl

private theorem reset_storing (m : Compartment) (v : Value) (c : Cell) :
    (c.storing m v).reset = c.reset := by cases m <;> cases c <;> rfl

/-- Cells of one kind have the same values. -/
theorem has_of_reset_eq {c d : Cell} (h : c.reset = d.reset) (m : Compartment) :
    c.has m = d.has m := by
  cases c <;> cases d <;> cases h <;> cases m <;> rfl

/-- A cell that holds a value of a kind has that kind. -/
private theorem has_of_value? {c : Cell} {m : Compartment} {v : Value} (h : c.value? m = some v) :
    c.has m = true := by
  cases c <;> cases m <;> first | rfl | cases h

/-- A value that is stored first is found wherever its key is found. -/
theorem value?_storing {c : Cell} {m : Compartment} (hm : c.has m = true)
    (h : c.value? m = none) (v : Value) (asked : Compartment) :
    (c.storing m v).value? asked =
      (c.value? asked).or (if m.serves asked then some v else none) := by
  cases c <;> cases m <;> cases hm <;> cases asked <;>
    first | exact Assoc.get?_set_of_get?_none h v _ | rfl

end Cell

namespace Place

/-- Whether what is stored here is found there. -/
def serves (stored asked : Place) : Bool :=
  stored.cell == asked.cell && stored.compartment.serves asked.compartment

end Place

/-! ## The cells of a session -/

namespace Session

/-- The cell with a name. -/
def cell? (s : Session) (name : String) : Option Cell := s.cells.get? (.text name)

/-- The value at a place, if it has been stored. -/
def held (s : Session) (p : Place) : Option Value :=
  (s.cell? p.cell).bind fun c => c.value? p.compartment

/-- The session with a cell under a name. -/
def withCell (name : String) (c : Cell) (s : Session) : Session :=
  { s with cells := s.cells.set (.text name) c }

/-- Putting a cell under a name changes what is found there and nowhere else. -/
private theorem cell?_withCell (name other : String) (c : Cell) (s : Session) :
    (s.withCell name c).cell? other = if name = other then some c else s.cell? other := by
  simp only [withCell, cell?]
  induction s.cells with
  | nil =>
    by_cases h : name = other
    · simp [Assoc.set, Assoc.get?, h, Value.beq_text_iff]
    · simp [Assoc.set, Assoc.get?, h, Value.beq_text_iff]
  | cons e rest ih =>
    by_cases he : e.1 = .text name
    · by_cases h : name = other
      · simp [Assoc.set, Assoc.get?, he, h, Value.beq_text_iff]
      · simp [Assoc.set, Assoc.get?, he, h, Value.beq_text_iff]
    · by_cases h : e.1 = .text other
      · have hne : name ≠ other := fun heq => he (heq ▸ h)
        simp [Assoc.set, Assoc.get?, h, hne, hne.symm, Value.beq_text_iff]
      · simp [Assoc.set, Assoc.get?, he, h, ih, Value.beq_text_iff]

private theorem runOn_findCell (name : String) (s : Session) :
    (findCell (.text name)).runOn s =
      match s.cell? name with
      | some c => (.ok c, s)
      | none => (.error .noSuchKey, s) := by
  simp only [findCell, cell?, state]
  show _ = match s.cells.get? (.text name) with | some c => _ | none => _
  cases h : s.cells.get? (.text name) <;>
    simp [Value.asKey, Value.isHashable, Act.runOn_bind, h]

/-- A reset drops all values and leaves the cells. -/
private theorem cell?_resetCaches (s : Session) (name : String) :
    s.resetCaches.cell? name = (s.cell? name).map Cell.reset := by
  simp only [cell?, resetCaches]
  induction s.cells with
  | nil => rfl
  | cons e rest ih => by_cases h : e.1 = .text name <;> simp [Assoc.get?, h, ih, Value.beq_text_iff]

theorem held_resetCaches (s : Session) (p : Place) : s.resetCaches.held p = none := by
  rw [held, cell?_resetCaches]
  cases s.cell? p.cell <;> simp [Cell.value?_reset]

end Session

/-! ## Events -/

/-- What happens to cells: a value is stored, a call for a value succeeds, all cells are reset. -/
inductive CellEvent where
  | stored (p : Place) (v : Value)
  | answered (p : Place) (v : Value)
  | reset

namespace CellEvent

def isReset : CellEvent → Bool
  | reset => true
  | _ => false

/-- What is stored, if it is found at a place. -/
def valueFor (asked : Place) : CellEvent → Option Value
  | stored p v => if p.serves asked then some v else none
  | _ => none

end CellEvent

/-- The value that was stored first for a place since the last reset. -/
def firstStored (asked : Place) (trace : List CellEvent) : Option Value :=
  (sinceLast CellEvent.isReset trace).findSome? (CellEvent.valueFor asked)

/-- One more event counts only if nothing was stored for the place before. -/
theorem firstStored_concat {e : CellEvent} (h : e.isReset = false) (asked : Place)
    (trace : List CellEvent) :
    firstStored asked (trace ++ [e]) = (firstStored asked trace).or (e.valueFor asked) := by
  rw [firstStored, sinceLast_concat_of_not h, List.findSome?_append]
  cases hv : e.valueFor asked <;> simp [firstStored, List.findSome?, hv]

theorem firstStored_reset (asked : Place) (trace : List CellEvent) :
    firstStored asked (trace ++ [.reset]) = none := by
  rw [firstStored, sinceLast_concat_of rfl]
  rfl

/-- What is stored later changes nothing, unless there is a reset. -/
theorem firstStored_append {asked : Place} {trace new : List CellEvent} {v : Value}
    (h : firstStored asked trace = some v) (hnew : CellEvent.reset ∉ new) :
    firstStored asked (trace ++ new) = some v := by
  have hkind : ∀ e ∈ new, e.isReset = false := by
    intro e he
    cases e <;> first | rfl | exact absurd he hnew
  rw [firstStored, sinceLast_append hkind, List.findSome?_append]
  rw [firstStored] at h
  rw [h, Option.some_or]

/-! ## Calls -/

/-- A session and what has happened to its cells. -/
abbrev Watched := Recorded Session CellEvent

open Recorded

namespace Place

/-- The cell of a place. -/
def part (p : Place) : Part Watched Cell := statePart.comp (Session.cellPart (.text p.cell))

/-- Records what `init` computes as stored, as it is if there is no value yet. -/
def storing (p : Place) (init : Act Watched Value) : Act Watched Value := do
  let v ← init
  if ((← statePart.read).held p).isNone then note (.stored p v)
  return v

/-- Asks for the value at a place, in the cell that has to be there. -/
def ask (p : Place) (init : Act Watched Value) : Act Watched Value := do
  if (← statePart.within (Session.findCell (.text p.cell))).has p.compartment then
    Cache.getOrInit (p.part.comp p.compartment.cache) p.compartment.key (p.storing init)
  else throw .wrongType

/-- Asks for the value at a place, and records the answer. -/
def answering (p : Place) (init : Act Watched Value) : Act Watched Value := do
  let v ← p.ask init
  note (.answered p v)
  return v

end Place

namespace Session

/-- Whether there is a cell that has the value at a place. -/
def offers (s : Session) (p : Place) : Prop :=
  ∃ c, s.cell? p.cell = some c ∧ c.has p.compartment = true

theorem offers_of_held {s : Session} {p : Place} {v : Value} (h : s.held p = some v) :
    s.offers p := by
  obtain ⟨c, hc, hv⟩ := Option.bind_eq_some_iff.mp h
  exact ⟨c, hc, Cell.has_of_value? hv⟩

end Session

namespace Place

variable {p : Place} {init : Act Watched Value} {r t : Watched} {v : Value} {f : Fault} {c : Cell}

private theorem part_get (h : r.state.cell? p.cell = some c) : p.part.get r = c := by
  show (r.state.cell? p.cell).getD default = c
  rw [h]
  rfl

/-- The cache of a place is where its value is held. -/
private theorem cache_get? (h : r.state.offers p) :
    Assoc.get? p.compartment.key ((p.part.comp p.compartment.cache).get r) = r.state.held p := by
  obtain ⟨c, hc, -⟩ := h
  show Cell.value? p.compartment (p.part.get r) = _
  rw [part_get hc, Session.held, hc]
  rfl

private theorem cache_set (h : r.state.cell? p.cell = some c) :
    let cache := p.part.comp p.compartment.cache
    cache.set (Assoc.set p.compartment.key v (cache.get r)) r =
      { r with state := r.state.withCell p.cell (c.storing p.compartment v) } := by
  simp only [Part.comp, part_get h]
  rfl

private theorem runOn_ask (h : r.state.offers p) :
    (p.ask init).runOn r =
      (Cache.getOrInit (p.part.comp p.compartment.cache) p.compartment.key
        (p.storing init)).runOn r := by
  obtain ⟨c, hc, hm⟩ := h
  simp only [ask, Act.runOn_bind, Part.runOn_within, statePart_get, Session.runOn_findCell, hc, hm,
    ↓reduceIte, statePart_set]

/-- Without a cell for the place a call fails and does nothing. -/
theorem runOn_ask_of_not_offers (h : ¬r.state.offers p) :
    ∃ f, (p.ask init).runOn r = (.error f, r) := by
  simp only [ask, Act.runOn_bind, Part.runOn_within, statePart_get, Session.runOn_findCell]
  cases hc : r.state.cell? p.cell with
  | none => exact ⟨_, rfl⟩
  | some c =>
    have hm : c.has p.compartment = false := by
      by_contra hm
      exact h ⟨c, hc, by simpa using hm⟩
    simp only [hm, Bool.false_eq_true, ↓reduceIte]
    exact ⟨_, rfl⟩

/-- A value that is held is answered without an initialisation. -/
theorem runOn_ask_of_held (h : r.state.held p = some v) : (p.ask init).runOn r = (.ok v, r) := by
  have ho := Session.offers_of_held h
  rw [runOn_ask ho, Cache.runOn_getOrInit_of_some ((cache_get? ho).trans h)]

private theorem runOn_storing (h : init.runOn r = (.ok v, t)) :
    (p.storing init).runOn r =
      (.ok v,
        if (t.state.held p).isNone then { t with trace := t.trace ++ [.stored p v] } else t) := by
  simp only [storing, Act.runOn_bind, h, Part.runOn_read, statePart_get]
  split <;> rfl

/-- A failing initialisation stores nothing: what there is afterwards is what it left behind. -/
theorem runOn_ask_of_error (ho : r.state.offers p) (h : r.state.held p = none)
    (hinit : init.runOn r = (.error f, t)) : (p.ask init).runOn r = (.error f, t) := by
  rw [runOn_ask ho, Cache.runOn_getOrInit_of_error ((cache_get? ho).trans h)]
  simp only [storing, Act.runOn_bind, hinit]

/-- What an initialisation computes is stored, unless a value has been stored meanwhile. -/
theorem runOn_ask_of_ok (ho : r.state.offers p) (h : r.state.held p = none)
    (hinit : init.runOn r = (.ok v, t)) (hc : t.state.cell? p.cell = some c)
    (hm : c.has p.compartment = true) :
    (p.ask init).runOn r =
      match t.state.held p with
      | some w => (.ok w, t)
      | none => (.ok v, ⟨t.state.withCell p.cell (c.storing p.compartment v),
          t.trace ++ [.stored p v]⟩) := by
  rw [runOn_ask ho, Cache.runOn_getOrInit_of_ok ((cache_get? ho).trans h) (runOn_storing hinit)]
  cases hh : t.state.held p with
  | some w =>
    simp only [Option.isNone_some, Bool.false_eq_true, ↓reduceIte,
      (cache_get? ⟨c, hc, hm⟩).trans hh]
  | none =>
    have hg := (cache_get? (r := { t with trace := t.trace ++ [.stored p v] }) ⟨c, hc, hm⟩).trans hh
    have hset := cache_set (r := { t with trace := t.trace ++ [.stored p v] }) (v := v) hc
    simp only [Option.isNone_none, ↓reduceIte, hg, hset]

end Place

/-- What computes a value, one thing after the other: work on a session apart from its cells, make
cells, and ask them for values. What comes next depends on the outcome, so a failure may be caught
or passed on. -/
inductive Initialiser : Type 1 where
  | leave (outcome : Except Fault Value)
  | work {α : Type} (act : Act Session α) (next : Except Fault α → Initialiser)
  | make (name : String) (cell : Cell) (next : Initialiser)
  | ask (p : Place) (init : Initialiser) (next : Except Fault Value → Initialiser)

namespace Session

/-- Work that leaves the cells as they are. -/
def besideCells {α : Type} (act : Act Session α) : Act Session α :=
  Act.ofRun fun s => ((act.runOn s).1, { (act.runOn s).2 with cells := s.cells })

/-- Makes a cell without values, under a name of its own. -/
def makeCell (name : String) (c : Cell) : Act Session Unit := do
  if ((← state).cell? name).isNone then addCell (.text name) c.reset

end Session

/-- Runs an initialisation. -/
def Initialiser.run : Initialiser → Act Watched Value
  | leave outcome => Act.ofExcept outcome
  | work act next => do
    let outcome ← (statePart.within (Session.besideCells act)).attempt
    (next outcome).run
  | make name c next => do
    statePart.within (Session.makeCell name c)
    next.run
  | ask p init next => do
    let outcome ← (p.answering init.run).attempt
    (next outcome).run

/-! ## Soundness -/

namespace Watched

/-- What has been answered was stored first, at the time of every answer. -/
def AnswersFirst (trace : List CellEvent) : Prop :=
  ∀ before p v after, trace = before ++ .answered p v :: after → firstStored p before = some v

/-- The cells hold what was stored first, and all answers were so. -/
structure Sound (r : Watched) : Prop where
  holds : ∀ p, r.state.held p = firstStored p r.trace
  answers : AnswersFirst r.trace

/-- What an initialisation does: no cell goes, nor changes its kind. -/
structure Leads (r t : Watched) : Prop where
  sound : Sound t
  cells : ∀ name c, r.state.cell? name = some c →
    ∃ d, t.state.cell? name = some d ∧ d.reset = c.reset

theorem Leads.refl {r : Watched} (h : Sound r) : Leads r r := ⟨h, fun _ c hc => ⟨c, hc, rfl⟩⟩

theorem Leads.trans {r t u : Watched} (h : Leads r t) (h' : Leads t u) : Leads r u := by
  refine ⟨h'.sound, fun name c hc => ?_⟩
  obtain ⟨d, hd, hdc⟩ := h.cells name c hc
  obtain ⟨e, he, hed⟩ := h'.cells name d hd
  exact ⟨e, he, hed.trans hdc⟩

/-- The cell of a place is still there afterwards, and of its kind. -/
theorem Leads.offers {r t : Watched} (h : Leads r t) {p : Place} (ho : r.state.offers p) :
    ∃ c, t.state.cell? p.cell = some c ∧ c.has p.compartment = true := by
  obtain ⟨c, hc, hm⟩ := ho
  obtain ⟨d, hd, hdc⟩ := h.cells p.cell c hc
  exact ⟨d, hd, (Cell.has_of_reset_eq hdc _).trans hm⟩

/-- A computation that keeps soundness, from wherever it starts. -/
def Minds {α : Type} (act : Act Watched α) : Prop := ∀ r, Sound r → Leads r (act.runOn r).2

section Acts

variable {α β : Type}

/-- Computations that keep soundness do so in a row. -/
theorem minds_bind {act : Act Watched α} {next : α → Act Watched β} (h : Minds act)
    (hnext : ∀ a, Minds (next a)) : Minds (act >>= next) := by
  intro r hr
  have hact := h r hr
  rw [Act.runOn_bind]
  generalize act.runOn r = o at hact ⊢
  rcases o with ⟨_ | a, t⟩
  · exact hact
  · exact hact.trans (hnext a t hact.sound)

private theorem minds_attempt {act : Act Watched α} (h : Minds act) : Minds act.attempt :=
  fun r hr => h r hr

private theorem minds_ofExcept (o : Except Fault α) : Minds (Act.ofExcept o) := by
  intro r hr
  rw [Act.runOn_ofExcept]
  exact .refl hr

private theorem minds_besideCells (act : Act Session α) :
    Minds (statePart.within (Session.besideCells act)) :=
  fun _ hr => ⟨⟨hr.holds, hr.answers⟩, fun _ c hc => ⟨c, hc, rfl⟩⟩

end Acts

/-! ## Operations -/

private theorem answersFirst_concat {trace : List CellEvent} (h : AnswersFirst trace)
    {e : CellEvent}
    (he : ∀ p v, e = .answered p v → firstStored p trace = some v) :
    AnswersFirst (trace ++ [e]) := by
  intro before p v after heq
  rcases cases_of_concat_eq heq with ⟨rfl, hlast, -⟩ | ⟨rest, -, hbefore⟩
  · exact he p v hlast.symm
  · exact h before p v rest hbefore

/-- Answering what is held adds an answer and changes no cell. -/
private theorem leads_answered {r : Watched} (hr : Sound r) {p : Place} {v : Value}
    (h : r.state.held p = some v) : Leads r { r with trace := r.trace ++ [.answered p v] } := by
  refine ⟨⟨fun q => ?_, answersFirst_concat hr.answers ?_⟩, fun _ c hc => ⟨c, hc, rfl⟩⟩
  · rw [firstStored_concat rfl, ← hr.holds]
    simp [CellEvent.valueFor]
  · rintro q w ⟨⟩
    rw [← hr.holds, h]

/-- A value is stored where there is none yet, so it is the first one. -/
theorem leads_stored {r : Watched} (hr : Sound r) {p : Place} {c : Cell}
    (hc : r.state.cell? p.cell = some c) (hm : c.has p.compartment = true)
    (h : r.state.held p = none) (v : Value) :
    Leads r ⟨r.state.withCell p.cell (c.storing p.compartment v), r.trace ++ [.stored p v]⟩ := by
  have hv : c.value? p.compartment = none := by simpa [Session.held, hc] using h
  refine ⟨⟨fun q => ?_, answersFirst_concat hr.answers (by simp)⟩, fun name d hd => ?_⟩
  · rw [firstStored_concat rfl, ← hr.holds, Session.held, Session.cell?_withCell]
    by_cases hq : p.cell = q.cell
    · simp [hq ▸ hc, hq, Session.held, Cell.value?_storing hm hv, CellEvent.valueFor, Place.serves]
    · simp [hq, Session.held, CellEvent.valueFor, Place.serves]
  · rw [Session.cell?_withCell]
    by_cases hn : p.cell = name
    · obtain rfl : c = d := Option.some.inj (hc.symm.trans (hn ▸ hd))
      exact ⟨_, if_pos hn, Cell.reset_storing _ _ _⟩
    · exact ⟨d, (if_neg hn).trans hd, rfl⟩

/-- A new cell is empty, and nothing was stored at a place in it. -/
theorem minds_makeCell (name : String) (c : Cell) :
    Minds (statePart.within (Session.makeCell name c)) := by
  intro r hr
  simp only [Part.runOn_within, statePart_get, statePart_set, Session.makeCell, Session.state,
    Act.runOn_bind, Part.runOn_read, Part.whole_get]
  cases hc : r.state.cell? name with
  | some d =>
    exact .refl hr
  | none =>
    show Leads r ⟨r.state.withCell name c.reset, r.trace⟩
    refine ⟨⟨fun p => ?_, hr.answers⟩, fun other d hd => ⟨d, ?_, rfl⟩⟩
    · rw [← hr.holds, Session.held, Session.cell?_withCell]
      by_cases hp : name = p.cell
      · rw [if_pos hp, Session.held, ← hp, hc]
        exact Cell.value?_reset _ _
      · rw [if_neg hp, Session.held]
    · -- A cell that is there already is not made again.
      have hne : name ≠ other := fun h => by simp [h, hd] at hc
      rw [Session.cell?_withCell, if_neg hne, hd]

/-- A call keeps soundness if its initialisation does. -/
theorem minds_answering {init : Act Watched Value} (h : Minds init) (p : Place) :
    Minds (p.answering init) := by
  intro r hr
  rw [Place.answering, Act.runOn_bind]
  by_cases ho : r.state.offers p
  swap
  · obtain ⟨f, hf⟩ : ∃ f, (p.ask init).runOn r = (.error f, r) := Place.runOn_ask_of_not_offers ho
    rw [hf]
    exact .refl hr
  cases hh : r.state.held p with
  | some v =>
    rw [Place.runOn_ask_of_held hh]
    exact leads_answered hr hh
  | none =>
    have hinit := h r hr
    generalize he : init.runOn r = o at hinit
    rcases o with ⟨f | v, t⟩
    · rw [Place.runOn_ask_of_error ho hh he]
      exact hinit
    obtain ⟨c, hc, hm⟩ := hinit.offers ho
    rw [Place.runOn_ask_of_ok ho hh he hc hm]
    -- The initialisation may have called for the place itself, and then its value is dropped.
    cases ht : t.state.held p with
    | some w => exact hinit.trans (leads_answered hinit.sound ht)
    | none =>
      have hstored := leads_stored hinit.sound hc hm ht v
      refine hinit.trans (hstored.trans (leads_answered hstored.sound ?_))
      have hv : c.value? p.compartment = none := by simpa [Session.held, hc] using ht
      simp [Session.held, Session.cell?_withCell, Cell.value?_storing hm hv, hv]

/-- Initialisations that call for values themselves are taken apart by their structure. -/
theorem minds_run (init : Initialiser) : Minds init.run := by
  induction init with
  | leave outcome => exact minds_ofExcept outcome
  | work act next ih => exact minds_bind (minds_attempt (minds_besideCells act)) ih
  | make name c next ih => exact minds_bind (minds_makeCell name c) fun _ => ih
  | ask p init next hinit hnext =>
    exact minds_bind (minds_attempt (minds_answering hinit p)) hnext

end Watched

/-! ## Runs -/

/-- What is done with cells from outside: work like that of an initialisation, and resets, by
themselves or at the end of a connection. -/
inductive CellStep : Type 1 where
  | work (init : Initialiser)
  | resetAll
  | shutDown

/-- Does one thing after the other, whether it fails or not. -/
def CellStep.after : CellStep → Watched → Watched
  | work init, r => (init.run.runOn r).2
  | resetAll, r => ⟨r.state.resetCaches, r.trace ++ [.reset]⟩
  | shutDown, r => ⟨r.state.shutdown, r.trace ++ [.reset]⟩

namespace Watched

/-- A session without cells. -/
def opened (s : Session) : Watched := { state := { s with cells := [] } }

/-- The session after some steps. -/
def run (steps : List CellStep) (r : Watched) : Watched :=
  steps.foldl (fun r step => step.after r) r

private theorem sound_opened (s : Session) : Sound (opened s) where
  holds _ := rfl
  answers before p v after h := by simp [opened] at h

private theorem sound_reset {r : Watched} (hr : Sound r) {s : Session} (h : ∀ p, s.held p = none) :
    Sound ⟨s, r.trace ++ [.reset]⟩ where
  holds p := by rw [firstStored_reset, h]
  answers := answersFirst_concat hr.answers (by simp)

/-- Whatever is done from outside keeps soundness. -/
theorem sound_after {r : Watched} (hr : Sound r) (step : CellStep) : Sound (step.after r) := by
  cases step with
  | work init => exact (minds_run init r hr).sound
  | resetAll | shutDown => exact sound_reset hr (Session.held_resetCaches r.state)

/-- So a whole run does. -/
theorem sound_run {r : Watched} (hr : Sound r) (steps : List CellStep) : Sound (run steps r) := by
  induction steps generalizing r with
  | nil => exact hr
  | cons step steps ih => exact ih (sound_after hr step)

end Watched

open Watched

/-- Two places are one if whatever is stored is found at both or at neither. Equal keys of a cell
are one as long as equality is transitive among the keys in use. -/
def Place.Alike (trace : List CellEvent) (p q : Place) : Prop :=
  ∀ stored v, .stored stored v ∈ trace → stored.serves p = stored.serves q

/-- Places that are one have the same first value. -/
theorem firstStored_of_alike {p q : Place} {trace before : List CellEvent} (h : p.Alike trace q)
    (hsub : before ⊆ trace) : firstStored p before = firstStored q before := by
  have hvalue : ∀ e ∈ sinceLast CellEvent.isReset before, e.valueFor p = e.valueFor q := by
    intro e he
    have hmem : e ∈ trace := hsub ((List.rtakeWhile_suffix _ _).subset he)
    cases e with
    | stored stored v => simp only [CellEvent.valueFor, h stored v hmem]
    | answered | reset => rfl
  rw [firstStored, ← List.head?_filterMap, List.filterMap_congr hvalue, List.head?_filterMap]
  rfl

/-- Whatever was stored first came after the last reset. -/
theorem exists_stored_of_firstStored {p : Place} {before between : List CellEvent} {v : Value}
    (h : firstStored p (before ++ .reset :: between) = some v) :
    ∃ q, .stored q v ∈ between ∧ q.serves p = true := by
  obtain ⟨e, he, hv⟩ := List.exists_of_findSome?_eq_some h
  have hmem : e ∈ between := (sinceLast_suffix rfl before between).subset he
  cases e with
  | stored q w =>
    simp only [CellEvent.valueFor, Option.ite_none_right_eq_some, Option.some.injEq] at hv
    exact ⟨q, hv.2 ▸ hmem, hv.1⟩
  | answered | reset => cases hv

/-- Whatever initialisations do, nested in each other to any depth, and however steps and resets
follow each other: a place holds what was stored there first since the last reset, and every answer
is what was stored first by then. So two answers for one place are the same unless there is a reset
between them, and what is answered after a reset was stored after it. An initialisation that fails
stores nothing of its own: the call for it ends in the state that it leaves behind. -/
theorem answers_are_first_stored (s : Session) (steps : List CellStep) :
    let r := Watched.run steps (opened s)
    (∀ p, r.state.held p = firstStored p r.trace) ∧
      (∀ before p v after, r.trace = before ++ .answered p v :: after →
        firstStored p before = some v) ∧
      (∀ before p v between q w after,
        r.trace = before ++ .answered p v :: (between ++ .answered q w :: after) →
        p.Alike r.trace q → .reset ∉ between → v = w) ∧
      (∀ before between p v after,
        r.trace = before ++ .reset :: (between ++ .answered p v :: after) →
        ∃ q, .stored q v ∈ between ∧ q.serves p = true) ∧
      ∀ (r t : Watched) (p : Place) (init : Initialiser) (f : Fault), r.state.offers p →
        r.state.held p = none → init.run.runOn r = (.error f, t) →
        (p.ask init.run).runOn r = (.error f, t) := by
  intro r
  have hr : Sound r := sound_run (sound_opened s) steps
  refine ⟨hr.holds, hr.answers, ?_, ?_, fun r t p init f => Place.runOn_ask_of_error⟩
  · intro before p v between q w after htrace halike hno
    have hfirst : firstStored p before = some v := hr.answers _ _ _ _ htrace
    have hmore : .reset ∉ .answered p v :: between := by simpa using hno
    have hkept : firstStored p (before ++ .answered p v :: between) = some v :=
      firstStored_append hfirst hmore
    have hlater : r.trace = (before ++ .answered p v :: between) ++ .answered q w :: after := by
      rw [htrace, List.append_assoc, List.cons_append]
    have hsub : before ++ .answered p v :: between ⊆ r.trace :=
      hlater ▸ List.subset_append_left _ _
    have hanswer : firstStored q (before ++ .answered p v :: between) = some w :=
      hr.answers _ _ _ _ hlater
    rw [firstStored_of_alike halike hsub, hanswer] at hkept
    exact (Option.some.inj hkept).symm
  · intro before between p v after htrace
    have hlater : r.trace = (before ++ .reset :: between) ++ .answered p v :: after := by
      rw [htrace, List.append_assoc, List.cons_append]
    exact exists_stored_of_firstStored (hr.answers _ _ _ _ hlater)

/-- The initialisation of a cell asks the cell itself, and its own value is dropped. After a reset
another one is stored. -/
example :
    let p : Place := ⟨"cell", .only⟩
    let nested : Initialiser := .ask p (.leave (.ok (.int 1))) fun _ => .leave (.ok (.int 2))
    let steps := [.work (.make "cell" (.once []) (.ask p nested .leave)), .resetAll,
      .work (.ask p (.leave (.ok (.int 3))) .leave)]
    (Watched.run steps (opened {})).trace =
      [.stored p (.int 1), .answered p (.int 1), .answered p (.int 1), .reset,
        .stored p (.int 3), .answered p (.int 3)] := by
  rfl

end Bindery
