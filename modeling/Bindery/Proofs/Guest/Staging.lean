import Bindery.Proofs.Guest.Memory

/-!
# Staged data stays what it is

Scopes that stage data in the memory of a guest, one inside of the other. However they are left, the
ranges that the scopes still open were given lie in the memory, on multiples of eight, and have no
byte in common, and each holds what was staged there until something is written to it. A scope that
is left takes back what was staged inside of it, whichever of the scopes asked for it.

* `Region`, `Arena`: a staged range, and a memory with the ranges of the open scopes.
* `Arena.Sound`: what holds of them all.
* `Staging`, `Staging.run`: what stands inside of a scope, run on an arena with a record of every
  call and every scope that was left (`Moment`).
* `Staging.RanWithin`: what stands inside of a scope was run and ended like the scope.
* `staging_sound`: every moment of a run is as it should be.
-/

namespace Bindery

open LinearMemory (alignUp room)

/-! ## Regions -/

/-- A range that was given out, with the bytes that were put there. -/
structure Region where
  start : Int
  data : Bytes
  /-- Whether something was written to its bytes since. -/
  written : Bool := false

namespace Region

variable (r : Region)

/-- Where the space ends that was set aside for it, at least one byte. -/
def stop : Int := r.start + room r.data.length

/-- Two regions without a common byte. -/
def Apart (r s : Region) : Prop := r.stop ≤ s.start ∨ s.stop ≤ r.start

/-- Whether a write of some bytes meets those of the region. -/
def meets (ptr : Int) (size : Nat) : Bool :=
  max r.start ptr < min (r.start + r.data.length) (ptr + size)

/-- The region after a write of some bytes. -/
def mark (ptr : Int) (size : Nat) : Region := { r with written := r.written || r.meets ptr size }

/-- Where the region is, and what was put there. -/
def place : Int × Bytes := (r.start, r.data)

@[simp] theorem place_mark (ptr : Int) (size : Nat) : (r.mark ptr size).place = r.place := rfl

/-- Where a region ends is known from its place. -/
private theorem stop_of_place {r s : Region} (h : r.place = s.place) : r.stop = s.stop := by
  obtain ⟨hstart, hdata⟩ := Prod.mk.inj h
  simp only [stop, hstart, hdata]

end Region

/-! ## Arenas -/

/-- A memory with what was staged in it and not taken back. -/
structure Arena where
  memory : LinearMemory
  /-- What was staged in the innermost scope. -/
  inner : List Region := []
  /-- What was staged in each scope around it, and outside of all scopes. -/
  outer : List (List Region) := []

namespace Arena

variable (a : Arena)

/-- All that was staged in the scopes that are open. -/
def regions : List Region := a.inner ++ a.outer.flatten

/-- The regions of the open scopes: they lie below the top, on multiples of eight, inside of the
memory and apart, and what nothing was written to since holds what was put there. -/
structure Sound : Prop where
  below : ∃ top : Int, a.memory.top = .int top ∧ ∀ r ∈ a.regions, r.stop ≤ top
  aligned : ∀ r ∈ a.regions, 8 ∣ r.start
  inside : ∀ r ∈ a.regions, 0 ≤ r.start ∧ r.stop ≤ a.memory.size
  apart : a.regions.Pairwise Region.Apart
  kept : ∀ r ∈ a.regions, r.written = false →
    a.memory.read (.int r.start) (.int r.data.length) = .ok r.data

/-- One more region in the innermost scope. -/
def stage (r : Region) : Arena := { a with inner := r :: a.inner }

/-- A write of some bytes, as the regions see it. -/
def written (ptr : Int) (size : Nat) : Arena :=
  { a with
    inner := a.inner.map (·.mark ptr size)
    outer := a.outer.map (·.map (·.mark ptr size)) }

/-- A scope is entered. -/
def enter : Arena := { a with inner := [], outer := a.inner :: a.outer }

/-- The innermost scope is left. -/
def leave : Arena := { a with inner := a.outer.headD [], outer := a.outer.tail }

/-- Where the regions of the scopes around the innermost one are. -/
def outerPlaces : List (List (Int × Bytes)) := a.outer.map (·.map Region.place)

/-- Where the regions of all open scopes are. -/
def places : List (List (Int × Bytes)) := a.inner.map Region.place :: a.outerPlaces

/-- The memory of an arena. -/
def memoryPart : Part Arena LinearMemory := ⟨memory, fun m a => { a with memory := m }⟩

variable {a}

theorem regions_stage (r : Region) : (a.stage r).regions = r :: a.regions := rfl

/-- A write moves no region, it only marks some. -/
theorem regions_written (ptr : Int) (size : Nat) :
    (a.written ptr size).regions = a.regions.map (·.mark ptr size) := by
  simp [regions, written, List.map_flatten]

/-- The regions of the innermost scope are gone once it is left. -/
theorem regions_leave : a.leave.regions = a.outer.flatten := by
  simp only [regions, leave]
  cases a.outer <;> simp

/-! ## What keeps an arena sound -/

/-- What is read of a region that lies in the memory. -/
private theorem read_region {m : LinearMemory} {r : Region} (h : 0 ≤ r.start ∧ r.stop ≤ m.size) :
    m.read (.int r.start) (.int r.data.length) = .ok (m.cells.read r.start r.data.length) := by
  have hroom : m.Contains r.start (room r.data.length) := ⟨h.1, by omega, h.2⟩
  rw [LinearMemory.read_int, if_pos hroom.of_room]

/-- A write that does not meet the bytes of a region leaves them as they were. -/
private theorem kept_write {m m' : LinearMemory} {r : Region} {ptr : Int} {data : Bytes}
    (hin : 0 ≤ r.start ∧ r.stop ≤ m.size) (hsize : m'.size = m.size)
    (hcells : m'.cells = m.cells.write ptr data) (hmeets : r.meets ptr data.length = false)
    (hkept : m.read (.int r.start) (.int r.data.length) = .ok r.data) :
    m'.read (.int r.start) (.int r.data.length) = .ok r.data := by
  rw [read_region hin] at hkept
  rw [read_region (hsize ▸ hin), hcells, ← hkept]
  -- A write without bytes, or one elsewhere: `meets` compares the bytes alone.
  have hbytes : r.start + r.data.length ≤ ptr ∨ ptr + data.length ≤ r.start ∨
      data.length = 0 ∨ r.data.length = 0 := by
    simp only [Region.meets, decide_eq_false_iff_not] at hmeets
    omega
  rcases hbytes with h | h | h | h
  · rw [Cells.read_write_of_disjoint (.inl h)]
  · rw [Cells.read_write_of_disjoint (.inr h)]
  · rw [List.length_eq_zero_iff.mp h, Cells.write_nil]
  · simp [h, Cells.read]

/-- Space that fits above the top is given out and filled. -/
theorem Sound.staged (h : a.Sound) {top : Int} (htop : a.memory.top = .int top) {data : Bytes}
    (hfit : a.memory.Contains (alignUp top 8) (room data.length)) :
    ({ a with memory := a.memory.staged (alignUp top 8) data }.stage
      { start := alignUp top 8, data }).Sound := by
  obtain ⟨top', htop', hbelow⟩ := h.below
  obtain rfl : top' = top := by simpa [htop] using htop'.symm
  have hroom : (data.length : Int) ≤ room data.length := by simp only [room]; omega
  -- All older regions end below the new one, so none of them meets it.
  have hold : ∀ r ∈ a.regions, r.stop ≤ alignUp top' 8 := fun r hr =>
    Int.le_trans (hbelow r hr) (LinearMemory.le_alignUp top')
  refine ⟨⟨_, rfl, ?_⟩, ?_, ?_, ?_, ?_⟩ <;> simp only [regions_stage, List.forall_mem_cons]
  · exact ⟨Int.le_refl _, fun r hr => by have := hold r hr; omega⟩
  · exact ⟨LinearMemory.dvd_alignUp top', h.aligned⟩
  · exact ⟨⟨hfit.1, hfit.2.2⟩, h.inside⟩
  · exact .cons (fun r hr => .inr (hold r hr)) h.apart
  · refine ⟨fun _ => ?_, fun r hr hw => ?_⟩
    · have hread := read_region (m := a.memory.staged (alignUp top' 8) data)
        (r := { start := alignUp top' 8, data }) ⟨hfit.1, hfit.2.2⟩
      exact hread.trans (congrArg _ (Cells.read_write_self ..))
    · have hmeets : r.meets (alignUp top' 8) data.length = false := by
        have := hold r hr
        simp only [Region.stop, room] at this
        simp only [Region.meets, decide_eq_false_iff_not]
        omega
      exact kept_write (h.inside r hr) rfl rfl hmeets (h.kept r hr hw)

/-- A write somewhere in the memory. -/
theorem Sound.written (h : a.Sound) (ptr : Int) (data : Bytes) :
    ({ a with memory := { a.memory with cells := a.memory.cells.write ptr data } }.written ptr
      data.length).Sound := by
  obtain ⟨top, htop, hbelow⟩ := h.below
  refine ⟨⟨top, htop, ?_⟩, ?_, ?_, ?_, ?_⟩ <;>
    simp only [regions_written, List.forall_mem_map]
  · exact hbelow
  · exact h.aligned
  · exact h.inside
  · exact h.apart.map _ fun _ _ hrs => hrs
  · intro r hr hw
    obtain ⟨hunwritten, hmeets⟩ := Bool.or_eq_false_iff.mp hw
    exact kept_write (h.inside r hr) rfl rfl hmeets (h.kept r hr hunwritten)

theorem Sound.enter (h : a.Sound) : a.enter.Sound :=
  ⟨h.below, h.aligned, h.inside, h.apart, h.kept⟩

/-- A scope is left, and the top goes back to where it was when the scope was entered. -/
theorem Sound.leave {b : Arena} (ha : a.Sound) (hb : b.Sound)
    (hplaces : b.outerPlaces = a.places) :
    ({ b with memory := b.memory.release a.memory.top }.leave).Sound := by
  have hsub : b.outer.flatten.Sublist b.regions := List.sublist_append_right ..
  have hbelow : ∃ top : Int, a.memory.top = .int top ∧ ∀ r ∈ b.outer.flatten, r.stop ≤ top := by
    obtain ⟨top, htop, hbelow⟩ := ha.below
    refine ⟨top, htop, fun r hr => ?_⟩
    have hplace : r.place ∈ a.regions.map Region.place := by
      have hflat : b.outer.flatten.map Region.place = a.regions.map Region.place := by
        simpa [outerPlaces, places, regions, List.map_flatten] using congrArg List.flatten hplaces
      exact hflat ▸ List.mem_map_of_mem hr
    -- The regions have not moved since the scope was entered, so the old top is above them.
    obtain ⟨s, hs, hsr⟩ := List.mem_map.mp hplace
    exact Region.stop_of_place hsr ▸ hbelow s hs
  refine ⟨?_, ?_, ?_, ?_, ?_⟩ <;> simp only [regions_leave]
  · exact hbelow
  · exact fun r hr => hb.aligned r (hsub.mem hr)
  · exact fun r hr => hb.inside r (hsub.mem hr)
  · exact hb.apart.sublist hsub
  · exact fun r hr => hb.kept r (hsub.mem hr)

/-- The scopes around the one that is left keep their regions. -/
theorem places_leave {b : Arena} (h : b.outerPlaces = a.places) : b.leave.places = a.places := by
  rw [← h]
  simp only [outerPlaces, places] at h
  obtain ⟨s, rest, hb, -, -⟩ := List.map_eq_cons_iff.mp h
  simp [places, outerPlaces, leave, hb]

end Arena

/-! ## Calls -/

/-- A call inside of a scope: space of some size, space with some bytes, or a write anywhere. -/
inductive StagingCall where
  | alloc (size : Nat)
  | put (data : Bytes)
  | write (ptr : Int) (data : Bytes)

/-- The outcome of staging some bytes: if they fit above the top, a region is added that holds them,
and `answer` of its offset is the answer; if not, the fault names the range, and nothing changes. -/
def Stages (data : Bytes) (answer : Int → Value) (a : Arena) (outcome : Except Fault Value)
    (b : Arena) : Prop :=
  ∃ top : Int, a.memory.top = .int top ∧
    if a.memory.Contains (alignUp top 8) (room data.length) then
      outcome = .ok (answer (alignUp top 8)) ∧
      b = { a with memory := b.memory }.stage { start := alignUp top 8, data } ∧
      b.memory.read (.int (alignUp top 8)) (.int data.length) = .ok data
    else outcome = .error (.outOfBounds (alignUp top 8) (room data.length)) ∧ b = a

/-- Space that fits is staged as it should be. -/
private theorem Arena.Sound.stages {a : Arena} (h : a.Sound) {top : Int}
    (htop : a.memory.top = .int top)
    {data : Bytes} (hfit : a.memory.Contains (alignUp top 8) (room data.length))
    (answer : Int → Value) :
    let b := { a with memory := a.memory.staged (alignUp top 8) data }.stage
      { start := alignUp top 8, data }
    Stages data answer a (.ok (answer (alignUp top 8))) b ∧ b.Sound ∧
      b.outerPlaces = a.outerPlaces := by
  have hsound := h.staged htop hfit
  refine ⟨⟨top, htop, ?_⟩, hsound, rfl⟩
  rw [if_pos hfit]
  exact ⟨rfl, rfl, hsound.kept { start := alignUp top 8, data } List.mem_cons_self rfl⟩

/-- Space that does not fit is refused, and the arena stays as it is. -/
private theorem Arena.Sound.stages_not {a : Arena} (h : a.Sound) {top : Int}
    (htop : a.memory.top = .int top) {data : Bytes}
    (hfit : ¬a.memory.Contains (alignUp top 8) (room data.length)) (answer : Int → Value) :
    Stages data answer a (.error (.outOfBounds (alignUp top 8) (room data.length))) a ∧ a.Sound ∧
      a.outerPlaces = a.outerPlaces :=
  ⟨⟨top, htop, by rw [if_neg hfit]; exact ⟨rfl, rfl⟩⟩, h, rfl⟩

namespace StagingCall

/-- The call on the memory. -/
def perform : StagingCall → Act LinearMemory Value
  | alloc size => Scratch.alloc .whole (.int size)
  | put data => Scratch.putValue .whole (.bytes data)
  | write ptr data => do
    Scratch.write .whole (.int ptr) data
    return .null

/-- What a call with an outcome means for the regions. -/
def book (a : Arena) : StagingCall → Except Fault Value → Arena
  | alloc size, .ok (.int ptr) => a.stage { start := ptr, data := List.replicate size 0 }
  | put data, .ok (.list [.int ptr, _]) => a.stage { start := ptr, data }
  | write ptr data, .ok _ => a.written ptr data.length
  | _, _ => a

/-- What a call does to an arena. -/
def Answers : StagingCall → Arena → Except Fault Value → Arena → Prop
  | alloc size => Stages (List.replicate size 0) fun ptr => .int ptr
  | put data => Stages data fun ptr => .list [.int ptr, .int data.length]
  | write _ _ => fun a _ b => b.memory.top = a.memory.top

/-- A call keeps the arena sound and leaves the scopes around the innermost one alone. -/
theorem sound_call {a : Arena} (h : a.Sound) (c : StagingCall) :
    let (outcome, memory) := c.perform.runOn a.memory
    let b := c.book { a with memory } outcome
    c.Answers a outcome b ∧ b.Sound ∧ b.outerPlaces = a.outerPlaces := by
  obtain ⟨top, htop, -⟩ := h.below
  cases c with
  | alloc size =>
    have hlen : (List.replicate size (0 : UInt8)).length = size := List.length_replicate
    simp only [perform, Scratch.runOn_alloc htop]
    by_cases hfit : a.memory.Contains (alignUp top 8) (room size)
    · rw [if_pos hfit]
      exact h.stages htop (hlen.symm ▸ hfit) fun ptr => .int ptr
    · rw [if_neg hfit]
      have hstages := h.stages_not htop (hlen.symm ▸ hfit) fun ptr => .int ptr
      rwa [hlen] at hstages
  | put data =>
    simp only [perform, Scratch.runOn_putValue htop]
    by_cases hfit : a.memory.Contains (alignUp top 8) (room data.length)
    · rw [if_pos hfit]
      exact h.stages htop hfit fun ptr => .list [.int ptr, .int data.length]
    · rw [if_neg hfit]
      exact h.stages_not htop hfit fun ptr => .list [.int ptr, .int data.length]
  | write ptr data =>
    simp only [perform, Act.runOn_bind, Scratch.runOn_write]
    by_cases hfit : a.memory.Contains ptr data.length
    · rw [if_pos hfit]
      refine ⟨rfl, h.written ptr data, ?_⟩
      simp [book, Arena.written, Arena.outerPlaces, Function.comp_def]
    · rw [if_neg hfit]
      exact ⟨rfl, h, rfl⟩

end StagingCall

/-! ## Scopes -/

/-- What stands inside of a scope: calls and further scopes, one after the other. What comes next
depends on the outcome so far, so a failure may be caught or passed on. -/
inductive Staging where
  | leave (outcome : Except Fault Unit)
  | call (c : StagingCall) (next : Except Fault Value → Staging)
  | scope (inner : Staging) (next : Except Fault Unit → Staging)

/-- An event of a run: a call, or a scope that was left, with the arenas around it. -/
inductive Moment where
  | called (c : StagingCall) (before : Arena) (outcome : Except Fault Value) (after : Arena)
  | left (inner : Staging) (before : Arena) (outcome : Except Fault Unit) (after : Arena)

/-- The memory of an arena under observation. -/
def stagedMemory : Part (Recorded Arena Moment) LinearMemory :=
  Recorded.statePart.comp Arena.memoryPart

/-- Runs what stands inside of a scope under observation. -/
def Staging.run : Staging → Act (Recorded Arena Moment) Unit
  | leave outcome => Act.ofExcept outcome
  | call c next => do
    let before ← Recorded.statePart.read
    let outcome ← (stagedMemory.within c.perform).attempt
    Recorded.statePart.modify fun a => c.book a outcome
    Recorded.note (.called c before outcome (← Recorded.statePart.read))
    (next outcome).run
  | scope inner next => do
    let before ← Recorded.statePart.read
    Recorded.statePart.modify Arena.enter
    let outcome ← (Scratch.withScratch stagedMemory inner.run).attempt
    Recorded.statePart.modify Arena.leave
    Recorded.note (.left inner before outcome (← Recorded.statePart.read))
    (next outcome).run

/-- The arena after a scope was left that was entered with another one. -/
def Arena.restored (inside before : Arena) : Arena :=
  { inside with memory := inside.memory.release before.memory.top }.leave

/-- What stands inside of a scope was run from the arena with the scope entered, and it ended like
the scope, in an arena that differs from the one after the scope by what the scope took back. -/
def Staging.RanWithin (inner : Staging) (before : Arena) (outcome : Except Fault Unit)
    (after : Arena) : Prop :=
  ∃ trace inside, inner.run.runOn { state := before.enter, trace } = (outcome, inside) ∧
    after = inside.state.restored before

/-- The regions are sound, and the event did what it should: a scope that is left has run what
stands inside of it, restores the top and keeps the regions of the scopes around it. -/
def Moment.Right : Moment → Prop
  | called c before outcome after => after.Sound ∧ c.Answers before outcome after
  | left inner before outcome after =>
    after.Sound ∧ inner.RanWithin before outcome after ∧ after.memory.top = before.memory.top ∧
      after.places = before.places

/-- From one point of a run to a later one within the same scope. -/
structure Recorded.Proceeds (r r' : Recorded Arena Moment) : Prop where
  sound : r'.state.Sound
  outer : r'.state.outerPlaces = r.state.outerPlaces
  trace : ∃ moments, r'.trace = r.trace ++ moments ∧ ∀ moment ∈ moments, moment.Right

namespace Recorded.Proceeds

variable {r r' r'' : Recorded Arena Moment}

theorem trans (h : r.Proceeds r') (h' : r'.Proceeds r'') : r.Proceeds r'' := by
  obtain ⟨moments, htrace, hright⟩ := h.trace
  obtain ⟨more, htrace', hright'⟩ := h'.trace
  refine ⟨h'.sound, h'.outer.trans h.outer, moments ++ more, ?_, ?_⟩
  · rw [htrace', htrace, List.append_assoc]
  · exact fun moment hm => (List.mem_append.mp hm).elim (hright moment) (hright' moment)

/-- An event that goes on from the point that was reached. -/
theorem event {b : Arena} {moment : Moment} (hb : b.Sound)
    (houter : b.outerPlaces = r.state.outerPlaces) (hright : moment.Right) :
    r.Proceeds { state := b, trace := r.trace ++ [moment] } :=
  ⟨hb, houter, [moment], rfl, by simpa using hright⟩

end Recorded.Proceeds

/-- One call. -/
theorem StagingCall.proceeds {r : Recorded Arena Moment} (h : r.state.Sound) (c : StagingCall)
    {outcome : Except Fault Value} {memory : LinearMemory}
    (hrun : c.perform.runOn r.state.memory = (outcome, memory)) :
    let after := c.book { r.state with memory } outcome
    r.Proceeds { state := after, trace := r.trace ++ [.called c r.state outcome after] } := by
  have hcall := c.sound_call h
  rw [hrun] at hcall
  obtain ⟨hanswers, hsound, houter⟩ := hcall
  exact .event hsound houter ⟨hsound, hanswers⟩

/-- A scope, from how its body proceeds inside of it. -/
theorem Recorded.Proceeds.scope {r inside : Recorded Arena Moment} {inner : Staging}
    {outcome : Except Fault Unit} (h : r.state.Sound)
    (hinner : Proceeds { r with state := r.state.enter } inside)
    (hrun : inner.run.runOn { r with state := r.state.enter } = (outcome, inside)) :
    let after := inside.state.restored r.state
    let left := Moment.left inner r.state outcome after
    r.Proceeds { state := after, trace := inside.trace ++ [left] } := by
  intro after left
  have hplaces : inside.state.outerPlaces = r.state.places := hinner.outer
  have hafter : after.Sound := h.leave hinner.sound hplaces
  have hleave : after.places = r.state.places := Arena.places_leave hplaces
  obtain ⟨moments, htrace, hright⟩ := hinner.trace
  refine ⟨hafter, (List.cons.inj hleave).2, moments ++ [left], ?_, ?_⟩
  · simp only [htrace, List.append_assoc]
  · intro moment hm
    rcases List.mem_append.mp hm with hm | hm
    · exact hright moment hm
    · obtain rfl := List.mem_singleton.mp hm
      exact ⟨hafter, ⟨r.trace, inside, hrun, rfl⟩, rfl, hleave⟩

/-- What a run with a scope comes to: the run of its body, its event and then the run of the rest.
Taking the space back does not fail, so the outcome is that of the body. -/
private theorem Staging.runOn_scope {inner : Staging} {next : Except Fault Unit → Staging}
    {r inside : Recorded Arena Moment} {outcome : Except Fault Unit}
    (hrun : inner.run.runOn { r with state := r.state.enter } = (outcome, inside)) :
    let after := inside.state.restored r.state
    (scope inner next).run.runOn r = (next outcome).run.runOn
      { state := after, trace := inside.trace ++ [.left inner r.state outcome after] } := by
  have hscratch := Scratch.runOn_withScratch stagedMemory hrun
  simp only [run, Act.runOn_bind, Part.runOn_read, Part.runOn_modify, Act.runOn_attempt,
    Recorded.runOn_note, Recorded.statePart_get, Recorded.statePart_set, hscratch]
  rfl

/-- A body, whatever it does, proceeds within its scope. -/
theorem Staging.proceeds (body : Staging) (r : Recorded Arena Moment) (h : r.state.Sound) :
    r.Proceeds (body.run.runOn r).2 := by
  -- What the run of a call comes to is its event and then the run of the rest, by computation.
  induction body generalizing r with
  | leave outcome =>
    rw [run, Act.runOn_ofExcept]
    exact ⟨h, rfl, [], by simp⟩
  | call c next ih =>
    have hcall := c.proceeds h rfl
    exact hcall.trans (ih _ _ hcall.sound)
  | scope inner next ihInner ihNext =>
    generalize hrun : inner.run.runOn { r with state := r.state.enter } = result
    obtain ⟨outcome, inside⟩ := result
    have hinner := ihInner { r with state := r.state.enter } h.enter
    rw [hrun] at hinner
    have hscope := Recorded.Proceeds.scope h hinner hrun
    rw [runOn_scope hrun]
    exact hscope.trans (ihNext _ _ hscope.sound)

/-- Whatever is staged and written in scopes one inside of the other, and however each is left,
after every call and after every scope the regions of the open scopes are sound, a call for space
gives the next free range filled as asked for or fails and changes nothing, and a scope that is left
restores the top that it found. -/
theorem staging_sound (memory : LinearMemory) (top : Int) (body : Staging) :
    let start : Arena := { memory := { memory with top := .int top } }
    let final := (body.run.runOn { state := start }).2
    final.state.Sound ∧ ∀ moment ∈ final.trace, moment.Right := by
  have hstart : Arena.Sound { memory := { memory with top := .int top } } := by
    refine ⟨⟨top, rfl, ?_⟩, ?_, ?_, ?_, ?_⟩ <;> simp [Arena.regions]
  obtain ⟨hsound, -, moments, htrace, hright⟩ := body.proceeds { state := _ } hstart
  exact ⟨hsound, by simpa [htrace] using hright⟩

end Bindery
