import Bindery.Handle.Lookup
import Bindery.Proofs.Effect
import Bindery.Session.Connection

/-!
# What look-ups keep of a host's answers

A host may come to know a class or a struct that it did not know before, or forget one. Look-ups
keep the handles of classes and structs, and their callers may keep what look-ups find. The caches
are told here from the host's answers alone: of structs the first handle that counts as true since
the connection began, and of classes the first answer, which may be null.

* `Inquiry`: an answer of the host, and `Primitives.inquiring`: a host whose answers are recorded.
* `Inquirer`: a host with the caches, and `LookupStep`: what happens to them.
* `firstKept`: the first answer to a question that is kept.
* `Inquires`: a computation that keeps just these answers, and fails if an answer was in vain. Every
  look-up is one (`inquires_static`, `inquires_call`).
* `names_asked_until_kept`: the main statement.
-/

namespace Bindery

open Host Recorded

/-- An answer of the host to a question by a name alone or within something, or the end of a
connection. -/
inductive Inquiry where
  | named (kind : Global) (name : Value) (answer : Except Fault Value)
  | within (kind : Member) (owner name : Value) (answer : Except Fault Value)
  | shutDown

/-- Which handles are kept: those of structs only if they count as true. -/
def Host.Global.keeps (kind : Global) (h : Value) : Bool := kind != .struct || h.isTruthy

namespace Inquiry

def isShutDown : Inquiry → Bool
  | shutDown => true
  | _ => false

/-- Whether the host failed, or answered with what makes a look-up fail. -/
def isVain : Inquiry → Bool
  | named kind _ (.ok h) => !kind.keeps h
  | within _ _ _ (.ok h) => !h.isTruthy
  | named _ _ (.error _) | within _ _ _ (.error _) => true
  -- The end of a connection empties the caches, and no answer counts from there on.
  | shutDown => false

/-- The answer to a question for a name, if it is kept. -/
def handleFor (kind : Global) (name : String) : Inquiry → Option Value
  | named asked (.text n) (.ok h) =>
    if asked = kind ∧ n = name ∧ kind.keeps h then some h else none
  | _ => none

/-- An answer is kept for a name just if it was asked by that name and is of a kind that is kept. -/
theorem handleFor_eq_some_iff {kind : Global} {name : String} {e : Inquiry} {h : Value} :
    e.handleFor kind name = some h ↔
      e = .named kind (.text name) (.ok h) ∧ kind.keeps h = true := by
  constructor
  · intro he
    unfold handleFor at he
    split at he
    · obtain ⟨⟨rfl, rfl, hk⟩, heq⟩ := Option.ite_none_right_eq_some.mp he
      obtain rfl := Option.some.inj heq
      exact ⟨rfl, hk⟩
    · cases he
  · rintro ⟨rfl, hk⟩
    simp [handleFor, hk]

theorem handleFor_of_not_keeps {kind : Global} {answer : Except Fault Value}
    (h : ∀ a, answer = .ok a → kind.keeps a = false) (asked : Value) (k : Global)
    (name : String) : (named kind asked answer).handleFor k name = none := by
  refine Option.eq_none_iff_forall_ne_some.mpr fun a ha => ?_
  obtain ⟨heq, hk⟩ := handleFor_eq_some_iff.mp ha
  cases heq
  simp [h a rfl] at hk

end Inquiry

/-- The first answer that is kept since the connection began. -/
def firstKept (kind : Global) (name : String) (trace : List Inquiry) : Option Value :=
  (sinceLast Inquiry.isShutDown trace).findSome? (Inquiry.handleFor kind name)

section Host

variable {σ : Type}

/-- Records the answer of the host. -/
def recordingAnswer (event : Except Fault Value → Inquiry) (act : Act σ Value) :
    Act (Recorded σ Inquiry) Value := do
  let answer ← (statePart.within act).attempt
  note (event answer)
  Act.ofExcept answer

/-- The host with its answers to look-ups recorded. -/
def Host.Primitives.inquiring (host : Primitives σ) : Primitives (Recorded σ Inquiry) :=
  { host.within statePart with
    find := fun kind name => recordingAnswer (.named kind name) (host.find kind name)
    findIn := fun kind owner name =>
      recordingAnswer (.within kind owner name) (host.findIn kind owner name) }

end Host

/-- A host under observation, with what look-ups keep of its answers and with what a caller keeps of
look-ups. -/
structure Inquirer (σ κ : Type) where
  host : Recorded σ Inquiry
  statics : Statics := {}
  kept : Cache κ Value := []

namespace Inquirer

variable {σ κ α β : Type}

def hostPart : Part (Inquirer σ κ) (Recorded σ Inquiry) := ⟨host, fun h w => { w with host := h }⟩

def staticsPart : Part (Inquirer σ κ) Statics := ⟨statics, fun s w => { w with statics := s }⟩

def keptPart : Part (Inquirer σ κ) (Cache κ Value) := ⟨kept, fun c w => { w with kept := c }⟩

/-- The host in use, under observation. -/
def dispatch (dispatch : Act σ (Primitives σ)) :
    Act (Inquirer σ κ) (Primitives (Inquirer σ κ)) := do
  return (← hostPart.within (statePart.within dispatch)).inquiring.within hostPart

/-- The state with another one of the host. -/
def onHost (w : Inquirer σ κ) (s : σ) : Inquirer σ κ :=
  { w with host := { w.host with state := s } }

/-- The state after an answer. -/
def noting (w : Inquirer σ κ) (e : Inquiry) (s : σ) : Inquirer σ κ :=
  { w with host := ⟨s, w.host.trace ++ [e]⟩ }

/-- What a computation does that asks the host and keeps its answers: which answers it got. -/
structure Asks (w t : Inquirer σ κ) (answers : List Inquiry) : Prop where
  trace : t.host.trace = w.host.trace ++ answers
  goesOn : ∀ e ∈ answers, e.isShutDown = false
  kept : t.kept = w.kept
  classes : ∀ name, t.statics.classes.get? name =
    (w.statics.classes.get? name).or (answers.findSome? (Inquiry.handleFor .staticClass name))
  structs : ∀ name, t.statics.structs.get? name =
    (w.statics.structs.get? name).or (answers.findSome? (Inquiry.handleFor .struct name))

/-- A computation that asks the host and keeps its answers, and succeeds only if none was in
vain. -/
def Inquires (act : Act (Inquirer σ κ) α) : Prop :=
  ∀ w, ∃ answers, Asks w (act.runOn w).2 answers ∧
    ((act.runOn w).1.isOk = true → ∀ e ∈ answers, e.isVain = false)

theorem Asks.onHost (w : Inquirer σ κ) (s : σ) : Asks w (w.onHost s) [] where
  trace := (List.append_nil _).symm
  goesOn := by simp
  kept := rfl
  classes _ := Option.or_none.symm
  structs _ := Option.or_none.symm

theorem Asks.refl (w : Inquirer σ κ) : Asks w w [] := .onHost w w.host.state

/-- Answers follow each other, and what is kept first stays. -/
theorem Asks.trans {w t u : Inquirer σ κ} {xs ys : List Inquiry} (h : Asks w t xs)
    (h' : Asks t u ys) : Asks w u (xs ++ ys) where
  trace := by rw [h'.trace, h.trace, List.append_assoc]
  goesOn e he := (List.mem_append.mp he).elim (h.goesOn e) (h'.goesOn e)
  kept := h'.kept.trans h.kept
  classes name := by rw [h'.classes, h.classes, List.findSome?_append, Option.or_assoc]
  structs name := by rw [h'.structs, h.structs, List.findSome?_append, Option.or_assoc]

/-! ## Computations -/

private theorem inquires_ofExcept (o : Except Fault α) :
    Inquires (Act.ofExcept o : Act (Inquirer σ κ) α) := by
  intro w
  rw [Act.runOn_ofExcept]
  exact ⟨[], .refl w, by simp⟩

private theorem inquires_pure (a : α) : Inquires (pure a : Act (Inquirer σ κ) α) :=
  inquires_ofExcept (.ok a)

private theorem inquires_throw (e : Fault) : Inquires (throw e : Act (Inquirer σ κ) α) :=
  inquires_ofExcept (.error e)

private theorem inquires_liftM (o : Except Fault α) :
    Inquires (liftM o : Act (Inquirer σ κ) α) := by
  intro w
  rw [Act.runOn_liftM]
  exact ⟨[], .refl w, by simp⟩

/-- Two computations in a row, of which the second may depend on the first. -/
theorem inquires_bind {act : Act (Inquirer σ κ) α} {next : α → Act (Inquirer σ κ) β}
    (h : Inquires act) (hnext : ∀ a, Inquires (next a)) : Inquires (act >>= next) := by
  intro w
  obtain ⟨xs, hasks, hvain⟩ := h w
  rw [Act.runOn_bind]
  generalize act.runOn w = o at hasks hvain
  rcases o with ⟨e | a, t⟩
  · exact ⟨xs, hasks, nofun⟩
  · obtain ⟨ys, hasks', hvain'⟩ := hnext a t
    refine ⟨xs ++ ys, hasks.trans hasks', fun hok e he => ?_⟩
    exact (List.mem_append.mp he).elim (hvain rfl e) (hvain' hok e)

theorem inquires_mapM {f : α → Act (Inquirer σ κ) β} (h : ∀ a, Inquires (f a)) (xs : List α) :
    Inquires (xs.mapM f) := by
  induction xs with
  | nil => exact inquires_pure []
  | cons x xs ih =>
    rw [List.mapM_cons]
    exact inquires_bind (h x) fun _ => inquires_bind ih fun _ => inquires_pure _

/-- Work on the host that is no look-up. -/
theorem inquires_host (act : Act σ α) :
    Inquires (hostPart.within (statePart.within act) : Act (Inquirer σ κ) α) := fun w =>
  ⟨[], .onHost w (act.runOn w.host.state).2, by simp⟩

/-- Whatever is done with the host in use. -/
theorem inquires_dispatch {dispatch : Act σ (Primitives σ)}
    {next : Primitives (Inquirer σ κ) → Act (Inquirer σ κ) α}
    (h : ∀ host : Primitives σ, Inquires (next (host.inquiring.within hostPart))) :
    Inquires (Inquirer.dispatch dispatch >>= next) := by
  rw [Inquirer.dispatch, bind_assoc]
  refine inquires_bind (inquires_host dispatch) fun host => ?_
  rw [pure_bind]
  exact h host

/-! ## Questions -/

private theorem runOn_dispatch (dispatch : Act σ (Primitives σ))
    (next : Primitives (Inquirer σ κ) → Act (Inquirer σ κ) α) (w : Inquirer σ κ) :
    (Inquirer.dispatch dispatch >>= next).runOn w =
      match dispatch.runOn w.host.state with
      | (.ok host, s) => (next (host.inquiring.within hostPart)).runOn (w.onHost s)
      | (.error e, s) => (.error e, w.onHost s) := by
  simp only [Inquirer.dispatch, Act.runOn_bind, Part.runOn_within, statePart_get, hostPart]
  rcases dispatch.runOn w.host.state with ⟨_ | _, s⟩ <;> rfl

/-- The answer of the host is noted, whether it failed or not. -/
private theorem runOn_recordingAnswer (event : Except Fault Value → Inquiry) (act : Act σ Value)
    (w : Inquirer σ κ) :
    (hostPart.within (recordingAnswer event act)).runOn w =
      ((act.runOn w.host.state).1,
        w.noting (event (act.runOn w.host.state).1) (act.runOn w.host.state).2) := by
  simp only [recordingAnswer, Part.runOn_within, Act.runOn_bind, Act.runOn_attempt, statePart_get,
    statePart_set, runOn_note, Act.runOn_ofExcept]
  rfl

/-- A question to the host in use. -/
def asking (dispatch : Act σ (Primitives σ)) (kind : Global) (name : String) : Act σ Value := do
  (← dispatch).find kind (.text name)

private theorem asks_noting {w : Inquirer σ κ} {e : Inquiry} {statics : Statics}
    (he : e.isShutDown = false)
    (hclasses : ∀ name, statics.classes.get? name =
      (w.statics.classes.get? name).or (e.handleFor .staticClass name))
    (hstructs : ∀ name, statics.structs.get? name =
      (w.statics.structs.get? name).or (e.handleFor .struct name)) (s : σ) :
    Asks w { w.noting e s with statics := statics } [e] where
  trace := rfl
  goesOn := by simpa using he
  kept := rfl
  classes name := by rw [hclasses, List.findSome?_singleton]
  structs name := by rw [hstructs, List.findSome?_singleton]

private theorem asks_noting_within (w : Inquirer σ κ) (m : Member) (owner name : Value)
    (answer : Except Fault Value) (s : σ) :
    Asks w (w.noting (.within m owner name answer) s) [.within m owner name answer] :=
  asks_noting rfl (fun _ => Option.or_none.symm) (fun _ => Option.or_none.symm) s

/-- An answer that is not kept. -/
private theorem asks_noting_named (w : Inquirer σ κ) {kind : Global} {name : String}
    {answer : Except Fault Value} (h : ∀ a, answer = .ok a → kind.keeps a = false) (s : σ) :
    Asks w (w.noting (.named kind (.text name) answer) s) [.named kind (.text name) answer] :=
  asks_noting rfl
    (fun _ => by rw [Inquiry.handleFor_of_not_keeps h, Option.or_none])
    (fun _ => by rw [Inquiry.handleFor_of_not_keeps h, Option.or_none]) s

/-- A question comes to nothing if no host is in use, and is answered otherwise. -/
theorem find_cases (dispatch : Act σ (Primitives σ)) (kind : Global) (name : String)
    (w : Inquirer σ κ) :
    let find : Act (Inquirer σ κ) Value := do
      (← Inquirer.dispatch dispatch).find kind (.text name)
    (∃ e s, (asking dispatch kind name).runOn w.host.state = (.error e, s) ∧
      find.runOn w = (.error e, w.onHost s)) ∨
    ∃ answer s, (asking dispatch kind name).runOn w.host.state = (answer, s) ∧
      find.runOn w = (answer, w.noting (.named kind (.text name) answer) s) := by
  simp only [asking, Act.runOn_bind dispatch, runOn_dispatch]
  rcases dispatch.runOn w.host.state with ⟨e | host, s⟩
  · exact .inl ⟨e, s, rfl, rfl⟩
  · exact .inr ⟨_, _, rfl, runOn_recordingAnswer _ _ _⟩

private theorem runOn_found_of_truthy {h : Value} (hh : h.isTruthy = true) (kind : ErrorKind)
    (what : Except Fault String) (w : Inquirer σ κ) :
    (Lookup.found h kind what).runOn w = (.ok h, w) := by
  simp [Lookup.found, hh]

/-- A handle that counts as false is turned into an error. -/
private theorem runOn_found_of_not_truthy {h : Value} (hh : h.isTruthy = false) (kind : ErrorKind)
    (what : Except Fault String) (w : Inquirer σ κ) :
    ∃ e, (Lookup.found h kind what).runOn w = (.error e, w) := by
  simp only [Lookup.found, hh, Bool.false_eq_true, ↓reduceIte, Act.runOn_bind, Act.runOn_liftM]
  cases what <;> exact ⟨_, rfl⟩

/-- Members are asked for every time, and none that counts as false is found. -/
private theorem inquires_foundIn (host : Primitives σ) (m : Member) (owner name : Value)
    (kind : ErrorKind)
    (what : Except Fault String) :
    Inquires (σ := σ) (κ := κ) (do
      Lookup.found (← (host.inquiring.within hostPart).findIn m owner name) kind what) := by
  intro w
  rw [Act.runOn_bind, show ((host.inquiring.within hostPart).findIn m owner name).runOn w = _ from
    runOn_recordingAnswer _ _ _]
  generalize (host.findIn m owner name).runOn w.host.state = o
  rcases o with ⟨e | h, s⟩
  · exact ⟨_, asks_noting_within w m owner name (.error e) s, nofun⟩
  · have hasks := asks_noting_within w m owner name (.ok h) s
    cases hh : h.isTruthy with
    | true =>
      simp only [runOn_found_of_truthy hh]
      exact ⟨_, hasks, by simp [Inquiry.isVain, hh]⟩
    | false =>
      obtain ⟨e, he⟩ := runOn_found_of_not_truthy hh kind what
        (w.noting (.within m owner name (.ok h)) s)
      simp only [he]
      exact ⟨_, hasks, nofun⟩

/-! ## Look-ups -/

/-- How the class or struct of a binding is asked for. -/
def kindOf (c : BindingClass) : Global := if c.isStruct then .struct else .staticClass

/-- Where the handle of a binding's class or struct is kept. -/
def cacheFor (c : BindingClass) : Part Statics (Cache String Value) :=
  if c.isStruct then Statics.structPart else Statics.classPart

/-- Asks for the handle of a binding's class or struct. -/
def question (dispatch : Act σ (Primitives σ)) (c : BindingClass) : Act (Inquirer σ κ) Value := do
  let h ← (← Inquirer.dispatch dispatch).find (kindOf c) (.text c.hostName)
  if c.isStruct then Lookup.found h .propertyNotFound (.ok ("struct " ++ c.hostName)) else return h

variable (dispatch : Act σ (Primitives σ)) (c : BindingClass)

/-- A look-up of a class or struct asks for what is not kept yet. -/
def lookUp : Act (Inquirer σ κ) Value :=
  Cache.getOrInit (staticsPart.comp (cacheFor c)) c.hostName (question dispatch c)

private theorem staticClass_eq (h : c.isStruct = false) :
    Lookup.staticClass (Inquirer.dispatch dispatch) staticsPart c =
      (lookUp dispatch c : Act (Inquirer σ κ) Value) := by
  simp [Lookup.staticClass, lookUp, question, cacheFor, kindOf, h]

private theorem findStruct_eq (h : c.isStruct = true) :
    Lookup.findStruct (Inquirer.dispatch dispatch) staticsPart c =
      (lookUp dispatch c : Act (Inquirer σ κ) Value) := by
  simp [Lookup.findStruct, lookUp, question, cacheFor, kindOf, h]

/-- The handle of a binding is looked up in its cache, provided a struct can be located. -/
theorem static_eq (h : c.isStruct = true → c.located = true) :
    Lookup.static (Inquirer.dispatch dispatch) staticsPart c =
      (lookUp dispatch c : Act (Inquirer σ κ) Value) := by
  cases hc : c.isStruct with
  | true => simp [Lookup.static, Lookup.staticStruct, hc, h hc, findStruct_eq]
  | false => simp [Lookup.static, hc, staticClass_eq]

variable {dispatch c}

variable (dispatch c) in
/-- Asking fails unless the host answers with a handle that is kept. -/
theorem question_cases (w : Inquirer σ κ) :
    (∃ e s, (question dispatch c).runOn w = (.error e, w.onHost s) ∧
      (asking dispatch (kindOf c) c.hostName).runOn w.host.state = (.error e, s)) ∨
    (∃ e answer s, (∀ h, answer = .ok h → (kindOf c).keeps h = false) ∧
      (question dispatch c).runOn w =
        (.error e, w.noting (.named (kindOf c) (.text c.hostName) answer) s) ∧
      (asking dispatch (kindOf c) c.hostName).runOn w.host.state = (answer, s)) ∨
    ∃ h s, (kindOf c).keeps h = true ∧
      (question dispatch c).runOn w =
        (.ok h, w.noting (.named (kindOf c) (.text c.hostName) (.ok h)) s) ∧
      (asking dispatch (kindOf c) c.hostName).runOn w.host.state = (.ok h, s) := by
  have hquestion : question dispatch c = (do
      let h ← (do (← Inquirer.dispatch dispatch).find (kindOf c) (.text c.hostName))
      if c.isStruct then Lookup.found h .propertyNotFound (.ok ("struct " ++ c.hostName))
      else return h : Act (Inquirer σ κ) Value) := (bind_assoc _ _ _).symm
  rw [hquestion, Act.runOn_bind]
  obtain ⟨e, s, hasked, hfind⟩ | ⟨e | h, s, hasked, hfind⟩ :=
    find_cases dispatch (kindOf c) c.hostName w
  · exact .inl ⟨e, s, by rw [hfind], hasked⟩
  · exact .inr (.inl ⟨e, .error e, s, by simp, by rw [hfind], hasked⟩)
  rw [hfind]
  cases hc : c.isStruct with
  | false => exact .inr (.inr ⟨h, s, by simp [Global.keeps, kindOf, hc], rfl, hasked⟩)
  | true =>
    have hkind : kindOf c = .struct := by simp [kindOf, hc]
    cases hh : h.isTruthy with
    | true =>
      exact .inr (.inr ⟨h, s, by simp [Global.keeps, hh], runOn_found_of_truthy hh _ _ _, hasked⟩)
    | false =>
      obtain ⟨e, he⟩ := runOn_found_of_not_truthy hh .propertyNotFound
        (.ok ("struct " ++ c.hostName))
        (w.noting (.named (kindOf c) (.text c.hostName) (.ok h)) s)
      have hnot : ∀ a, Except.ok h = (.ok a : Except Fault Value) → (kindOf c).keeps a = false := by
        rintro a ⟨⟩
        simp [hkind, Global.keeps, hh]
      exact .inr (.inl ⟨e, .ok h, s, hnot, he, hasked⟩)

/-- What is kept is the one answer that the cache lacked. -/
private theorem asks_keeping {w : Inquirer σ κ} {h : Value}
    (hnone : ((cacheFor c).get w.statics).get? c.hostName = none)
    (hkeeps : (kindOf c).keeps h = true) (s : σ) :
    let e := Inquiry.named (kindOf c) (.text c.hostName) (.ok h)
    Asks w { w.noting e s with
      statics := (cacheFor c).set (Assoc.set c.hostName h ((cacheFor c).get w.statics)) w.statics }
      [e] := by
  cases hc : c.isStruct with
  | true =>
    simp only [cacheFor, kindOf, hc, ↓reduceIte] at hnone hkeeps ⊢
    refine asks_noting rfl (fun _ => Option.or_none.symm) (fun name => ?_) s
    refine (Assoc.get?_set_of_get?_none hnone h name).trans ?_
    simp [Statics.structPart, Inquiry.handleFor, hkeeps]
  | false =>
    simp only [cacheFor, kindOf, hc, Bool.false_eq_true, ↓reduceIte] at hnone hkeeps ⊢
    refine asks_noting rfl (fun name => ?_) (fun _ => Option.or_none.symm) s
    refine (Assoc.get?_set_of_get?_none hnone h name).trans ?_
    simp [Statics.classPart, Inquiry.handleFor, hkeeps]

/-- A look-up keeps what it is answered, and asks nothing that is kept. -/
theorem inquires_lookUp : Inquires (lookUp dispatch c : Act (Inquirer σ κ) Value) := by
  intro w
  rw [lookUp]
  cases hkept : ((cacheFor c).get w.statics).get? c.hostName with
  | some a =>
    have hsome : Assoc.get? c.hostName ((staticsPart.comp (cacheFor c)).get w) = some a := hkept
    rw [Cache.runOn_getOrInit_of_some hsome]
    exact ⟨[], .refl w, by simp⟩
  | none =>
    have hnone : Assoc.get? c.hostName ((staticsPart.comp (cacheFor c)).get w) = none := hkept
    obtain ⟨e, s, hrun, -⟩ | ⟨e, answer, s, hnot, hrun, -⟩ | ⟨h, s, hkeeps, hrun, -⟩ :=
      question_cases dispatch c w
    · rw [Cache.runOn_getOrInit_of_error hnone hrun]
      exact ⟨[], .onHost w s, by simp⟩
    · rw [Cache.runOn_getOrInit_of_error hnone hrun]
      exact ⟨_, asks_noting_named w hnot s, nofun⟩
    · have hstill : Assoc.get? c.hostName ((staticsPart.comp (cacheFor c)).get
        (w.noting (.named (kindOf c) (.text c.hostName) (.ok h)) s)) = none := hkept
      rw [Cache.runOn_getOrInit_of_ok hnone hrun, hstill]
      exact ⟨_, asks_keeping hkept hkeeps s, by simp [Inquiry.isVain, hkeeps]⟩

section Requests

variable (dispatch : Act σ (Primitives σ)) (c : BindingClass) (name params : Value)

private theorem inquires_staticClass : Inquires
    (Lookup.staticClass (Inquirer.dispatch dispatch : Act (Inquirer σ κ) _) staticsPart c) := by
  cases hc : c.isStruct with
  | true =>
    simp only [Lookup.staticClass, hc, ↓reduceIte]
    exact inquires_throw _
  | false =>
    rw [staticClass_eq dispatch c hc]
    exact inquires_lookUp

private theorem inquires_findStruct : Inquires
    (Lookup.findStruct (Inquirer.dispatch dispatch : Act (Inquirer σ κ) _) staticsPart c) := by
  cases hc : c.isStruct with
  | false =>
    simp only [Lookup.findStruct, hc, Bool.not_false, ↓reduceIte]
    exact inquires_throw _
  | true =>
    rw [findStruct_eq dispatch c hc]
    exact inquires_lookUp

private theorem inquires_staticStruct : Inquires
    (Lookup.staticStruct (Inquirer.dispatch dispatch : Act (Inquirer σ κ) _) staticsPart c) := by
  cases hc : c.located with
  | false =>
    simp only [Lookup.staticStruct, hc, Bool.not_false, ↓reduceIte]
    exact inquires_throw _
  | true =>
    simp only [Lookup.staticStruct, hc, Bool.not_true, Bool.false_eq_true, ↓reduceIte]
    exact inquires_findStruct dispatch c

private theorem inquires_static : Inquires
    (Lookup.static (Inquirer.dispatch dispatch : Act (Inquirer σ κ) _) staticsPart c) := by
  rw [Lookup.static]
  split
  · exact inquires_staticStruct dispatch c
  · exact inquires_staticClass dispatch c

private theorem inquires_classProperty : Inquires
    (Lookup.classProperty (Inquirer.dispatch dispatch : Act (Inquirer σ κ) _) staticsPart c name) :=
  inquires_dispatch fun host => inquires_bind (inquires_staticClass dispatch c) fun owner =>
    inquires_foundIn host _ owner name _ _

private theorem inquires_structProperty : Inquires
    (Lookup.structProperty (Inquirer.dispatch dispatch : Act (Inquirer σ κ) _) staticsPart c
      name) :=
  inquires_dispatch fun host => inquires_bind (inquires_staticStruct dispatch c) fun owner =>
    inquires_foundIn host _ owner name _ _

private theorem inquires_function : Inquires
    (Lookup.function (Inquirer.dispatch dispatch : Act (Inquirer σ κ) _) staticsPart c name) :=
  inquires_dispatch fun host => inquires_bind (inquires_staticClass dispatch c) fun owner =>
    inquires_foundIn host _ owner name _ _

private theorem inquires_paramHandles : Inquires
    (Lookup.paramHandles (Inquirer.dispatch dispatch : Act (Inquirer σ κ) _) staticsPart c name
      params) :=
  inquires_bind (inquires_function dispatch c name) fun func =>
    inquires_bind (inquires_liftM _) fun items => inquires_mapM (fun param =>
      inquires_dispatch fun host => inquires_foundIn host _ func param _ _) items

private theorem inquires_paramOffsets : Inquires
    (Lookup.paramOffsets (Inquirer.dispatch dispatch : Act (Inquirer σ κ) _) staticsPart c name
      params) :=
  inquires_dispatch fun host => inquires_bind (inquires_paramHandles dispatch c name params)
    fun handles => inquires_mapM (fun h => inquires_host (host.measure .propertyOffset h)) handles

private theorem inquires_classOf (binding : Value) :
    Inquires (Lookup.classOf binding : Act (Inquirer σ κ) BindingClass) := by
  cases binding <;> first | exact inquires_pure _ | exact inquires_throw _

variable {dispatch}

private theorem inquires_of_member? {lookup : String}
    {find : BindingClass → Value → Act (Inquirer σ κ) Value}
    (h : Lookup.member? (Inquirer.dispatch dispatch) staticsPart lookup = some find) :
    Inquires (find c name) := by
  unfold Lookup.member? at h
  split at h <;> cases h
  · exact inquires_classProperty dispatch c name
  · exact inquires_structProperty dispatch c name
  · exact inquires_function dispatch c name

private theorem inquires_of_parameters? {lookup : String}
    {find : BindingClass → Value → Value → Act (Inquirer σ κ) (List Value)}
    (h : Lookup.parameters? (Inquirer.dispatch dispatch) staticsPart lookup = some find) :
    Inquires (find c name params) := by
  unfold Lookup.parameters? at h
  split at h <;> cases h
  · exact inquires_paramHandles dispatch c name params
  · exact inquires_paramOffsets dispatch c name params

/-- Every named look-up, of members as of parameters. -/
theorem inquires_call (lookup : String) (binding : Value) (params : Option Value) : Inquires
    (Lookup.call (Inquirer.dispatch dispatch : Act (Inquirer σ κ) _) staticsPart lookup binding name
      params) := by
  have hdispatch : Inquires (discard (Inquirer.dispatch dispatch) : Act (Inquirer σ κ) PUnit) :=
    inquires_bind (inquires_bind (inquires_host dispatch) fun _ => inquires_pure _)
      fun _ => inquires_pure _
  unfold Lookup.call
  split
  · rename_i hfind
    -- The host in use is asked for at once, so that a look-up fails early without one.
    exact inquires_bind hdispatch fun _ => inquires_bind (inquires_classOf binding) fun c =>
      inquires_of_member? c name hfind
  · rename_i hfind
    exact inquires_bind hdispatch fun _ => inquires_bind (inquires_classOf binding) fun c =>
      inquires_bind (inquires_of_parameters? c name _ hfind) fun _ => inquires_pure _
  · exact inquires_throw _
  · exact inquires_throw _

end Requests

end Inquirer

/-! ## Runs -/

/-- What scripts look up. -/
inductive Request where
  | static (c : BindingClass)
  | findStruct (c : BindingClass)
  | call (lookup : String) (binding name : Value) (params : Option Value)

/-- What happens to a host and to the caches: work on the host, after which it may know other
names, look-ups, also for a cache of the caller, and the end of the connection. -/
inductive LookupStep (σ κ : Type) where
  | work (act : Act σ Unit)
  | ask (request : Request)
  | keep (key : κ) (request : Request)
  | shutDown

namespace Inquirer

variable {σ κ : Type}

/-- Looks something up. -/
def answer (dispatch : Act σ (Primitives σ)) : Request → Act (Inquirer σ κ) Value
  | .static c => Lookup.static (Inquirer.dispatch dispatch) staticsPart c
  | .findStruct c => Lookup.findStruct (Inquirer.dispatch dispatch) staticsPart c
  | .call lookup binding name params =>
    Lookup.call (Inquirer.dispatch dispatch) staticsPart lookup binding name params

/-- All that scripts look up. -/
theorem inquires_answer (dispatch : Act σ (Primitives σ)) (request : Request) :
    Inquires (answer dispatch request : Act (Inquirer σ κ) Value) := by
  cases request with
  | static c => exact inquires_static dispatch c
  | findStruct c => exact inquires_findStruct dispatch c
  | call lookup binding name params => exact inquires_call name lookup binding params

variable [BEq κ]

/-- The state after a step. -/
def after (dispatch : Act σ (Primitives σ)) (w : Inquirer σ κ) : LookupStep σ κ → Inquirer σ κ
  | .work act => w.onHost (act.runOn w.host.state).2
  | .ask request => ((answer dispatch request).runOn w).2
  | .keep key request => ((Cache.getOrInit keptPart key (answer dispatch request)).runOn w).2
  | .shutDown => { host := ⟨w.host.state, w.host.trace ++ [.shutDown]⟩ }

/-- The state after some steps, from a connection to a host on. -/
def run (dispatch : Act σ (Primitives σ)) (s : σ) (steps : List (LookupStep σ κ)) : Inquirer σ κ :=
  steps.foldl (after dispatch) { host := { state := s } }

/-- The caches of classes and structs are told by the answers. -/
structure Faithful (w : Inquirer σ κ) : Prop where
  classes : ∀ name, w.statics.classes.get? name = firstKept .staticClass name w.host.trace
  structs : ∀ name, w.statics.structs.get? name = firstKept .struct name w.host.trace

/-- Within a connection the first answer that is kept stays the first one. -/
theorem firstKept_append {new : List Inquiry} (h : ∀ e ∈ new, e.isShutDown = false)
    (kind : Global) (name : String) (trace : List Inquiry) :
    firstKept kind name (trace ++ new) =
      (firstKept kind name trace).or (new.findSome? (Inquiry.handleFor kind name)) := by
  rw [firstKept, sinceLast_append h, List.findSome?_append]
  rfl

omit [BEq κ] in
/-- Caches that were told by the answers still are. -/
theorem Asks.faithful {w t : Inquirer σ κ} {answers : List Inquiry} (h : Asks w t answers)
    (hw : Faithful w) : Faithful t where
  classes name := by rw [h.classes, h.trace, firstKept_append h.goesOn, hw.classes]
  structs name := by rw [h.structs, h.trace, firstKept_append h.goesOn, hw.structs]

/-- A caller keeps nothing of a look-up if an answer to it was in vain. -/
theorem asks_keep (dispatch : Act σ (Primitives σ)) (key : κ) (request : Request)
    (w : Inquirer σ κ) :
    let t := w.after dispatch (.keep key request)
    ∃ answers, Asks w { t with kept := w.kept } answers ∧
      ((∃ e ∈ answers, e.isVain = true) → t.kept = w.kept) := by
  intro t
  cases hkept : w.kept.get? key with
  | some v =>
    have hsome : Assoc.get? key (keptPart.get w) = some v := hkept
    have ht : t = w := congrArg Prod.snd (Cache.runOn_getOrInit_of_some hsome)
    rw [ht]
    exact ⟨[], .refl w, by simp⟩
  | none =>
    have hfirst : Assoc.get? key (keptPart.get w) = none := hkept
    obtain ⟨answers, hasks, hvain⟩ := inquires_answer dispatch request w
    rcases hrun : (answer dispatch request).runOn w with ⟨e | v, u⟩
    · have ht : t = u := congrArg Prod.snd (Cache.runOn_getOrInit_of_error hfirst hrun)
      rw [hrun] at hasks
      rw [ht, ← hasks.kept]
      exact ⟨answers, hasks, fun _ => rfl⟩
    · rw [hrun] at hasks hvain
      have hnone : Assoc.get? key (keptPart.get u) = none := by
        rw [← hkept, ← hasks.kept]
        rfl
      -- The look-up left the caller's cache alone, so the value is its first one for the key.
      have ht : t = { u with kept := u.kept.set key v } := by
        have := congrArg Prod.snd (Cache.runOn_getOrInit_of_ok hfirst hrun)
        rw [hnone] at this
        exact this
      refine ⟨answers, ?_, ?_⟩
      · rw [ht, ← hasks.kept]
        exact hasks
      · rintro ⟨e, he, hev⟩
        simp [hvain rfl e he] at hev

/-- Every step keeps the caches as the answers tell them. -/
theorem faithful_after {w : Inquirer σ κ} (hw : Faithful w) (dispatch : Act σ (Primitives σ))
    (step : LookupStep σ κ) : Faithful (w.after dispatch step) := by
  cases step with
  | work act => exact ⟨hw.classes, hw.structs⟩
  | ask request =>
    obtain ⟨answers, hasks, -⟩ := inquires_answer dispatch request w
    exact hasks.faithful hw
  | keep key request =>
    obtain ⟨answers, hasks, -⟩ := asks_keep dispatch key request w
    exact ⟨(hasks.faithful hw).classes, (hasks.faithful hw).structs⟩
  | shutDown =>
    have hend : sinceLast Inquiry.isShutDown (w.host.trace ++ [.shutDown]) = [] :=
      sinceLast_concat_of rfl _
    have hnone : ∀ kind name, firstKept kind name (w.host.trace ++ [.shutDown]) = none :=
      fun kind name => by rw [firstKept, hend, List.findSome?_nil]
    exact ⟨fun name => (hnone _ name).symm, fun name => (hnone _ name).symm⟩

/-- So does every run. -/
theorem faithful_run (dispatch : Act σ (Primitives σ)) (s : σ) (steps : List (LookupStep σ κ)) :
    Faithful (run dispatch s steps) := by
  induction steps using List.reverseRecOn with
  | nil => exact ⟨fun _ => rfl, fun _ => rfl⟩
  | append_singleton steps step ih =>
    rw [run, List.foldl_concat]
    exact faithful_after ih dispatch step

omit [BEq κ] in
theorem Faithful.cacheFor_get? {w : Inquirer σ κ} (hw : Faithful w) (c : BindingClass)
    (name : String) :
    ((cacheFor c).get w.statics).get? name = firstKept (kindOf c) name w.host.trace := by
  cases hc : c.isStruct with
  | true =>
    simp only [cacheFor, kindOf, hc, ↓reduceIte]
    exact hw.structs name
  | false =>
    simp only [cacheFor, kindOf, hc, Bool.false_eq_true, ↓reduceIte]
    exact hw.classes name

omit [BEq κ] in
/-- What has not been kept is asked for. -/
theorem runOn_lookUp {dispatch : Act σ (Primitives σ)} {c : BindingClass} {w : Inquirer σ κ}
    (hw : Faithful w) {h : Value}
    (hnone : ∀ g, .named (kindOf c) (.text c.hostName) (.ok g) ∈
      sinceLast Inquiry.isShutDown w.host.trace → (kindOf c).keeps g = false)
    (hasked : ((asking dispatch (kindOf c) c.hostName).runOn w.host.state).1 = .ok h)
    (hkeeps : (kindOf c).keeps h = true) : ((lookUp dispatch c).runOn w).1 = .ok h := by
  have hfirst : firstKept (kindOf c) c.hostName w.host.trace = none := by
    refine List.findSome?_eq_none_iff.mpr fun e he => ?_
    refine Option.eq_none_iff_forall_ne_some.mpr fun g hg => ?_
    obtain ⟨rfl, hk⟩ := Inquiry.handleFor_eq_some_iff.mp hg
    simp [hnone g he] at hk
  have hcache : Assoc.get? c.hostName ((staticsPart.comp (cacheFor c)).get w) = none :=
    (hw.cacheFor_get? c c.hostName).trans hfirst
  obtain ⟨e, s, -, hrun⟩ | ⟨e, answer, s, hnot, -, hrun⟩ | ⟨g, s, -, hquestion, hrun⟩ :=
    question_cases dispatch c w
  · simp [hrun] at hasked
  · rw [hrun] at hasked
    simp [hnot h hasked] at hkeeps
  · rw [hrun] at hasked
    have hstill : Assoc.get? c.hostName ((staticsPart.comp (cacheFor c)).get
      (w.noting (.named (kindOf c) (.text c.hostName) (.ok g)) s)) = none := hcache
    rw [lookUp, Cache.runOn_getOrInit_of_ok hcache hquestion, hstill]
    exact hasked

end Inquirer

open Inquirer

/-- Whatever was looked up before, and whatever the host came to know or forgot meanwhile, the
caches of classes and structs hold the first answers that are kept since the connection began. So a
struct is asked for until the host has a handle for it, which is then found. A class is asked for
until the host answers, be it with null. A caller keeps nothing of a look-up that the host answered
in vain. -/
theorem names_asked_until_kept {σ κ : Type} [BEq κ] (dispatch : Act σ (Primitives σ)) (s : σ)
    (steps : List (LookupStep σ κ)) :
    let w := Inquirer.run dispatch s steps
    let recent := sinceLast Inquiry.isShutDown w.host.trace
    (∀ name, w.statics.classes.get? name = firstKept .staticClass name w.host.trace) ∧
      (∀ name, w.statics.structs.get? name = firstKept .struct name w.host.trace) ∧
      (∀ c h, c.isStruct = true →
        (∀ g, .named .struct (.text c.hostName) (.ok g) ∈ recent → g.isTruthy = false) →
        ((asking dispatch .struct c.hostName).runOn w.host.state).1 = .ok h → h.isTruthy = true →
        ((answer dispatch (.findStruct c)).runOn w).1 = .ok h ∧
          (c.located = true → ((answer dispatch (.static c)).runOn w).1 = .ok h)) ∧
      (∀ c h, c.isStruct = false →
        (∀ g, .named .staticClass (.text c.hostName) (.ok g) ∉ recent) →
        ((asking dispatch .staticClass c.hostName).runOn w.host.state).1 = .ok h →
        ((answer dispatch (.static c)).runOn w).1 = .ok h) ∧
      ∀ key request, ∃ answers,
        (w.after dispatch (.keep key request)).host.trace = w.host.trace ++ answers ∧
        ((∃ e ∈ answers, e.isVain = true) →
          (w.after dispatch (.keep key request)).kept = w.kept) := by
  intro w recent
  have hw : Faithful w := faithful_run dispatch s steps
  refine ⟨hw.classes, hw.structs, ?_, ?_, fun key request => ?_⟩
  · intro c h hc hnone hasked hh
    have hkind : kindOf c = .struct := by simp [kindOf, hc]
    have hlook : ((lookUp dispatch c).runOn w).1 = .ok h := by
      refine runOn_lookUp hw (fun g hg => ?_) (hkind ▸ hasked) (by simp [hkind, Global.keeps, hh])
      rw [hkind] at hg ⊢
      simpa [Global.keeps] using hnone g hg
    refine ⟨?_, fun hl => ?_⟩
    · rw [answer, findStruct_eq dispatch c hc, hlook]
    · rw [answer, static_eq dispatch c fun _ => hl, hlook]
  · intro c h hc hnone hasked
    have hkind : kindOf c = .staticClass := by simp [kindOf, hc]
    rw [answer, static_eq dispatch c (by simp [hc])]
    refine runOn_lookUp hw (fun g hg => ?_) (hkind ▸ hasked) (by simp [hkind, Global.keeps])
    rw [hkind] at hg
    exact absurd hg (hnone g)
  · obtain ⟨answers, hasks, hvain⟩ := asks_keep dispatch key request w
    exact ⟨answers, hasks.trace, hvain⟩

/-- A class that was looked up before the host knew it stays null. -/
theorem unknown_class_stays_null :
    let pawn : BindingClass := { name := "Pawn", hostName := "Pawn", lineage := [2, 0] }
    let unknowing : Session :=
      { connection := some ⟨false, .int 1, []⟩,
        engine := { faults := [(.text "get_static_class", .int 0)] } }
    let learning : Act Session Unit := Session.enginePart.modify fun e => { e with faults := [] }
    let w : Inquirer Session Unit :=
      Inquirer.run Session.dispatch unknowing [.ask (.static pawn), .work learning]
    ((asking Session.dispatch .staticClass "Pawn").runOn w.host.state).1 = .ok (.int 4112) ∧
      ((answer Session.dispatch (.static pawn)).runOn w).1 = .ok .null := by
  exact ⟨rfl, rfl⟩

/-- A struct is found once the host knows it. -/
example :
    let point : BindingClass :=
      { name := "Point", hostName := "Point", lineage := [2, 1], isStruct := true }
    let unknowing : Session :=
      { connection := some ⟨false, .int 1, []⟩,
        engine := { faults := [(.text "find_struct", .int 0)] } }
    let learning : Act Session Unit := Session.enginePart.modify fun e => { e with faults := [] }
    let w : Inquirer Session Unit :=
      Inquirer.run Session.dispatch unknowing [.ask (.static point), .work learning]
    ((answer Session.dispatch (.static point)).runOn w).1 = .ok (.int 4112) := by
  rfl

end Bindery
