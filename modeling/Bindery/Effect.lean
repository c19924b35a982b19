import Bindery.Fault

/-!
# Effects

Computations over a state that may fail. A failure keeps the state it was reached in: what a
computation did before it failed has happened.

* `Act σ α`: a computation over states `σ` with a result in `α`.
* `Act.ensuring`: runs a clean-up after a computation, however it ends.
* `Part`: a component of a state.
-/

namespace Bindery

/-- A computation over states `σ` that may fail. -/
abbrev Act (σ : Type) := ExceptT Fault (StateM σ)

namespace Act

variable {σ α : Type}

/-- The result of a computation and the state after it. -/
def runOn (act : Act σ α) (s : σ) : Except Fault α × σ := (ExceptT.run act).run s

/-- A computation given by its results. -/
def ofRun (f : σ → Except Fault α × σ) : Act σ α := ExceptT.mk fun s => f s

/-- Runs `cleanup` after `body`, whether that succeeds or fails. A failing clean-up takes the
place of the outcome. -/
def ensuring (body : Act σ α) (cleanup : Act σ Unit) : Act σ α :=
  ofRun fun s =>
    let (outcome, after) := body.runOn s
    match cleanup.runOn after with
    | (.ok _, final) => (outcome, final)
    | (.error e, final) => (.error e, final)

/-- A computation that does not fail. -/
def lift (f : σ → α × σ) : Act σ α := ofRun fun s => ((.ok (f s).1), (f s).2)

/-- A look at the state. -/
def query (f : σ → α) : Act σ α := lift fun s => (f s, s)

/-- A change of the state. -/
def update (f : σ → σ) : Act σ Unit := lift fun s => ((), f s)

/-- Succeeds or fails like a result. -/
def ofExcept : Except Fault α → Act σ α
  | .ok a => pure a
  | .error e => throw e

end Act

/-- A component of a state. -/
structure Part (σ α : Type) where
  get : σ → α
  set : α → σ → σ

namespace Part

variable {σ α β : Type}

/-- The whole state. -/
def whole : Part σ σ := ⟨id, fun s _ => s⟩

/-- A component of a component. -/
def comp (p : Part σ α) (q : Part α β) : Part σ β :=
  ⟨fun s => q.get (p.get s), fun b s => p.set (q.set b (p.get s)) s⟩

/-- The item at an index of a list. Outside of the list there is a default, and changes are lost. -/
def item [Inhabited α] (index : Nat) : Part (List α) α :=
  ⟨fun items => items.getD index default, fun a items => items.set index a⟩

/-- Reads the component. -/
def read (p : Part σ α) : Act σ α := Act.query p.get

/-- Changes the component. -/
def modify (p : Part σ α) (f : α → α) : Act σ Unit := Act.update fun s => p.set (f (p.get s)) s

/-- Runs a computation on the component that does not fail. -/
def run (p : Part σ α) (f : StateM α β) : Act σ β :=
  Act.lift fun s =>
    let (b, a) := StateT.run f (p.get s)
    (b, p.set a s)

/-- Runs a computation on the component. -/
def within (p : Part σ α) (act : Act α β) : Act σ β :=
  Act.ofRun fun s =>
    let (outcome, a) := act.runOn (p.get s)
    (outcome, p.set a s)

end Part
end Bindery
