import Bindery.Host.Primitives

/-!
# Temporary containers

Containers that live on the host's side for the duration of one call. Whatever is allocated is freed
when the scope is left, also if a later allocation or the body fails.

* `withTemporary`: one temporary for a property.
* `withTemporaries`: one for each of several properties, freed in the reverse order.
-/

namespace Bindery

open Host

variable {σ α : Type}

/-- Runs a body with a temporary container for a property, and frees the container. -/
def withTemporary (host : Primitives σ) (prop : Value) (body : Value → Act σ α) : Act σ α := do
  let base ← host.allocTemp prop
  if !base.isTruthy then throw (.ofKind .internal "alloc_temp returned null")
  Act.ensuring (body base) (host.freeTemp prop base)

/-- Runs a body with a temporary container for each property, and frees the containers. -/
def withTemporaries (dispatch : Act σ (Primitives σ)) :
    List Value → (List Value → Act σ α) → Act σ α
  | [], body => body []
  | prop :: props, body => do
    withTemporary (← dispatch) prop fun base =>
      withTemporaries dispatch props fun bases => body (base :: bases)

end Bindery
