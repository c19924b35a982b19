import Bindery.Association
import Bindery.Effect

/-!
# Write-once caches

Values that are computed when they are first asked for. A computation may ask for the same value
again, and then the value that was stored first stays: initialisation can run twice, but all
callers get one value.

* `Cache κ α`: the values at keys; a cell for one value is a cache with one key.
* `getOrInit`: the value at a key, computed and stored if it is not there.
-/

namespace Bindery

/-- Values at keys, each written once. -/
abbrev Cache (κ α : Type) := Assoc κ α

namespace Cache

variable {σ κ α : Type} [BEq κ]

/-- The value at a key. If there is none, `init` computes it, and it is stored unless a value has
been stored meanwhile. A failing computation stores nothing. -/
def getOrInit (cache : Part σ (Cache κ α)) (key : κ) (init : Act σ α) : Act σ α := do
  match (← cache.read).get? key with
  | some stored => return stored
  | none =>
    let value ← init
    match (← cache.read).get? key with
    | some stored => return stored
    | none =>
      cache.modify (Assoc.set key value)
      return value

end Cache
end Bindery
