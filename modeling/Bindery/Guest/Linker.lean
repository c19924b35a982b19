import Bindery.Association
import Bindery.Value.Display
import Bindery.Value.Equality

/-!
# Guest imports

Host functions that a guest imports by module and name. Generated bindings and linkers agree on the
module and on a limit to the number of parameters.

* `importModule`: the module of the imports.
* `maxImportParams`: how many parameters an import may have.
* `Linker φ`: the functions that have been defined.
* `Linker.define`: defines a function. `refusal?` is why one has too many parameters for that.
* `Environment φ`: the imports that a guest has used. An import that was found stays what it was,
  also if it is defined anew.
-/

namespace Bindery

/-- The module that guests import host functions from. -/
def importModule : String := "uika_fn"

/-- The greatest number of parameters of a guest import; the caller takes one more. -/
def maxImportParams : Nat := 15

/-- A host function with the types of its parameters and results. -/
structure Import (φ : Type) where
  params : List Value
  results : List Value
  run : φ

/-- Functions by module and name. -/
structure Linker (φ : Type) where
  functions : Assoc (Value × Value) (Import φ) := []

/-- The full name of an import. -/
def importLabel (module name : Value) : Except Fault String := do
  return (← module.spoken) ++ "." ++ (← name.spoken)

/-- Why a function with so many parameters is refused: one is left to the caller, so there is a
limit to the others. Only a function that is refused has to have a full name. -/
def refusal? (module name : Value) (count : Nat) : Except Fault (Option String) := do
  if count ≤ maxImportParams then return none
  let label ← importLabel module name
  return label ++ ": " ++ toString count ++ " parameters exceed " ++ toString maxImportParams

/-- The linker with a function. -/
def Linker.define {φ : Type} (l : Linker φ) (module name : Value) (f : Import φ) :
    Except Fault (Linker φ) := do
  return ⟨l.functions.set (← module.asKey, ← name.asKey) f⟩

/-- The imports that a guest has used, by their names. -/
abbrev Environment (φ : Type) := Assoc Value φ

/-- The import with a name: the one that was used before, or the one that is defined now. -/
def Environment.resolve {σ φ : Type} (env : Part σ (Environment φ)) (linker : Act σ (Linker φ))
    (name : Value) : Act σ φ := do
  let name ← name.asKey
  match (← env.read).get? name with
  | some f => return f
  | none =>
    match (← linker).functions.get? (.text importModule, name) with
    | some f =>
      env.modify (Assoc.set name f.run)
      return f.run
    | none => throw (.ofKind .functionNotFound (← importLabel (.text importModule) name))

end Bindery
