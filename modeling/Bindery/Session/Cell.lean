import Bindery.Session.Connection

/-!
# Cached values of a session

* `Session.initCell`: asks a cell for its value, with a scripted initialisation.
* `Session.resolveSlot`: the address of a generated function, looked up once.
-/

namespace Bindery.Session

/-- Puts a cell under a name, in the place of the one that is there. -/
def addCell (name : Value) (cell : Cell) : Act Session Unit := do
  let name ← name.asKey
  (cellPart name).modify fun _ => cell

/-- The cell with a name, which has to be there. -/
def findCell (name : Value) : Act Session Cell := do
  let name ← name.asKey
  match (← state).cells.get? name with
  | some cell => return cell
  | none => throw .noSuchKey

/-- What the initialisation of a cell does. -/
structure CellScript where
  value : Value
  /-- A value that the initialisation asks the same cell for, before it ends itself. -/
  inner : Option Value := none
  fails : Bool := false

/-- Asks a cache for the value at a key: the value, and how often the initialisation ran. -/
def initWith {κ : Type} [BEq κ] (values : Part Session (Cache κ Value)) (key : κ)
    (script : CellScript) : Act Session Value := do
  let runs := if ((← values.read).get? key).isSome then 0 else 1
  let value ← Cache.getOrInit values key do
    if script.fails then throw .user
    if let some inner := script.inner then
      discard (Cache.getOrInit values key (return inner))
    return script.value
  return .list [value, .int runs]

/-- Asks the cell with a name for its value, or for the one at a key if it has keys. -/
def initCell (name : Value) (key : Option Value) (script : CellScript) : Act Session Value := do
  match ← findCell name, key with
  | .once _, none => initWith ((cellPart name).comp Cell.oncePart) () script
  | .keyed values, some key =>
    initWith ((cellPart name).comp Cell.keyedPart) ⟨← key.asKey, values.length⟩ script
  | .slot _ _, _ => throw .noSuchMember
  | _, _ => throw .wrongType

/-- The value of a cell for one, null if it has none. -/
def getCell (name : Value) : Act Session Value := do
  match ← findCell name with
  | .once value => return (value.get? ()).getD .null
  | _ => throw .noSuchMember

/-- Number of values of a cell with keys. -/
def cellSize (name : Value) : Act Session Nat := do
  match ← findCell name with
  | .keyed values => return values.length
  | _ => throw .wrongType

/-- Drops the values of a cell. -/
def clearCell (name : Value) : Act Session Unit := do
  match ← findCell name with
  | .slot _ _ => throw .noSuchMember
  | cell => addCell name cell.reset

/-- The address of a generated function, looked up once. -/
def resolveSlot (name : Value) : Act Session Value := do
  match ← findCell name with
  | .slot index _ =>
    Cache.getOrInit ((cellPart name).comp Cell.addressPart) () do
      let functions := (← connected).functions
      return functions.getD (← index.position functions.length) .null
  | _ => throw .noSuchMember

end Bindery.Session
