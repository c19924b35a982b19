import Bindery.Script.Scope
import Bindery.Value.Display

/-!
# Evaluation of terms

The values of terms, and what it means to assign values to them.

* `Step`: a step of a script.
* `Evaluation.eval`: the value of a term.
* `Evaluation.assign`, `Evaluation.delete`: assign a value to a term, and delete it.
-/

namespace Bindery.Script

/-- A step of a script: it may bind names, and it may fail. What has been bound before it fails
stays bound. -/
abbrev Step := ExceptT Fault (StateM Scope)

/-- The answer of a step in a scope, and the scope that it leaves behind. -/
def Step.runIn {α : Type} (step : Step α) (scope : Scope) : Except Fault (α × Scope) :=
  match step.run scope with
  | (.ok a, scope) => .ok (a, scope)
  | (.error fault, _) => .error fault

namespace Evaluation

/-- A change of the names that are bound. -/
def change (f : Scope → Except Fault Scope) : Step Unit := do
  set (← f (← get))

/-- The integer, or the number with a point, that a numeral stands for. -/
def ofNumeral : Numeral → Datum
  | .whole n => .int n
  | .real d => .plain (.float d)
  | .imaginary => .ofKind "complex"

/-- A set with one more item. -/
def insert (items : List Datum) (d : Datum) : List Datum :=
  if d.isAmong? items = some true then items else items ++ [d]

/-- A table with one more entry. -/
def insertEntry (entries : List (Datum × Datum)) (key value : Datum) : List (Datum × Datum) :=
  if key.isAmong? (entries.map (·.1)) = some true then
    entries.map fun e => if key.same? e.1 = some true then (e.1, value) else e
  else entries ++ [(key, value)]

/-- The kinds of collections that change. -/
def mutables : List String := ["list", "set", "dict"]

/-- The variable whose value a call may change: the one whose member is called. -/
def changed? : Term → Option String
  | .member (.name s) _ => some s
  | _ => none

/-- The text of some texts one after the other. -/
def textOf (ds : List Datum) : Datum :=
  match ds.mapM Datum.text? with
  | some texts => .text (String.join texts)
  | none => .ofKind "str"

/-- The text that a conversion makes of a datum, if it is known. -/
def converted? (conversion : Option Char) : Datum → Option String
  | .plain v =>
    match conversion with
    | none | some 's' => v.spoken.toOption
    | some 'r' => v.display.toOption
    | _ => v.display.toOption.filter fun s => s.toList.all fun c => c.toNat < 128
  | _ => none

/-- The text that shows a datum with a format. -/
def display (conversion : Option Char) (d format : Datum) : Except Fault Datum := do
  if let some spec := format.text? then
    Format.checkSpec spec (if conversion.isSome then .ofKind "str" else d)
    if spec.isEmpty then
      return ((converted? conversion d).map .text).getD (.ofKind "str")
  return .ofKind "str"

mutual

/-- The value of a term. -/
def eval (fuel : Nat) (t : Term) : Step Datum :=
  match fuel with
  | 0 => throw .tooDeep
  | fuel + 1 =>
    match t with
    | .null => return .null
    | .truth b => return .bool b
    | .ellipsis => return .ofKind "ellipsis"
    | .number n => return ofNumeral n
    | .text s => return .text s
    | .bytes s => return .plain (.bytes (s.toList.map fun c => UInt8.ofNat c.toNat))
    | .template parts => do
      return textOf (← evalAll fuel parts)
    | .field value conversion format => do
      let d ← eval fuel value
      let spec := textOf (← evalAll fuel format)
      display conversion d spec
    | .name s => do (← get).find s
    | .bind s value => do
      let d ← eval fuel value
      change fun scope => scope.bind s d
      return d
    | .sequence kind items => do
      match ← evalItems fuel items with
      | none => return .ofKind (Datum.nameOfSequence kind)
      | some ds =>
        if kind = .set then
          if !ds.all Datum.isHashable then throw .wrongType
          return .sequence .set (ds.foldl insert [])
        return .sequence kind ds
    | .starred _ => throw .badScript
    | .table entries => evalEntries fuel [] entries
    | .entries _ => throw .badScript
    | .each kind source => do
      let d ← eval fuel source
      discard (d.parts)
      return (kind.map fun k => .ofKind (Datum.nameOfSequence k)).getD .unknown
    | .unary sign e => do Operation.unary sign (← eval fuel e)
    | .binary sign a b => do
      let x ← eval fuel a
      Operation.binary sign x (← eval fuel b)
    | .both a b => do
      let x ← eval fuel a
      match x.isTrue? with
      | some false => return x
      | some true => eval fuel b
      | none => discard (eval fuel b); return .unknown
    | .either a b => do
      let x ← eval fuel a
      match x.isTrue? with
      | some true => return x
      | some false => eval fuel b
      | none => return .unknown
    | .compare first rest => do
      evalComparisons fuel (← eval fuel first) rest
    | .choice condition yes no => do
      match (← eval fuel condition).isTrue? with
      | some true => eval fuel yes
      | some false => eval fuel no
      | none => discard (eval fuel yes); return .unknown
    | .member e s => do Builtin.member (← eval fuel e) s
    | .item e (.slice bounds) => do
      let d ← eval fuel e
      Operation.itemsIn d (← evalAll fuel bounds)
    | .item e index => do
      let d ← eval fuel e
      Operation.itemAt d (← eval fuel index)
    | .slice bounds => do
      discard (evalAll fuel bounds)
      return .ofKind "slice"
    | .call f args => do
      let d ← eval fuel f
      let answer ← Call.apply d (← evalArguments fuel args)
      match changed? f, d with
      | some s, .method kind _ => if mutables.contains kind then modify (·.forget s)
      | _, _ => pure ()
      return answer
    | .lambda defaults => do
      discard (evalAll fuel defaults)
      return .lambda
    | .misplaced => throw .badScript

/-- The values of terms. -/
def evalAll (fuel : Nat) (ts : List Term) : Step (List Datum) :=
  match fuel, ts with
  | 0, _ => throw .tooDeep
  | _, [] => return []
  | fuel + 1, t :: rest => do
    let d ← eval fuel t
    return d :: (← evalAll fuel rest)

/-- The values of terms of which some stand for the items of collections, none if those are not
known. -/
def evalItems (fuel : Nat) (ts : List Term) : Step (Option (List Datum)) :=
  match fuel, ts with
  | 0, _ => throw .tooDeep
  | _, [] => return some []
  | fuel + 1, .starred e :: rest => do
    let items ← (← eval fuel e).parts
    let more ← evalItems fuel rest
    return items.bind fun ds => more.map (ds ++ ·)
  | fuel + 1, t :: rest => do
    let d ← eval fuel t
    return (← evalItems fuel rest).map (d :: ·)

/-- The table with some entries and those of some terms. -/
def evalEntries (fuel : Nat) (known : List (Datum × Datum)) (ts : List (Term × Term)) :
    Step Datum :=
  match fuel, ts with
  | 0, _ => throw .tooDeep
  | _, [] => return .table known
  | fuel + 1, (.entries e, _) :: rest => do
    match ← eval fuel e with
    | .table es => evalEntries fuel (es.foldl (fun es e => insertEntry es e.1 e.2) known) rest
    | d =>
      if d.kindName ≠ "dict" && !Operation.isOpen d then throw .wrongType
      discard (evalEntries fuel known rest)
      return .ofKind "dict"
  | fuel + 1, (key, value) :: rest => do
    let k ← eval fuel key
    let d ← eval fuel value
    discard k.asKey
    evalEntries fuel (insertEntry known k d) rest

/-- The value of comparisons of a datum with others, each of them with the next one. They end with
the first one that fails. -/
def evalComparisons (fuel : Nat) (d : Datum) (ts : List (String × Term)) : Step Datum :=
  match fuel, ts with
  | 0, _ => throw .tooDeep
  | _, [] => return .bool true
  | fuel + 1, (sign, t) :: rest => do
    let other ← eval fuel t
    let answer ← Operation.compare sign d other
    if rest.isEmpty || answer.isTrue? = some false then return answer
    evalComparisons fuel other rest

/-- The values of arguments. -/
def evalArguments (fuel : Nat) (ts : List (Passing × Term)) : Step (List (Passing × Datum)) :=
  match fuel, ts with
  | 0, _ => throw .tooDeep
  | _, [] => return []
  | fuel + 1, (passing, t) :: rest => do
    let d ← eval fuel t
    if passing = .spread then discard d.parts
    return (passing, d) :: (← evalArguments fuel rest)

end

/-! ## Assignments -/

/-- Why no value can be assigned to a member of a datum, if that is so. -/
def fixedMember? : Datum → Option Fault
  | .unknown | .lambda | .module _ => none
  | .kind _ => some .wrongType
  | .ofKind k =>
    if (Builtin.members.find? fun e => e.1 = k).isSome then some .noSuchMember else none
  | _ => some .noSuchMember

/-- Refuses an item of a datum as a place for a value. -/
def checkPlace (d index : Datum) (deletes : Bool) : Except Fault Unit :=
  if Operation.isOpen d then .ok ()
  else match d with
    | .table _ => do
      let key ← index.asKey
      if deletes then discard (Operation.itemAt d key)
    | .sequence .list _ => discard (Operation.itemAt d index)
    | .ofKind k => if k = "list" || k = "dict" then .ok () else .error .wrongType
    | _ => .error .wrongType

/-- The places of items around a starred one: how many come before it and behind it. -/
def starPlace? (ts : List Term) : Option (Nat × Nat) :=
  (ts.findIdx? Term.isStarred).map fun i => (i, ts.length - i - 1)

/-- The data for targets, of which one may take all that is left over, none if they are not
known. -/
def distribute (ts : List Term) (d : Datum) : Except Fault (Option (List Datum)) := do
  match ← d.parts with
  | none => return none
  | some ds =>
    match starPlace? ts with
    | none => if ds.length = ts.length then return some ds else throw .malformed
    | some (before, behind) =>
      if ds.length < before + behind then throw .malformed
      let middle := (ds.drop before).take (ds.length - before - behind)
      return some (ds.take before ++ [.sequence .list middle] ++ ds.drop (ds.length - behind))

mutual

/-- Assigns a value to a term. -/
def assign (fuel : Nat) (t : Term) (d : Datum) : Step Unit :=
  match fuel with
  | 0 => throw .tooDeep
  | fuel + 1 =>
    match t with
    | .name s => change fun scope => scope.bind s d
    | .member e _ => do
      match fixedMember? (← eval fuel e) with
      | some fault => throw fault
      | none => pure ()
    | .item e index => do
      let c ← eval fuel e
      let i ← eval fuel index
      checkPlace c i false
      match e with
      | .name s => modify (·.forget s)
      | _ => pure ()
    | .starred e => assign fuel e d
    | .sequence _ ts => do
      let ds ← distribute ts d
      assignAll fuel ts (ds.getD (ts.map fun _ => .unknown))
    | _ => throw .badScript

/-- Assigns values to terms one by one. -/
def assignAll (fuel : Nat) (ts : List Term) (ds : List Datum) : Step Unit :=
  match fuel, ts, ds with
  | 0, _, _ => throw .tooDeep
  | fuel + 1, t :: ts, d :: ds => do
    assign fuel t d
    assignAll fuel ts ds
  | _, _, _ => return ()

end

mutual

/-- Deletes what a term stands for. -/
def delete (fuel : Nat) (t : Term) : Step Unit :=
  match fuel with
  | 0 => throw .tooDeep
  | fuel + 1 =>
    match t with
    | .name s => change fun scope => scope.unbind s
    | .member e _ => do
      match fixedMember? (← eval fuel e) with
      | some fault => throw fault
      | none => pure ()
    | .item e index => do
      let c ← eval fuel e
      let i ← eval fuel index
      checkPlace c i true
      match e with
      | .name s => modify (·.forget s)
      | _ => pure ()
    | .sequence _ ts => deleteAll fuel ts
    | _ => throw .badScript

/-- Deletes what terms stand for. -/
def deleteAll (fuel : Nat) (ts : List Term) : Step Unit :=
  match fuel, ts with
  | 0, _ => throw .tooDeep
  | _, [] => return ()
  | fuel + 1, t :: ts => do
    delete fuel t
    deleteAll fuel ts

end

end Evaluation
end Bindery.Script
