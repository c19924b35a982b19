import Bindery.Script.Call
import Bindery.Script.Evaluation
import Bindery.Script.Term

/-!
# Execution of statements

What comes of running statements: the names that they bind, and how a loop around them goes on.

* `Execution.run`: runs a statement.
* `Execution.runAll`: runs statements one after the other.
-/

namespace Bindery.Script.Execution

open Evaluation

/-! ## Imports -/

/-- Binds the name of a module, or the first part of its name if it is within another one. -/
def loadModule (path : String) (alias? : Option String) : Step Unit := do
  if !Builtin.hasModule path then throw (.raised "ModuleNotFoundError")
  let top := (path.splitOn ".").headD path
  change fun scope => match alias? with
    | some s => scope.bind s (.module path)
    | none => scope.bind top (.module top)

/-- Binds members of a module. -/
def loadMembers (path : String) (members : List (String × Option String)) : Step Unit := do
  if path.toList.head? = some '.' then throw (.raised "ImportError")
  if !Builtin.hasModule path then throw (.raised "ModuleNotFoundError")
  for (s, alias?) in members do
    match Builtin.member (.module path) s with
    | .ok d => change fun scope => scope.bind (alias?.getD s) d
    | .error _ => throw (.raised "ImportError")

/-! ## Errors -/

/-- The fault that a script asks for by raising a datum. Only errors can be raised. -/
def raised (d : Datum) : Fault :=
  match d with
  | .kind k | .ofKind k =>
    if ErrorKind.all.contains k then ErrorKind.fault k else .wrongType
  | _ => .wrongType

/-- Whether a datum can be the cause of an error. -/
def isCause : Datum → Bool
  | .plain .null => true
  | .kind k | .ofKind k => ErrorKind.all.contains k || k = "object"
  | d => d.isUnknown

/-- Whether a handler for a datum handles a fault. It is for a kind of errors, or for several. -/
def handles (d : Datum) (fault : Fault) : Except Fault Bool :=
  let one := fun (d : Datum) => match d with
    | .kind k => if ErrorKind.all.contains k then .ok (ErrorKind.isA (ErrorKind.ofFault fault) k)
      else .error Fault.wrongType
    | d => if Operation.isOpen d then .ok true else .error .wrongType
  match d with
  | .sequence .tuple ds => do return (← ds.mapM one).any id
  | d => one d

/-! ## Statements -/

/-- The value of an update: that of its operator, but a list takes all that has items. -/
def updated (sign : String) (d other : Datum) : Except Fault Datum :=
  if sign = "+" && d.kindName = "list" then do
    discard other.parts
    return .ofKind "list"
  else Operation.binary sign d other

/-- Runs an assignment whose place has a type. The type comes last. -/
def declare (fuel : Nat) (target kind : Term) (value : Option Term) : Step Unit := do
  match value with
  | some value => assign fuel target (← eval fuel value)
  | none =>
    match target with
    | .member e _ => discard (eval fuel e)
    | .item e index => discard (evalAll fuel [e, index])
    | _ => pure ()
  discard (eval fuel kind)

/-- Raises an error, perhaps with another one as its cause. -/
def raise (fuel : Nat) (e cause : Option Term) : Step Unit := do
  match e with
  | none => throw (.raised "RuntimeError")
  | some e =>
    let d ← eval fuel e
    if let some cause := cause then
      if !isCause (← eval fuel cause) then throw .wrongType
    throw (raised d)

/-- Raises an error with a message if a condition does not hold. -/
def require (fuel : Nat) (condition : Term) (message : Option Term) : Step Unit := do
  if (← eval fuel condition).isTrue? = some false then
    match message with
    | some e => throw (.promise ((← eval fuel e).text?.getD ""))
    | none => throw (.promise "")

/-- Assigns the values that are in use. None of the values that a script spells can be used so. -/
def useAll (fuel : Nat) (values : List (Term × Option Term)) : Step Unit := do
  for (e, target) in values do
    if !Operation.isOpen (← eval fuel e) then throw .wrongType
    if let some t := target then assign fuel t .unknown

/-- What decorators make of a function or a class. -/
def decorate (decorators : List Datum) (d : Datum) : Except Fault Datum :=
  decorators.foldrM (fun f d => Call.apply f [(.inOrder, d)]) d

/-- Takes its name from an error that has been handled. -/
def release (s : String) : Step Unit :=
  change fun scope => do (← scope.bind s .null).unbind s

mutual

/-- Runs a statement. -/
def run (fuel : Nat) (c : Clause) : Step Flow :=
  match fuel with
  | 0 => throw .tooDeep
  | fuel + 1 => do
    match c with
    | .pass | .share _ => return .on
    | .run e => discard (eval fuel e)
    | .assign targets value =>
      let d ← eval fuel value
      for t in targets do assign fuel t d
    | .update target sign value =>
      let d ← eval fuel target
      assign fuel target (← updated sign d (← eval fuel value))
    | .declare target kind value => declare fuel target kind value
    | .delete target => delete fuel target
    | .load modules => for (path, alias?) in modules do loadModule path alias?
    | .loadFrom path members => loadMembers path members
    | .throw e cause => raise fuel e cause
    | .require condition message => require fuel condition message
    | .jump flow => return flow
    | .branch condition yes no =>
      match (← eval fuel condition).isTrue? with
      | some false => return ← runAll fuel no
      | _ => return ← runAll fuel yes
    | .loop condition body rest => return ← runLoop fuel condition body rest
    | .each target source body rest =>
      let ds := (← (← eval fuel source).parts).getD [.unknown]
      return ← runEach fuel target ds body rest
    | .attempt body handlers rest last =>
      let flow ← tryCatch
        (tryCatch (runAll fuel body) (handle fuel handlers))
        fun fault => do
          discard (runAll fuel last)
          throw fault
      let flow ← if flow = .on then runAll fuel rest else pure flow
      let final ← runAll fuel last
      return if final = .on then flow else final
    | .using values body =>
      useAll fuel values
      return ← runAll fuel body
    | .function name decorators terms _ =>
      let ds ← evalAll fuel decorators
      discard (evalAll fuel terms)
      let d ← decorate ds .lambda
      change fun scope => scope.bind name d
    | .derive name decorators bases body =>
      let ds ← evalAll fuel decorators
      let given ← evalArguments fuel bases
      let around ← get
      set ({ outer := around.inner ++ around.outer, shared := Mentions.sharedBy fuel body } : Scope)
      discard (tryCatch (runAll fuel body) fun fault => do
        set around
        throw fault)
      set around
      Derivation.check given
      let d ← decorate ds (.kind name)
      change fun scope => scope.bind name d
    | .answer | .misplaced => throw .badScript
    return .on

/-- Runs statements one after the other, until one of them leads elsewhere. -/
def runAll (fuel : Nat) (cs : List Clause) : Step Flow :=
  match fuel, cs with
  | 0, _ => throw .tooDeep
  | _, [] => return .on
  | fuel + 1, c :: rest => do
    let flow ← run fuel c
    if flow = .on then runAll fuel rest else return flow

/-- Runs statements as long as a condition holds, and others once it does not. A condition of which
nothing is known holds once. -/
def runLoop (fuel : Nat) (condition : Term) (body rest : List Clause) : Step Flow :=
  match fuel with
  | 0 => throw .tooDeep
  | fuel + 1 => do
    match (← eval fuel condition).isTrue? with
    | some false => runAll fuel rest
    | some true =>
      if (← runAll fuel body) = .leave then return .on
      runLoop fuel condition body rest
    | none =>
      discard (runAll fuel body)
      return .on

/-- Runs statements for each of some data, and others behind the last one. -/
def runEach (fuel : Nat) (target : Term) (ds : List Datum) (body rest : List Clause) :
    Step Flow :=
  match fuel, ds with
  | 0, _ => throw .tooDeep
  | fuel + 1, [] => runAll fuel rest
  | fuel + 1, d :: ds => do
    assign fuel target d
    if (← runAll fuel body) = .leave then return .on
    runEach fuel target ds body rest

/-- Runs the first handler that handles a fault. The error only has a name while it is handled. -/
def handle (fuel : Nat) (handlers : List (Option Term × Option String × List Clause))
    (fault : Fault) : Step Flow :=
  match fuel, handlers with
  | 0, _ => throw .tooDeep
  | _, [] => throw fault
  | fuel + 1, (kind, name, body) :: others => do
    let fits ← match kind with
      | none => pure true
      | some e => do handles (← eval fuel e) fault
    if !fits then return ← handle fuel others fault
    match name with
    | none => runAll fuel body
    | some s =>
      change fun scope => scope.bind s (.ofKind (ErrorKind.ofFault fault))
      let flow ← tryCatch (runAll fuel body) fun fault => do
        release s
        throw fault
      release s
      return flow

end

end Bindery.Script.Execution
