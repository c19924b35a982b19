import Bindery.Script.Item
import Bindery.Script.Statement

/-!
# Grammar of blocks

Reads statements that hold other ones. Those follow on the same line or form a block of lines that
are indented more.

* `Block.place`: how a line stands to the blocks around it.
* `Block.read`: reads the statements of a block.
-/

namespace Bindery.Script.Block

/-- What has been read, or the fault of a script that is none. -/
def orBad {α : Type} : Option α → Except Fault α
  | some a => .ok a
  | none => .error .badScript

/-- Reads a given sign. -/
def sign (s : String) (is : List Item) : Except Fault (List Item) :=
  orBad ((Grammar.sign s is).map (·.2))

/-- Reads a condition. -/
def condition (fuel : Nat) (is : List Item) : Except Fault (Term × List Item) :=
  match Grammar.element fuel is with
  | some (e, rest) => if e.isStarred then .error .badScript else .ok (e, rest)
  | none => .error .badScript

/-- Whether a line goes on with a block; if it does not, it has to go on with one around it. -/
def place (blocks : List Indent) (line : Indent) : Except Fault Bool :=
  match blocks with
  | [] => .error .badIndent
  | block :: around =>
    if line = block then .ok true
    else if block.width ≤ line.width then .error (block.fault line)
    else match around.find? fun b => b.width ≤ line.width with
      | some b => if line = b then .ok false else .error (b.fault line)
      | none => .error .badIndent

/-- Whether a line opens a block that is indented more than another one. -/
def opens (block line : Indent) : Except Fault Unit :=
  if line.width < block.width then .error .badIndent
  else if line.narrow ≤ block.narrow && line ≠ block then .error .badTabs
  else if line = block then .error .badIndent
  else .ok ()

/-- What follows a given word that starts a line of a block. -/
def afterWord? (word : String) (blocks : List Indent) : List Item → Option (List Item)
  | .line i :: .name s :: rest => if blocks.head? = some i && s = word then some rest else none
  | _ => none

/-- Reads a type behind a sign, if it follows. -/
def annotation (mark : String) (fuel : Nat) (is : List Item) :
    Option (Option Term × List Item) :=
  Grammar.behind (Grammar.isSign mark) fuel is

/-- Reads a parameter of a function with a name. It answers its value and its type, if they are
given. -/
def parameter (fuel : Nat) (is : List Item) : Option (List Term × List Item) :=
  match is with
  | .sign "/" :: rest => some ([], rest)
  | .sign "*" :: .sign "," :: rest => some ([], .sign "," :: rest)
  | .sign "*" :: rest | .sign "**" :: rest => do
    let (_, rest) ← Grammar.name rest
    let (kind, rest) ← annotation ":" fuel rest
    return (kind.toList, rest)
  | is => do
    let (_, rest) ← Grammar.name is
    let (kind, rest) ← annotation ":" fuel rest
    let (value, rest) ← annotation "=" fuel rest
    return (value.toList ++ kind.toList, rest)

/-- Reads the parameters of a function with a name up to the closing parenthesis. -/
def parameters (fuel : Nat) (is : List Item) : Option (List Term × List Item) :=
  match fuel, is with
  | 0, _ => none
  | _, .sign ")" :: rest => some ([], rest)
  | fuel + 1, is => do
    let (ts, rest) ← parameter fuel is
    match rest with
    | .sign ")" :: rest => return (ts, rest)
    | .sign "," :: rest =>
      let (more, rest) ← parameters fuel rest
      return (ts ++ more, rest)
    | _ => none

/-- Reads what a function with a name is defined with, up to the colon. -/
def signature (fuel : Nat) (is : List Item) : Option ((String × List Term) × List Item) := do
  let (name, rest) ← Grammar.name is
  let ((), rest) ← Grammar.sign "(" rest
  let (terms, rest) ← parameters fuel rest
  let (result, rest) ← annotation "->" fuel rest
  return ((name, terms ++ result.toList), rest)

/-- Reads what a class is defined with, up to the colon. -/
def heading (fuel : Nat) (is : List Item) :
    Option ((String × List (Passing × Term)) × List Item) := do
  let (name, rest) ← Grammar.name is
  match rest with
  | .sign "(" :: rest =>
    let (bases, rest) ← Grammar.arguments fuel rest
    return ((name, bases), rest)
  | rest => return ((name, []), rest)

/-- Reads values that are in use, and what they are assigned to. -/
def uses (fuel : Nat) (is : List Item) : Option (List (Term × Option Term) × List Item) :=
  match fuel with
  | 0 => none
  | fuel + 1 => do
    let (e, rest) ← Grammar.choice fuel is
    let (target, rest) ← match rest with
      | .name "as" :: rest => (Grammar.target fuel rest).map fun p => (some p.1, p.2)
      | rest => some (none, rest)
    if !target.all Term.isTarget then none
    match rest with
    | .sign "," :: rest =>
      let (more, rest) ← uses fuel rest
      return ((e, target) :: more, rest)
    | rest => return ([(e, target)], rest)

/-- Reads the kind of errors that a handler is for, if it tells one, and the name of the error. -/
def handled (fuel : Nat) (is : List Item) :
    Option ((Option Term × Option String) × List Item) := do
  let is := match is with
    | .sign "*" :: rest => rest
    | is => is
  match is with
  | .sign ":" :: _ => return ((none, none), is)
  | is =>
    let (e, rest) ← Grammar.choice fuel is
    let (name, rest) ← Grammar.alias? rest
    return ((some e, name), rest)

mutual

/-- Reads the statements of a block. The first block is the one that they belong to, and the others
stand around it. -/
def read (fuel : Nat) (blocks : List Indent) (is : List Item) :
    Except Fault (List Clause × List Item) :=
  match fuel with
  | 0 => .error .badScript
  | fuel + 1 => do
    let (cs, rest) ← statement fuel blocks [] is
    match rest with
    | .line i :: after =>
      if ← place blocks i then
        let (more, rest) ← read fuel blocks after
        return (cs ++ more, rest)
      else return (cs, rest)
    | rest => return (cs, rest)

/-- Reads a statement that holds other ones, behind its decorators, or the statements of a line. -/
def statement (fuel : Nat) (blocks : List Indent) (decorators : List Term) (is : List Item) :
    Except Fault (List Clause × List Item) :=
  match fuel, is with
  | 0, _ => .error .badScript
  | fuel + 1, .sign "@" :: rest => do
    let (e, rest) ← condition fuel rest
    match rest with
    | .line i :: rest =>
      if (blocks.head?.map (·.width)).all (· < i.width) then throw .badIndent
      if !(← place blocks i) then throw .badScript
      statement fuel blocks (decorators ++ [e]) rest
    | _ => throw .badScript
  | fuel + 1, .name "def" :: rest => do
    let ((name, terms), rest) ← orBad (signature fuel rest)
    let (cs, rest) ← body fuel blocks rest
    return ([.function name decorators terms cs], rest)
  | fuel + 1, .name "class" :: rest => do
    let ((name, bases), rest) ← orBad (heading fuel rest)
    let (cs, rest) ← body fuel blocks rest
    return ([.derive name decorators bases cs], rest)
  | fuel + 1, .name "async" :: .name s :: rest => do
    let (cs, rest) ← statement fuel blocks decorators (.name s :: rest)
    if s = "def" then return (cs, rest)
    if s = "for" || s = "with" then return ([.misplaced], rest)
    throw .badScript
  | fuel + 1, is => do
    if !decorators.isEmpty then throw .badScript
    match is with
    | .name "if" :: rest => branch fuel blocks rest
    | .name "while" :: rest =>
      let (e, rest) ← condition fuel rest
      let (cs, rest) ← body fuel blocks rest
      let (others, rest) ← otherwise fuel blocks rest
      return ([.loop e cs others], rest)
    | .name "for" :: rest =>
      let (target, rest) ← orBad (Grammar.targets fuel rest)
      if !target.isTarget then throw .badScript
      match rest with
      | .name "in" :: rest =>
        let (source, rest) ← orBad (Grammar.values fuel rest)
        let (cs, rest) ← body fuel blocks rest
        let (others, rest) ← otherwise fuel blocks rest
        return ([.each target source cs others], rest)
      | _ => throw .badScript
    | .name "try" :: rest =>
      let (cs, rest) ← body fuel blocks rest
      let (hs, rest) ← handlers fuel blocks rest
      let (others, rest) ← if hs.isEmpty then pure ([], rest) else otherwise fuel blocks rest
      match afterWord? "finally" blocks rest with
      | some rest =>
        let (last, rest) ← body fuel blocks rest
        return ([.attempt cs hs others last], rest)
      | none => if hs.isEmpty then throw .badScript else return ([.attempt cs hs others []], rest)
    | .name "with" :: rest =>
      let (values, rest) ← orBad (uses fuel rest)
      let (cs, rest) ← body fuel blocks rest
      return ([.using values cs], rest)
    | is => orBad (Grammar.clauses fuel is)

/-- Reads the statements behind a condition, and those for when it does not hold. -/
def branch (fuel : Nat) (blocks : List Indent) (is : List Item) :
    Except Fault (List Clause × List Item) :=
  match fuel with
  | 0 => .error .badScript
  | fuel + 1 => do
    let (e, rest) ← condition fuel is
    let (yes, rest) ← body fuel blocks rest
    match afterWord? "elif" blocks rest with
    | some rest =>
      let (no, rest) ← branch fuel blocks rest
      return ([.branch e yes no], rest)
    | none =>
      let (no, rest) ← otherwise fuel blocks rest
      return ([.branch e yes no], rest)

/-- Reads the statements for when what stands before them has not led elsewhere, if there are
some. -/
def otherwise (fuel : Nat) (blocks : List Indent) (is : List Item) :
    Except Fault (List Clause × List Item) :=
  match fuel, afterWord? "else" blocks is with
  | 0, _ => .error .badScript
  | fuel + 1, some rest => body fuel blocks rest
  | _, none => .ok ([], is)

/-- Reads the handlers of errors. -/
def handlers (fuel : Nat) (blocks : List Indent) (is : List Item) :
    Except Fault (List (Option Term × Option String × List Clause) × List Item) :=
  match fuel, afterWord? "except" blocks is with
  | 0, _ => .error .badScript
  | _, none => .ok ([], is)
  | fuel + 1, some rest => do
    let ((kind, name), rest) ← orBad (handled fuel rest)
    let (cs, rest) ← body fuel blocks rest
    let (more, rest) ← handlers fuel blocks rest
    return ((kind, name, cs) :: more, rest)

/-- Reads the statements behind a colon: those of the same line, or a block of their own. -/
def body (fuel : Nat) (blocks : List Indent) (is : List Item) :
    Except Fault (List Clause × List Item) :=
  match fuel with
  | 0 => .error .badScript
  | fuel + 1 => do
    match ← sign ":" is with
    | [] => throw .badIndent
    | .line i :: rest =>
      opens (blocks.headD {}) i
      read fuel (i :: blocks) rest
    | rest => orBad (Grammar.clauses fuel rest)

end

end Bindery.Script.Block
