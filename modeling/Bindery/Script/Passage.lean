import Bindery.Script.Block
import Bindery.Script.Execution

/-!
# Passages of scripts

A schema name that stands between triple quotes may hold quotes itself, and what follows those is
script. A passage is such a part of a script. In the line that opens a class the bases follow its
name in parentheses, and a name that is none may give bases of its own and close the line by itself.

* `Passage`: the statements of a passage.
* `Passage.read`, `Passage.readBody`: the statements of a passage.
* `Passage.check`, `Passage.run`: what comes of running a passage.
* `Passage.doc?`: the text that documents what a passage stands in.
* `ClassHeader`: what a name makes of the line that opens a class.
* `ClassHeader.ofName`: the header with a name put into it.
* `ClassHeader.checkResult`: whether a function's result can be said to be of the class.
-/

namespace Bindery.Script

/-- A passage. -/
structure Passage where
  /-- The statements of the block that the passage stands in. -/
  clauses : List Clause
  /-- The statements behind that block, if the passage ends it. What follows the passage belongs to
  the last one of them. -/
  after : Option (List Clause) := none
  /-- How many steps deep the statements are followed, which is enough for those of its text. -/
  fuel : Nat

namespace Passage

/-- How deep the terms of a text can be nested in each other, and how many items they can have in a
row. Each level of operations counts. -/
def fuelOf (size : Nat) : Nat := 20 * size + 100

/-! ## Reading -/

/-- The indentation of the body of a class. -/
def bodyIndent : Indent := .spaces 4

/-- A line that stands for those that follow a passage. -/
def lineAt (indent : Indent) : List Item := [.line indent, .name "pass"]

/-- The statements of items in a block, read from a text of some size, where a line that is indented
in some way follows. -/
def ofItems (size : Nat) (block next : Indent) (is : List Item) : Except Fault Passage := do
  let fuel := fuelOf size
  let blocks := if block = {} then [{}] else [block, {}]
  match ← Block.read fuel blocks (is ++ lineAt next) with
  | (clauses, .line _ :: rest) =>
    let (after, _) ← Block.read fuel [{}] rest
    return { clauses, after := some after, fuel }
  | (clauses, _) => return { clauses, fuel }

/-- Refuses items that go on with a line that defines a class, if the body of that follows. -/
def checkLine (size : Nat) (is : List Item) : Except Fault Unit :=
  match Grammar.clauses (fuelOf size) (is ++ lineAt bodyIndent) with
  | some (_, .line i :: rest) =>
    if i = {} then discard (Block.read (fuelOf size) [{}] rest) else .error (Indent.fault {} i)
  | _ => .error .badScript

/-- The statements of a passage in the file of a script. -/
def read (text : String) : Except Fault Passage := ofItems text.length {} {} (itemsOf text)

/-- The statements of a passage in the body of a class. -/
def readBody (text : String) : Except Fault Passage :=
  ofItems text.length bodyIndent bodyIndent (itemsOf text)

/-- The text that documents what a passage stands in: its first statement, if that is a text. -/
def doc? (p : Passage) : Option String :=
  match p.clauses with
  | .run (.text s) :: _ => some s
  | _ => none

/-! ## Places -/

/-- What a clause stands in. -/
inductive Place where
  | script | classBody | functionBody
deriving DecidableEq

mutual

/-- Whether a clause has no meaning where it stands, perhaps in a loop. That can be told before it
is run. -/
def isMisplaced (fuel : Nat) (place : Place) (inLoop : Bool) (c : Clause) : Bool :=
  match fuel with
  | 0 => false
  | fuel + 1 =>
    match c with
    | .misplaced => true
    | .answer | .run .misplaced | .assign _ .misplaced => place ≠ .functionBody
    | .loadFrom _ [] => place ≠ .script
    | .jump _ => !inLoop
    | .branch _ yes no => areMisplaced fuel place inLoop (yes ++ no)
    | .loop _ body rest | .each _ _ body rest =>
      areMisplaced fuel place true body || areMisplaced fuel place inLoop rest
    | .attempt body handlers rest last =>
      areMisplaced fuel place inLoop (body ++ handlers.flatMap (·.2.2) ++ rest ++ last)
    | .using _ body => areMisplaced fuel place inLoop body
    | .function _ _ _ body => areMisplaced fuel .functionBody false body
    | .derive _ _ _ body => areMisplaced fuel .classBody false body
    | _ => false

/-- Whether one of some clauses has no meaning where it stands. -/
def areMisplaced (fuel : Nat) (place : Place) (inLoop : Bool) (cs : List Clause) : Bool :=
  match fuel, cs with
  | fuel + 1, c :: rest =>
    isMisplaced fuel place inLoop c || areMisplaced fuel place inLoop rest
  | _, _ => false

end

/-- What the statements of the block of a passage say about names. -/
def mentions? (p : Passage) (place : Place) : Option Mentions :=
  Mentions.afterAll? p.fuel { isWhole := place = .script } p.clauses

/-- Refuses a passage with a clause that has no meaning where it stands. Some names have been
mentioned outside of the block of the passage before. -/
def check (p : Passage) (place : Place) (outside : List String) : Except Fault Unit :=
  let after := p.after.getD []
  if areMisplaced p.fuel place false p.clauses then .error .badScript
  else if areMisplaced p.fuel .script false after then .error .badScript
  else if (p.mentions? place).isNone then .error .badScript
  else if (Mentions.afterAll? p.fuel { isWhole := true, seen := outside } after).isNone then
    .error .badScript
  else .ok ()

/-! ## Running -/

/-- A scope with the text that documents what a passage stands in, and with the names that belong to
the whole script. -/
def document (p : Passage) (scope : Scope) : Scope :=
  let scope := { scope with shared := Mentions.sharedBy p.fuel p.clauses }
  match p.doc? with
  | some s => { scope with inner := Assoc.set "__doc__" (.text s) scope.inner }
  | none => scope

/-- The scope that a passage leaves behind in its block. -/
def run (p : Passage) (scope : Scope) : Except Fault Scope := do
  return (← (Execution.runAll p.fuel p.clauses).runIn (p.document scope)).2

/-- The scope that statements behind the block of a passage leave behind. -/
def runAfter (p : Passage) (after : List Clause) (scope : Scope) : Except Fault Scope := do
  return (← (Execution.runAll p.fuel after).runIn scope).2

end Passage

/-! ## Class headers -/

/-- What a name makes of the line that opens a class. -/
inductive ClassHeader where
  /-- The line is the one that is meant; there may be blanks around the name. -/
  | plain
  /-- The name gives bases of its own and ends the line; the rest of it is a comment. -/
  | closed (bases : List (Passing × Term))

namespace ClassHeader

/-- Whether the name ends the line. -/
def isClosed : ClassHeader → Bool
  | plain => false
  | closed _ => true

/-- The bases of the class: those that the name gives, or those that are meant for an enum or for a
plain integer. -/
def bases (header : ClassHeader) (isPlain : Bool) : List (Passing × Term) :=
  match header with
  | closed given => given
  | plain =>
    [(.inOrder, if isPlain then .name "int" else .member (.name "enum") "IntEnum")]

/-- Whether a class can have a name. -/
def isClassName (s : String) : Bool := !Naming.keywords.contains s && s ≠ "__debug__"

/-- The bases at the start of some items, if there are some, and the rest. -/
def bases? (fuel : Nat) : List Item → Option (List (Passing × Term) × List Item)
  | .sign "(" :: rest => Grammar.arguments fuel rest
  | rest => some ([], rest)

/-- The header of which only what follows its colon is left. The body that is meant for the class
follows, so what stands on the line already has to be nothing, or what follows is indented wrongly.
If the body has been begun on a line of its own, the name breaks the literals that it stands in. -/
def ofRest (size : Nat) (given : List (Passing × Term)) : List Item → Except Fault ClassHeader
  | [] => .ok (.closed given)
  | .line indent :: is => do
    if indent = {} then throw .badIndent
    discard (Passage.ofItems size indent Passage.bodyIndent is)
    throw .badScript
  | is => do
    Passage.checkLine size is
    throw .badIndent

/-- The header of a class with a name put into it. -/
def ofName (name : String) : Except Fault ClassHeader :=
  let size := name.length
  let fuel := Passage.fuelOf size
  match itemsOf name, itemsOf (name ++ "():") with
  | [.name s], [_, .sign "(", .sign ")", .sign ":"] =>
    if isClassName s then .ok .plain else .error .badScript
  | _, .name s :: rest =>
    if !isClassName s then .error .badScript
    else match bases? fuel rest with
      | some (given, .sign ":" :: rest) => ofRest size given rest
      | _ => .error .badScript
  | _, _ => .error .badScript

/-- Refuses a name that breaks the text of it by which a function tells that its result is of the
class. What the text is part of stands around it. -/
def checkResult (start name stop : String) : Except Fault Unit :=
  let size := name.length
  match Grammar.choice (Passage.fuelOf size) (itemsOf (start ++ name ++ stop ++ ":")) with
  | some (_, [.sign ":"]) => .ok ()
  | some (_, .sign ":" :: rest) => do
    Passage.checkLine size rest
    throw .badIndent
  | _ => .error .badScript

end ClassHeader
end Bindery.Script
