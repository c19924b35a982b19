import Bindery.Naming
import Bindery.Script.Item
import Bindery.Script.Term

/-!
# Grammar of terms

Reads terms from lexical items.

* `Reader`: reads something from the start of some items.
* `Grammar.choice`: reads a term that is no tuple without brackets.
* `Grammar.values`: reads terms with commas between them.
-/

namespace Bindery.Script

/-- Reads something from the start of some items. -/
abbrev Reader (α : Type) := List Item → Option (α × List Item)

namespace Grammar

/-! ## Signs and names -/

/-- Reads a given sign. -/
def sign (s : String) : Reader Unit
  | .sign t :: rest => if s = t then some ((), rest) else none
  | _ => none

/-- Reads a name that is no keyword. -/
def name : Reader String
  | .name s :: rest => if Naming.keywords.contains s then none else some (s, rest)
  | _ => none

/-- The signs of operations between two terms, the ones that bind less first. The third level are
negations and the fourth one comparisons. -/
def levels : List (List String) := [
  ["or"], ["and"], [], [], ["|"], ["^"], ["&"], ["<<", ">>"], ["+", "-"],
  ["*", "/", "//", "%", "@"]]

/-- The level of negations. -/
def negations : Nat := 2

/-- The level of comparisons. -/
def comparisonLevel : Nat := 3

/-- The level of the operations that bind less than all others on bits. -/
def bitLevel : Nat := 4

/-- The operation that a sign of a level stands for. -/
def operationOf (sign : String) (a b : Term) : Term :=
  match sign with
  | "or" => .either a b
  | "and" => .both a b
  | _ => .binary sign a b

/-- Reads a sign of a level. Some signs are words. -/
def levelSign (level : Nat) : Reader String
  | .sign s :: rest | .name s :: rest =>
    if (levels.getD level []).contains s then some (s, rest) else none
  | _ => none

/-- Reads a comparison. -/
def comparison : Reader String
  | .name "not" :: .name "in" :: rest => some ("not in", rest)
  | .name "is" :: .name "not" :: rest => some ("is not", rest)
  | .name s :: rest => if s = "in" || s = "is" then some (s, rest) else none
  | .sign s :: rest =>
    if ["==", "!=", "<", ">", "<=", ">="].contains s then some (s, rest) else none
  | _ => none

/-- The signs of updates. -/
def updates : List String := [
  "+=", "-=", "*=", "/=", "//=", "%=", "@=", "&=", "|=", "^=", "<<=", ">>=", "**="]

/-- Whether no more terms follow the comma before some items. -/
def endsValues : List Item → Bool
  | [] | .line _ :: _ => true
  | .sign s :: _ => [";", "=", ":", ")", "]", "\x7d"].contains s || updates.contains s
  | .name s :: _ => s = "in"
  | _ => false

/-! ## Literals -/

/-- The literals at the start of some items, and the rest. -/
def literals : List Item → List Literal × List Item
  | .literal l :: rest => (l :: (literals rest).1, (literals rest).2)
  | rest => ([], rest)

/-- Whether arguments stand in an order that is allowed: none in order follows one with a name, and
only named ones follow a table. No name is given twice. -/
def areOrdered (args : List Passing) : Bool :=
  let names := args.filterMap fun p => match p with
    | .byName s => some s
    | _ => none
  let fromName := args.dropWhile fun p => match p with
    | .inOrder | .spread => true
    | _ => false
  let fromTable := args.dropWhile fun p => p ≠ .spreadNames
  names.eraseDups.length = names.length && !fromName.contains .inOrder
    && !fromTable.contains .spread

/-! ## Terms -/

mutual

/-- Reads a term that is no tuple without brackets. -/
def choice (fuel : Nat) (is : List Item) : Option (Term × List Item) :=
  match fuel, is with
  | 0, _ => none
  | fuel + 1, .name "lambda" :: rest => do
    let (defaults, rest) ← parameters fuel rest
    let (_, rest) ← choice fuel rest
    return (.lambda defaults, rest)
  | fuel + 1, is => do
    let (yes, rest) ← operation fuel 0 is
    match rest with
    | .name "if" :: rest =>
      let (condition, rest) ← operation fuel 0 rest
      match rest with
      | .name "else" :: rest =>
        let (no, rest) ← choice fuel rest
        return (.choice condition yes no, rest)
      | _ => none
    | rest => return (yes, rest)

/-- Reads the parameters of a function without a name, and the colon behind them. It answers the
values that they have already. -/
def parameters (fuel : Nat) (is : List Item) : Option (List Term × List Item) :=
  match fuel, is with
  | 0, _ => none
  | _, .sign ":" :: rest => some ([], rest)
  | fuel + 1, is => do
    let (value, rest) ← parameter fuel is
    match rest with
    | .sign ":" :: rest => return (value.toList, rest)
    | .sign "," :: rest =>
      let (more, rest) ← parameters fuel rest
      return (value.toList ++ more, rest)
    | _ => none

/-- Reads a parameter, or a sign that parts others, and answers the value that it has already. -/
def parameter (fuel : Nat) (is : List Item) : Option (Option Term × List Item) :=
  match fuel, is with
  | 0, _ => none
  | _, .sign "/" :: rest => some (none, rest)
  | _, .sign "*" :: .sign "," :: rest => some (none, .sign "," :: rest)
  | _, .sign "*" :: rest | _, .sign "**" :: rest => (name rest).map fun p => (none, p.2)
  | fuel + 1, is => do
    let (_, rest) ← name is
    match rest with
    | .sign "=" :: rest => (choice fuel rest).map fun p => (some p.1, p.2)
    | rest => return (none, rest)

/-- Reads a term made of operations of a level and of those that bind more. -/
def operation (fuel level : Nat) (is : List Item) : Option (Term × List Item) :=
  match fuel with
  | 0 => none
  | fuel + 1 =>
    if levels.length ≤ level then factor fuel is
    else if level = negations then
      match is with
      | .name "not" :: rest => do
        let (e, rest) ← operation fuel level rest
        return (.unary "not" e, rest)
      | is => operation fuel (level + 1) is
    else if level = comparisonLevel then do
      let (e, rest) ← operation fuel (level + 1) is
      let (others, rest) ← comparisons fuel rest
      return (if others.isEmpty then e else .compare e others, rest)
    else do
      let (e, rest) ← operation fuel (level + 1) is
      operations fuel level e rest

/-- Reads more operations of a level behind their first operand. -/
def operations (fuel level : Nat) (e : Term) (is : List Item) : Option (Term × List Item) :=
  match fuel, levelSign level is with
  | 0, _ => none
  | _, none => some (e, is)
  | fuel + 1, some (s, rest) => do
    let (other, rest) ← operation fuel (level + 1) rest
    operations fuel level (operationOf s e other) rest

/-- Reads comparisons behind their first operand. -/
def comparisons (fuel : Nat) (is : List Item) : Option (List (String × Term) × List Item) :=
  match fuel, comparison is with
  | 0, _ => none
  | _, none => some ([], is)
  | fuel + 1, some (s, rest) => do
    let (e, rest) ← operation fuel (comparisonLevel + 1) rest
    let (more, rest) ← comparisons fuel rest
    return ((s, e) :: more, rest)

/-- Reads a power, perhaps behind signs. -/
def factor (fuel : Nat) (is : List Item) : Option (Term × List Item) :=
  match fuel, is with
  | 0, _ => none
  | fuel + 1, .sign s :: rest =>
    if ["+", "-", "~"].contains s then do
      let (e, rest) ← factor fuel rest
      return (.unary s e, rest)
    else power fuel is
  | fuel + 1, is => power fuel is

/-- Reads a power. -/
def power (fuel : Nat) (is : List Item) : Option (Term × List Item) :=
  match fuel with
  | 0 => none
  | fuel + 1 => do
    let (waits, is) := match is with
      | .name "await" :: rest => (true, rest)
      | is => (false, is)
    let (e, rest) ← atom fuel is
    let (e, rest) ← trailers fuel e rest
    let e := if waits then .misplaced else e
    match rest with
    | .sign "**" :: rest =>
      let (exponent, rest) ← factor fuel rest
      return (.binary "**" e exponent, rest)
    | rest => return (e, rest)

/-- Reads members, arguments and indices behind what they belong to. -/
def trailers (fuel : Nat) (e : Term) (is : List Item) : Option (Term × List Item) :=
  match fuel, is with
  | 0, _ => none
  | fuel + 1, .sign "." :: rest => do
    let (s, rest) ← name rest
    trailers fuel (.member e s) rest
  | fuel + 1, .sign "(" :: rest => do
    let (args, rest) ← arguments fuel rest
    trailers fuel (.call e args) rest
  | fuel + 1, .sign "[" :: rest => do
    let (index, rest) ← indices fuel rest
    trailers fuel (.item e index) rest
  | _, is => some (e, is)

/-- Reads a term that needs no brackets wherever it stands. -/
def atom (fuel : Nat) (is : List Item) : Option (Term × List Item) :=
  match fuel, is with
  | 0, _ => none
  | _, .number n :: rest => some (.number n, rest)
  | fuel + 1, .literal l :: rest => do
    let (more, rest) := literals rest
    let ls := l :: more
    let value := String.ofList (ls.flatMap (·.value))
    if ls.all fun l => l.kind = .text then return (.text value, rest)
    if ls.all fun l => l.kind = .bytes then return (.bytes value, rest)
    if ls.any fun l => l.kind = .bytes then none
    return (.template (← pieces fuel (ls.flatMap (·.parts))), rest)
  | fuel + 1, .sign "(" :: rest => group fuel rest
  | fuel + 1, .sign "[" :: rest => collection fuel .list "]" rest
  | _, .sign "\x7b" :: .sign "\x7d" :: rest => some (.table [], rest)
  | fuel + 1, .sign "\x7b" :: .sign "**" :: rest => entries fuel (.sign "**" :: rest)
  | fuel + 1, .sign "\x7b" :: rest => do
    let (e, after) ← element fuel rest
    if (sign ":" after).isSome && !e.isStarred then entries fuel rest
    else collection fuel .set "\x7d" rest
  | _, .sign "..." :: rest => some (.ellipsis, rest)
  | _, .name "None" :: rest => some (.null, rest)
  | _, .name "True" :: rest => some (.truth true, rest)
  | _, .name "False" :: rest => some (.truth false, rest)
  | _, is => (name is).map fun p => (.name p.1, p.2)

/-- Reads what stands in parentheses, the first of which has been read. -/
def group (fuel : Nat) (is : List Item) : Option (Term × List Item) :=
  match fuel, is with
  | 0, _ => none
  | _, .sign ")" :: rest => some (.sequence .tuple [], rest)
  | fuel + 1, .name "yield" :: rest => do
    let ((), rest) ← yielded fuel rest
    let ((), rest) ← sign ")" rest
    return (.misplaced, rest)
  | fuel + 1, is => do
    let (e, rest) ← element fuel is
    match rest with
    | .sign ")" :: rest => if e.isStarred then none else return (e, rest)
    | .sign "," :: rest =>
      let (more, rest) ← elements fuel ")" rest
      return (.sequence .tuple (e :: more), rest)
    | rest =>
      if e.isStarred then none
      let (source, rest) ← sources fuel rest
      let ((), rest) ← sign ")" rest
      return (.each none source, rest)

/-- Reads the terms of a list or a set, whose bracket has been read. -/
def collection (fuel : Nat) (kind : SequenceKind) (closer : String) (is : List Item) :
    Option (Term × List Item) :=
  match fuel with
  | 0 => none
  | fuel + 1 =>
    match sign closer is with
    | some ((), rest) => some (.sequence kind [], rest)
    | none => do
      let (e, rest) ← element fuel is
      match rest with
      | .name "for" :: _ | .name "async" :: _ =>
        if e.isStarred then none
        let (source, rest) ← sources fuel rest
        let ((), rest) ← sign closer rest
        return (.each (some kind) source, rest)
      | rest =>
        match sign "," rest with
        | some ((), rest) =>
          let (more, rest) ← elements fuel closer rest
          return (.sequence kind (e :: more), rest)
        | none =>
          let ((), rest) ← sign closer rest
          return (.sequence kind [e], rest)

/-- Reads terms with commas between them up to a closing bracket. -/
def elements (fuel : Nat) (closer : String) (is : List Item) : Option (List Term × List Item) :=
  match fuel with
  | 0 => none
  | fuel + 1 =>
    match sign closer is with
    | some ((), rest) => some ([], rest)
    | none => do
      let (e, rest) ← element fuel is
      match sign "," rest with
      | some ((), rest) =>
        let (more, rest) ← elements fuel closer rest
        return (e :: more, rest)
      | none =>
        let ((), rest) ← sign closer rest
        return ([e], rest)

/-- Reads a term inside of brackets, which may name its value or stand for the items of a
collection. -/
def element (fuel : Nat) (is : List Item) : Option (Term × List Item) :=
  match fuel, is with
  | 0, _ => none
  | fuel + 1, .sign "*" :: rest => do
    let (e, rest) ← operation fuel bitLevel rest
    return (.starred e, rest)
  | fuel + 1, .name s :: .sign ":=" :: rest => do
    if Naming.keywords.contains s then none
    let (e, rest) ← choice fuel rest
    return (.bind s e, rest)
  | fuel + 1, is => choice fuel is

/-- Reads the collections from which what stands before them is made one by one, and answers the
first one. -/
def sources (fuel : Nat) (is : List Item) : Option (Term × List Item) :=
  match fuel, is with
  | 0, _ => none
  | fuel + 1, .name "for" :: rest => do
    let (target, rest) ← targets fuel rest
    if !target.isTarget then none
    match rest with
    | .name "in" :: rest =>
      let (source, rest) ← operation fuel 0 rest
      let rest ← conditions fuel rest
      match rest with
      | .name "for" :: _ | .name "async" :: _ =>
        let (_, rest) ← sources fuel rest
        return (source, rest)
      | rest => return (source, rest)
    | _ => none
  | fuel + 1, .name "async" :: rest => do
    let (_, rest) ← sources fuel rest
    return (.misplaced, rest)
  | _, _ => none

/-- Reads what is assigned to in front of a collection. -/
def targets (fuel : Nat) (is : List Item) : Option (Term × List Item) :=
  match fuel with
  | 0 => none
  | fuel + 1 => do
    let (e, rest) ← target fuel is
    match rest with
    | .sign "," :: rest =>
      let (more, rest) ← targetList fuel rest
      return (.sequence .tuple (e :: more), rest)
    | rest => return (e, rest)

/-- Reads more of what is assigned to behind a comma. -/
def targetList (fuel : Nat) (is : List Item) : Option (List Term × List Item) :=
  match fuel with
  | 0 => none
  | fuel + 1 =>
    if endsValues is then some ([], is)
    else do
      let (e, rest) ← target fuel is
      match rest with
      | .sign "," :: rest =>
        let (more, rest) ← targetList fuel rest
        return (e :: more, rest)
      | rest => return ([e], rest)

/-- Reads one thing that is assigned to in front of a collection. -/
def target (fuel : Nat) (is : List Item) : Option (Term × List Item) :=
  match fuel, is with
  | 0, _ => none
  | fuel + 1, .sign "*" :: rest => do
    let (e, rest) ← operation fuel bitLevel rest
    return (.starred e, rest)
  | fuel + 1, is => operation fuel bitLevel is

/-- Reads the conditions behind a collection. -/
def conditions (fuel : Nat) (is : List Item) : Option (List Item) :=
  match fuel, is with
  | 0, _ => none
  | fuel + 1, .name "if" :: rest => do
    let (_, rest) ← operation fuel 0 rest
    conditions fuel rest
  | _, is => some is

/-- Reads arguments up to the closing parenthesis. -/
def arguments (fuel : Nat) (is : List Item) : Option (List (Passing × Term) × List Item) :=
  match fuel with
  | 0 => none
  | fuel + 1 => do
    let (args, rest) ← argumentList fuel is
    if areOrdered (args.map (·.1)) then return (args, rest) else none

/-- Reads arguments in any order up to the closing parenthesis. What is made one by one is only an
argument if there is no other one. -/
def argumentList (fuel : Nat) (is : List Item) : Option (List (Passing × Term) × List Item) :=
  match fuel with
  | 0 => none
  | fuel + 1 =>
    match sign ")" is with
    | some ((), rest) => some ([], rest)
    | none => do
      let (arg, rest) ← argument fuel is
      match sign "," rest with
      | some ((), rest) =>
        let (more, rest) ← argumentList fuel rest
        return (arg :: more, rest)
      | none =>
        match sign ")" rest with
        | some ((), rest) => return ([arg], rest)
        | none =>
          let (source, rest) ← sources fuel rest
          let ((), rest) ← sign ")" rest
          return ([(.inOrder, .each none source)], rest)

/-- Reads an argument. -/
def argument (fuel : Nat) (is : List Item) : Option ((Passing × Term) × List Item) :=
  match fuel, is with
  | 0, _ => none
  | fuel + 1, .name s :: .sign "=" :: rest => do
    if Naming.keywords.contains s then none
    let (e, rest) ← choice fuel rest
    return ((.byName s, e), rest)
  | fuel + 1, .sign "*" :: rest => do
    let (e, rest) ← choice fuel rest
    return ((.spread, e), rest)
  | fuel + 1, .sign "**" :: rest => do
    let (e, rest) ← choice fuel rest
    return ((.spreadNames, e), rest)
  | fuel + 1, is => do
    let (e, rest) ← element fuel is
    return ((.inOrder, e), rest)

/-- Reads indices up to the closing bracket. -/
def indices (fuel : Nat) (is : List Item) : Option (Term × List Item) :=
  match fuel with
  | 0 => none
  | fuel + 1 => do
    let (e, rest) ← index fuel is
    match sign "," rest with
    | some ((), rest) =>
      let (more, rest) ← indexList fuel rest
      return (.sequence .tuple (e :: more), rest)
    | none =>
      let ((), rest) ← sign "]" rest
      return (if e.isStarred then .sequence .tuple [e] else e, rest)

/-- Reads more indices up to the closing bracket. -/
def indexList (fuel : Nat) (is : List Item) : Option (List Term × List Item) :=
  match fuel with
  | 0 => none
  | fuel + 1 =>
    match sign "]" is with
    | some ((), rest) => some ([], rest)
    | none => do
      let (e, rest) ← index fuel is
      match sign "," rest with
      | some ((), rest) =>
        let (more, rest) ← indexList fuel rest
        return (e :: more, rest)
      | none =>
        let ((), rest) ← sign "]" rest
        return ([e], rest)

/-- Reads an index, which may be a range of positions. -/
def index (fuel : Nat) (is : List Item) : Option (Term × List Item) :=
  match fuel with
  | 0 => none
  | fuel + 1 => do
    let (start, rest) ← bound fuel is
    match rest with
    | .sign ":" :: rest =>
      if start.any Term.isStarred then none
      let (stop, rest) ← bound fuel rest
      let (step, rest) ← match rest with
        | .sign ":" :: rest => bound fuel rest
        | rest => some (none, rest)
      return (.slice [start.getD .null, stop.getD .null, step.getD .null], rest)
    | rest => return (← start, rest)

/-- Reads a bound of a range, if there is one. -/
def bound (fuel : Nat) (is : List Item) : Option (Option Term × List Item) :=
  match fuel, is with
  | 0, _ => none
  | fuel + 1, .sign s :: _ =>
    if [":", "]", ","].contains s then some (none, is)
    else (element fuel is).map fun p => (some p.1, p.2)
  | fuel + 1, is => (element fuel is).map fun p => (some p.1, p.2)

/-- Reads the entries of a table up to its closing brace. -/
def entries (fuel : Nat) (is : List Item) : Option (Term × List Item) :=
  match fuel with
  | 0 => none
  | fuel + 1 => do
    let (found, rest) ← entryList fuel is
    match found, rest with
    | [_], .name "for" :: _ | [_], .name "async" :: _ =>
      let (source, rest) ← sources fuel rest
      let ((), rest) ← sign "\x7d" rest
      return (.each none source, rest)
    | es, rest =>
      let ((), rest) ← sign "\x7d" rest
      return (.table es, rest)

/-- Reads entries of a table with commas between them. -/
def entryList (fuel : Nat) (is : List Item) : Option (List (Term × Term) × List Item) :=
  match fuel, is with
  | 0, _ => none
  | _, .sign "\x7d" :: _ => some ([], is)
  | fuel + 1, is => do
    let (e, rest) ← entry fuel is
    match sign "," rest with
    | some ((), rest) =>
      let (more, rest) ← entryList fuel rest
      return (e :: more, rest)
    | none => return ([e], rest)

/-- Reads an entry of a table. -/
def entry (fuel : Nat) (is : List Item) : Option ((Term × Term) × List Item) :=
  match fuel, is with
  | 0, _ => none
  | fuel + 1, .sign "**" :: rest => do
    let (e, rest) ← operation fuel bitLevel rest
    return ((.entries e, .null), rest)
  | fuel + 1, is => do
    let (key, rest) ← choice fuel is
    let ((), rest) ← sign ":" rest
    let (value, rest) ← choice fuel rest
    return ((key, value), rest)

/-- Reads terms with commas between them. -/
def values (fuel : Nat) (is : List Item) : Option (Term × List Item) :=
  match fuel with
  | 0 => none
  | fuel + 1 => do
    let (e, rest) ← value fuel is
    match rest with
    | .sign "," :: rest =>
      let (more, rest) ← valueList fuel rest
      return (.sequence .tuple (e :: more), rest)
    | rest => return (e, rest)

/-- Reads more terms behind a comma. -/
def valueList (fuel : Nat) (is : List Item) : Option (List Term × List Item) :=
  match fuel with
  | 0 => none
  | fuel + 1 =>
    if endsValues is then some ([], is)
    else do
      let (e, rest) ← value fuel is
      match rest with
      | .sign "," :: rest =>
        let (more, rest) ← valueList fuel rest
        return (e :: more, rest)
      | rest => return ([e], rest)

/-- Reads a term outside of brackets, which may stand for the items of a collection. -/
def value (fuel : Nat) (is : List Item) : Option (Term × List Item) :=
  match fuel, is with
  | 0, _ => none
  | fuel + 1, .sign "*" :: rest => do
    let (e, rest) ← operation fuel bitLevel rest
    return (.starred e, rest)
  | fuel + 1, is => choice fuel is

/-- Reads what a function hands out behind the word for that. -/
def yielded (fuel : Nat) (is : List Item) : Option (Unit × List Item) :=
  match fuel, is with
  | 0, _ => none
  | fuel + 1, .name "from" :: rest => (choice fuel rest).map fun p => ((), p.2)
  | fuel + 1, is =>
    if endsValues is then some ((), is) else (values fuel is).map fun p => ((), p.2)

/-- The terms of the parts of a template. -/
def pieces (fuel : Nat) (ps : List Piece) : Option (List Term) :=
  match fuel, ps with
  | _, [] => some []
  | 0, _ => none
  | fuel + 1, .text s :: rest => do
    return .text (String.ofList s) :: (← pieces fuel rest)
  | fuel + 1, .field expr conversion format :: rest => do
    if expr.all fun c => isBlank c || c = '\n' then none
    match ← atom fuel (itemsOf (String.ofList ('(' :: expr ++ [')']))) with
    | (e, []) =>
      let e := Term.field e conversion (← pieces fuel format)
      return e :: (← pieces fuel rest)
    | _ => none

end

end Grammar
end Bindery.Script
