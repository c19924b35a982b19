import Bindery.Script.Grammar

/-!
# Grammar of statements

Reads statements that hold no other ones from lexical items.

* `Grammar.clause`: reads a statement.
* `Grammar.clauses`: reads the statements of a line.
-/

namespace Bindery.Script.Grammar

/-- Reads names with commas between them. -/
def names (fuel : Nat) (is : List Item) : Option (List String × List Item) :=
  match fuel with
  | 0 => none
  | fuel + 1 => do
    let (s, rest) ← name is
    match rest with
    | .sign "," :: rest =>
      let (more, rest) ← names fuel rest
      return (s :: more, rest)
    | rest => return ([s], rest)

/-- Reads a name with points in it. -/
def path (fuel : Nat) (is : List Item) : Option (String × List Item) :=
  match fuel with
  | 0 => none
  | fuel + 1 => do
    let (s, rest) ← name is
    match rest with
    | .sign "." :: rest =>
      let (more, rest) ← path fuel rest
      return (s ++ "." ++ more, rest)
    | rest => return (s, rest)

/-- Reads another name behind the word for that, if there is one. -/
def alias? : List Item → Option (Option String × List Item)
  | .name "as" :: rest => (name rest).map fun p => (some p.1, p.2)
  | rest => some (none, rest)

/-- Reads what is imported, where `one` reads a name of it. No comma ends it unless it stands in
brackets. -/
def imports (one : Reader String) (closes : Bool) (fuel : Nat) (is : List Item) :
    Option (List (String × Option String) × List Item) :=
  match fuel with
  | 0 => none
  | fuel + 1 => do
    let (s, rest) ← one is
    let (other, rest) ← alias? rest
    match rest with
    | .sign "," :: rest =>
      if closes && (sign ")" rest).isSome then return ([(s, other)], rest)
      let (more, rest) ← imports one closes fuel rest
      return ((s, other) :: more, rest)
    | rest => return ([(s, other)], rest)

/-- Reads the points in front of a module's name. -/
def points : List Item → String × List Item
  | .sign "." :: rest => ("." ++ (points rest).1, (points rest).2)
  | .sign "..." :: rest => ("..." ++ (points rest).1, (points rest).2)
  | rest => ("", rest)

/-- Reads the rest of an import of members. -/
def importFrom (fuel : Nat) (is : List Item) : Option (Clause × List Item) := do
  let (start, rest) := points is
  let (module, rest) ← match rest with
    | .name "import" :: _ => if start.isEmpty then none else some ("", rest)
    | rest => path fuel rest
  match rest with
  | .name "import" :: .sign "*" :: rest => return (.loadFrom (start ++ module) [], rest)
  | .name "import" :: .sign "(" :: rest =>
    let (members, rest) ← imports name true fuel rest
    let ((), rest) ← sign ")" rest
    return (.loadFrom (start ++ module) members, rest)
  | .name "import" :: rest =>
    let (members, rest) ← imports name false fuel rest
    return (.loadFrom (start ++ module) members, rest)
  | _ => none

/-- Reads the value of an assignment. What a function hands out has no value outside of it. -/
def assigned (fuel : Nat) : List Item → Option (Term × List Item)
  | .name "yield" :: rest => (yielded fuel rest).map fun p => (.misplaced, p.2)
  | rest => values fuel rest

/-- Reads more parts of an assignment behind its sign. The last part is the value. -/
def assignment (fuel : Nat) (is : List Item) : Option (List Term × List Item) :=
  match fuel with
  | 0 => none
  | fuel + 1 => do
    let (e, rest) ← assigned fuel is
    match rest with
    | .sign "=" :: rest =>
      let (more, rest) ← assignment fuel rest
      return (e :: more, rest)
    | rest => return ([e], rest)

/-- The assignment of a value to targets. The items of a collection alone are neither. -/
def assign? (targets : List Term) (value : Term) : Option Clause :=
  if !targets.all Term.isTarget then none
  else if targets.any Term.isStarred || value.isStarred then some .misplaced
  else some (.assign targets value)

/-- Reads the rest of a statement that starts with terms. -/
def afterValues (fuel : Nat) (e : Term) : List Item → Option (Clause × List Item)
  | .sign "=" :: rest => do
    let (parts, rest) ← assignment fuel rest
    return (← assign? (e :: parts.dropLast) (← parts.getLast?), rest)
  | .sign ":" :: rest => do
    if !e.isPlace then none
    let (kind, rest) ← choice fuel rest
    match rest with
    | .sign "=" :: rest =>
      let (value, rest) ← assigned fuel rest
      return (if value.isStarred then .misplaced else .declare e kind (some value), rest)
    | rest => return (.declare e kind none, rest)
  | .sign s :: rest =>
    if updates.contains s then do
      if !e.isPlace then none
      let (value, rest) ← assigned fuel rest
      let op := String.ofList s.toList.dropLast
      return (if value.isStarred then .misplaced else .update e op value, rest)
    else some (if e.isStarred then .misplaced else .run e, .sign s :: rest)
  | rest => some (if e.isStarred then .misplaced else .run e, rest)

/-- Reads a term behind a sign or a word, if that follows. -/
def behind (starts : Item → Bool) (fuel : Nat) (is : List Item) :
    Option (Option Term × List Item) :=
  match is with
  | i :: rest =>
    if starts i then (choice fuel rest).map fun p => (some p.1, p.2) else some (none, is)
  | [] => some (none, [])

/-- Whether an item is a given word. -/
def isWord (s : String) : Item → Bool
  | .name t => s = t
  | _ => false

/-- Whether an item is a given sign. -/
def isSign (s : String) : Item → Bool
  | .sign t => s = t
  | _ => false

/-- Reads a statement. -/
def clause (fuel : Nat) (is : List Item) : Option (Clause × List Item) :=
  match is with
  | .name "pass" :: rest => some (.pass, rest)
  | .name "break" :: rest => some (.jump .leave, rest)
  | .name "continue" :: rest => some (.jump .again, rest)
  | .name "return" :: rest =>
    if endsValues rest then some (.answer, rest)
    else (values fuel rest).map fun p => (.answer, p.2)
  | .name "yield" :: rest => (yielded fuel rest).map fun p => (.answer, p.2)
  | .name "import" :: rest =>
    (imports (path fuel) false fuel rest).map fun p => (.load p.1, p.2)
  | .name "from" :: rest => importFrom fuel rest
  | .name "raise" :: rest => do
    if endsValues rest then return (.throw none none, rest)
    let (e, rest) ← choice fuel rest
    let (cause, rest) ← behind (isWord "from") fuel rest
    return (.throw (some e) cause, rest)
  | .name "assert" :: rest => do
    let (e, rest) ← choice fuel rest
    let (message, rest) ← behind (isSign ",") fuel rest
    return (.require e message, rest)
  | .name "del" :: rest => do
    let (e, rest) ← values fuel rest
    if e.isDeletable then return (.delete e, rest) else none
  | .name "global" :: rest => (names fuel rest).map fun p => (.share p.1, p.2)
  | .name "nonlocal" :: rest => (names fuel rest).map fun p => (.misplaced, p.2)
  | is => do
    let (e, rest) ← values fuel is
    afterValues fuel e rest

/-- Reads the statements of a line, with semicolons between them. One may follow the last one. -/
def clauses (fuel : Nat) (is : List Item) : Option (List Clause × List Item) :=
  match fuel with
  | 0 => none
  | fuel + 1 => do
    let (c, rest) ← clause fuel is
    match rest with
    | [] | [.sign ";"] => return ([c], [])
    | .line i :: rest | .sign ";" :: .line i :: rest => return ([c], .line i :: rest)
    | .sign ";" :: rest =>
      let (more, rest) ← clauses fuel rest
      return (c :: more, rest)
    | _ => none

end Bindery.Script.Grammar
