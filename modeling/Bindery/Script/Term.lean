import Bindery.Script.Numeral

/-!
# Terms and clauses

What a script means by its items: terms, which have values, and clauses, which are run one after
the other. A block may tell that some names belong to the whole script. It has to do so before it
mentions them, and that can be told before it is run.

* `Term`: a term.
* `Clause`: a statement.
* `Term.isTarget`: whether a value can be assigned to a term.
* `Term.mentions`: the names that a term mentions.
* `Mentions`: what the statements of a block have said about names so far.
* `Mentions.afterAll?`: what they have said behind some more of them.
* `Mentions.sharedBy`: the names that a block shares.
-/

namespace Bindery.Script

/-- The kinds of collections that list their items. -/
inductive SequenceKind where
  | tuple | list | set
deriving DecidableEq, Repr

/-- How an argument of a call is passed. -/
inductive Passing where
  | inOrder
  | byName (name : String)
  /-- Each item of a collection is an argument. -/
  | spread
  /-- Each entry of a table is an argument with a name. -/
  | spreadNames
deriving DecidableEq, Repr

/-- A term. -/
inductive Term where
  | null
  | truth (b : Bool)
  | ellipsis
  | number (n : Numeral)
  | text (s : String)
  | bytes (s : String)
  /-- A text made of those of some terms, of which some are fields. -/
  | template (parts : List Term)
  /-- A value that is shown, perhaps converted before and with a format of its own. -/
  | field (value : Term) (conversion : Option Char) (format : List Term)
  | name (s : String)
  /-- Names a value. -/
  | bind (name : String) (value : Term)
  | sequence (kind : SequenceKind) (items : List Term)
  /-- The items of a collection in the place of the term. -/
  | starred (e : Term)
  | table (entries : List (Term × Term))
  /-- The entries of a table in the place of an entry of another one. -/
  | entries (e : Term)
  /-- What is made of the items of a collection one after the other. -/
  | each (kind : Option SequenceKind) (source : Term)
  | unary (sign : String) (e : Term)
  | binary (sign : String) (a b : Term)
  /-- The first value if it is false, otherwise the second one. -/
  | both (a b : Term)
  /-- The first value if it is true, otherwise the second one. -/
  | either (a b : Term)
  /-- Comparisons of each value with the next one. -/
  | compare (first : Term) (rest : List (String × Term))
  | choice (condition yes no : Term)
  | member (e : Term) (name : String)
  | item (e index : Term)
  /-- Positions from one up to another one, perhaps with a step. -/
  | slice (bounds : List Term)
  | call (f : Term) (args : List (Passing × Term))
  /-- A function without a name; its parameters may have values already. -/
  | lambda (defaults : List Term)
  /-- A term that has no meaning outside of a function. -/
  | misplaced

/-- How a loop goes on behind a statement. -/
inductive Flow where
  | on
  /-- The loop ends. -/
  | leave
  /-- The loop goes on with its next round. -/
  | again
deriving DecidableEq, Repr

/-- A statement. -/
inductive Clause where
  | pass
  | run (e : Term)
  | assign (targets : List Term) (value : Term)
  | update (target : Term) (sign : String) (value : Term)
  | declare (target kind : Term) (value : Option Term)
  | delete (target : Term)
  /-- Imports modules, perhaps under other names. -/
  | load (modules : List (String × Option String))
  /-- Imports members of a module, all of them if none is given. -/
  | loadFrom (module : String) (members : List (String × Option String))
  | throw (e cause : Option Term)
  | require (condition : Term) (message : Option Term)
  /-- Names that belong to the whole script. -/
  | share (names : List String)
  /-- A statement that has no meaning outside of a function. -/
  | answer
  /-- A statement that has no meaning outside of a loop. -/
  | jump (flow : Flow)
  | branch (condition : Term) (yes no : List Clause)
  /-- Runs statements as long as a condition holds, and others once it does not. -/
  | loop (condition : Term) (body rest : List Clause)
  /-- Runs statements for each item of a collection, and others when there are no more. -/
  | each (target source : Term) (body rest : List Clause)
  /-- Runs statements and handles their errors by the kinds of those. -/
  | attempt (body : List Clause) (handlers : List (Option Term × Option String × List Clause))
    (rest last : List Clause)
  /-- Runs statements while some values are in use, which may be assigned to targets. -/
  | using (values : List (Term × Option Term)) (body : List Clause)
  /-- Defines a function. Some terms are evaluated where it is defined. -/
  | function (name : String) (decorators terms : List Term) (body : List Clause)
  /-- Defines a class. -/
  | derive (name : String) (decorators : List Term) (bases : List (Passing × Term))
    (body : List Clause)
  /-- A statement that has no meaning anywhere. -/
  | misplaced

namespace Term

mutual

/-- Whether a value can be assigned to a term. -/
def isTarget : Term → Bool
  | name s => s ≠ "__debug__"
  | member _ s => s ≠ "__debug__"
  | item _ _ => true
  | sequence .set _ => false
  | sequence _ items => areTargets items
  | starred e => isTarget e
  | _ => false

/-- Whether values can be assigned to terms. -/
def areTargets : List Term → Bool
  | [] => true
  | e :: rest => isTarget e && areTargets rest

end

/-- Whether a term stands for one place that holds a value. -/
def isPlace : Term → Bool
  | name s => s ≠ "__debug__"
  | member _ s => s ≠ "__debug__"
  | item _ _ => true
  | _ => false

/-- Whether a term stands for the items of a collection. -/
def isStarred : Term → Bool
  | starred _ => true
  | _ => false

mutual

/-- Whether what a term deletes can be deleted. -/
def isDeletable : Term → Bool
  | sequence .set _ => false
  | sequence _ items => areDeletable items
  | e => e.isPlace

/-- Whether what terms delete can be deleted. -/
def areDeletable : List Term → Bool
  | [] => true
  | e :: rest => isDeletable e && areDeletable rest

end

end Term

/-! ## Shared names -/

/-- The names that a term mentions in the block where it stands. -/
def Term.mentions (fuel : Nat) (e : Term) : List String :=
  match fuel with
  | 0 => []
  | fuel + 1 =>
    match e with
    | .name s => [s]
    | .bind s value => s :: value.mentions fuel
    | .template es | .sequence _ es | .slice es | .lambda es => es.flatMap (mentions fuel)
    | .field value _ format => value.mentions fuel ++ format.flatMap (mentions fuel)
    | .starred e | .entries e | .each _ e | .unary _ e | .member e _ => e.mentions fuel
    | .table es => es.flatMap fun p => p.1.mentions fuel ++ p.2.mentions fuel
    | .binary _ a b | .both a b | .either a b | .item a b => a.mentions fuel ++ b.mentions fuel
    | .compare first rest => first.mentions fuel ++ rest.flatMap fun p => p.2.mentions fuel
    | .choice condition yes no => [condition, yes, no].flatMap (mentions fuel)
    | .call f args => f.mentions fuel ++ args.flatMap fun p => p.2.mentions fuel
    | _ => []

/-- What the statements of a block have said about names so far. -/
structure Mentions where
  /-- Whether the block is the whole script. -/
  isWhole : Bool := false
  /-- The names that have been mentioned. -/
  seen : List String := []
  /-- The names that have been told to belong to the whole script. -/
  shared : List String := []

namespace Mentions

/-- Behind some terms. -/
def use (fuel : Nat) (m : Mentions) (es : List Term) : Mentions :=
  { m with seen := es.flatMap (Term.mentions fuel) ++ m.seen }

/-- The statements of a handler of errors, with what it says about the errors. -/
def handler (h : Option Term × Option String × List Clause) : List Clause :=
  h.1.toList.map .run ++ h.2.1.toList.map (fun s => .run (.name s)) ++ h.2.2

mutual

/-- Behind one more statement, unless that shares a name that has been mentioned or gives a type to
one that is shared. What a function or a class holds is a block of its own. -/
def after? (fuel : Nat) (m : Mentions) (c : Clause) : Option Mentions :=
  match fuel with
  | 0 => some m
  | fuel + 1 =>
    match c with
    | .run e | .delete e => some (m.use fuel [e])
    | .assign targets value => some (m.use fuel (value :: targets))
    | .update target _ value => some (m.use fuel [target, value])
    | .declare target kind value =>
      match target with
      | .name s =>
        if m.shared.contains s && !m.isWhole then none
        else some (m.use fuel (target :: kind :: value.toList))
      | _ => some (m.use fuel (target :: kind :: value.toList))
    | .throw e cause => some (m.use fuel (e.toList ++ cause.toList))
    | .require condition message => some (m.use fuel (condition :: message.toList))
    | .share names =>
      if names.any m.seen.contains then none else some { m with shared := names ++ m.shared }
    | .branch condition yes no => afterAll? fuel (m.use fuel [condition]) (yes ++ no)
    | .loop condition body rest => afterAll? fuel (m.use fuel [condition]) (body ++ rest)
    | .each target source body rest => afterAll? fuel (m.use fuel [target, source]) (body ++ rest)
    | .attempt body handlers rest last =>
      afterAll? fuel m (body ++ rest ++ handlers.flatMap handler ++ last)
    | .using values body =>
      afterAll? fuel (m.use fuel (values.flatMap fun v => v.1 :: v.2.toList)) body
    | .function name decorators terms body => do
      discard (afterAll? fuel {} body)
      return m.use fuel (.name name :: terms ++ decorators)
    | .derive name decorators bases body => do
      discard (afterAll? fuel {} body)
      return m.use fuel (.name name :: bases.map (·.2) ++ decorators)
    | _ => some m

/-- Behind some more statements. -/
def afterAll? (fuel : Nat) (m : Mentions) (cs : List Clause) : Option Mentions :=
  match fuel, cs with
  | fuel + 1, c :: rest => do afterAll? fuel (← after? fuel m c) rest
  | _, _ => some m

end

/-- The names of a block that belong to the whole script. -/
def sharedBy (fuel : Nat) (cs : List Clause) : List String :=
  ((afterAll? fuel {} cs).map (·.shared)).getD []

end Mentions
end Bindery.Script
