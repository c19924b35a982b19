/-!
# Expressions and statements of the bindings

The part of the target language that generated call bodies consist of, as trees. Text is only made
from them at the end, so what a body calls and assigns can be read off its tree.

* `Expr`, `Statement`: the trees; `Expr.text` and `Statement.lines` spell them.
* `Expr.callees`: the plain names that an expression calls.
-/

namespace Bindery.Script

/-- An expression. -/
inductive Expr where
  /-- A variable or function. -/
  | name (s : String)
  /-- A literal or a constant expression, given by its spelling. -/
  | literal (s : String)
  | call (f : Expr) (args : List Expr)
  | attr (e : Expr) (field : String)
  | item (e index : Expr)
  /-- The part of a sequence before a position. -/
  | upTo (e stop : Expr)
  /-- An argument passed by name. -/
  | keyword (field : String) (e : Expr)

namespace Expr

/-- An integer literal. -/
def int (n : Int) : Expr := literal (toString n)

/-- A text literal that needs no escapes. -/
def str (s : String) : Expr := literal ("\"" ++ s ++ "\"")

/-- A call of a function by its name. -/
def apply (f : String) (args : List Expr) : Expr := call (name f) args

/-- A call of a method. -/
def method (e : Expr) (m : String) (args : List Expr) : Expr := call (attr e m) args

mutual

/-- The spelling of an expression. -/
def text : Expr → String
  | name s => s
  | literal s => s
  | call f args => text f ++ "(" ++ ", ".intercalate (texts args) ++ ")"
  | attr e field => text e ++ "." ++ field
  | item e index => text e ++ "[" ++ text index ++ "]"
  | upTo e stop => text e ++ "[:" ++ text stop ++ "]"
  | keyword field e => field ++ "=" ++ text e

/-- The spellings of a list of expressions. -/
def texts : List Expr → List String
  | [] => []
  | e :: rest => text e :: texts rest

end

mutual

/-- The plain names that an expression calls. -/
def callees : Expr → List String
  | name _ => []
  | literal _ => []
  | call (name f) args => f :: calleesOf args
  | call f args => callees f ++ calleesOf args
  | attr e _ => callees e
  | item e index => callees e ++ callees index
  | upTo e stop => callees e ++ callees stop
  | keyword _ e => callees e

/-- The plain names that a list of expressions calls. -/
def calleesOf : List Expr → List String
  | [] => []
  | e :: rest => callees e ++ calleesOf rest

end

end Expr

/-- A statement of a call body. -/
inductive Statement where
  | assign (targets : List String) (value : Expr)
  | run (e : Expr)
  /-- Assigns a value to a variable that is still null. -/
  | fill (target : String) (value : Expr)

namespace Statement

/-- The lines of a statement. -/
def lines : Statement → List String
  | assign targets value => [", ".intercalate targets ++ " = " ++ value.text]
  | run e => [e.text]
  | fill target value => ["if " ++ target ++ " is None:", "    " ++ target ++ " = " ++ value.text]

/-- The plain names that a statement calls. -/
def callees : Statement → List String
  | assign _ value => value.callees
  | run e => e.callees
  | fill _ value => value.callees

end Statement

/-- The lines of statements. -/
def linesOf (body : List Statement) : List String := body.flatMap Statement.lines

/-- Lines one level deeper; empty lines stay empty. -/
def indent (lines : List String) : List String :=
  lines.map fun line => if line.isEmpty then line else "    " ++ line

end Bindery.Script
