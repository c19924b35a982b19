import Bindery.Script.Operation

/-!
# Calls of scripts

What comes of calling what a script knows. Only few functions are followed; of the others it is
told how many arguments they take, if that.

* `Call.apply`: what a call with some arguments answers.
* `Call.integer`: the integer that arguments stand for.
* `Derivation.check`: refuses what a class cannot be derived from.
-/

namespace Bindery.Script.Call

/-- Refuses a number of arguments outside of some bounds. -/
def checkCount (least most : Nat) (args : List Datum) : Except Fault Unit :=
  if least ≤ args.length && args.length ≤ most then .ok () else .error .wrongType

/-! ## Integers -/

/-- The integer that a datum converts to, if it is known. -/
def toInt (d : Datum) : Except Fault (Option Int) :=
  match d with
  | .plain v => do return some (← v.toInt)
  | d =>
    if ["bool", "int", "float", "str", "bytes", "object"].contains d.kindName then .ok none
    else .error .wrongType

/-- Whether a datum may be a numeral, which a base can be given for. -/
def isNumeral (d : Datum) : Bool := ["str", "bytes", "object"].contains d.kindName

/-- The integer that arguments stand for: a value that converts to it, or a numeral and its base. -/
def integer (args : List Datum) : Except Fault (Option Int) :=
  match args with
  | [] => .ok (some 0)
  | [d] => toInt d
  | [d, base] =>
    if !isNumeral d || !(base.isWhole || Operation.isOpen base) then .error .wrongType
    else .ok none
  | _ => .error .wrongType

/-! ## Kinds -/

/-- The kinds of collections whose values are made of the items of another one. -/
def gatherers : List String := ["list", "tuple", "set", "frozenset"]

/-- The kinds whose values take part in operations with those of other kinds. -/
def mixed : List String := ["bytearray", "frozenset", "memoryview", "object", "super"]

/-- The value of a kind that arguments in order make. -/
def make (k : String) (args : List Datum) : Except Fault Datum := do
  if k = "int" then
    return ((← integer args).map .int).getD (.ofKind "int")
  else if k = "str" then
    checkCount 0 3 args
    return match args with
      | [] => .text ""
      | [.plain (.text s)] => .text s
      | _ => .ofKind "str"
  else if k = "bool" then
    checkCount 0 1 args
    return Operation.truth ((args.head?.getD .null).isTrue?)
  else if k = "float" then
    checkCount 0 1 args
    if args.all fun d => ["bool", "int", "float", "str", "bytes", "object"].contains d.kindName then
      return .ofKind "float"
    else throw .wrongType
  else if gatherers.contains k then
    checkCount 0 1 args
    for d in args do discard d.parts
    return if k = "frozenset" then .unknown else .ofKind k
  else if k = "type" then
    match args with
    | [d] => return if Operation.isOpen d then .unknown else .kind d.kindName
    | [_, _, _] => return .unknown
    | _ => throw .wrongType
  else if k = "object" then
    checkCount 0 0 args
    return .unknown
  else if ErrorKind.all.contains k then return .ofKind k
  else if Builtin.kinds.contains k && !mixed.contains k then return .ofKind k
  else return .unknown

/-! ## Functions -/

/-- The functions that can be called without arguments. -/
def nullary : List String := [
  "breakpoint", "dir", "exit", "globals", "help", "input", "locals", "print", "quit", "vars"]

/-- The functions of one argument. -/
def unary : List String := [
  "abs", "aiter", "all", "any", "ascii", "bin", "callable", "chr", "hash", "hex", "id", "len",
  "oct", "ord", "repr"]

/-- The functions that take a collection first. -/
def onItems : List String := ["all", "any", "sorted", "sum", "enumerate"]

/-- The functions that take an integer first. -/
def onIntegers : List String := ["bin", "chr", "hex", "oct"]

/-- The kinds of values that functions answer. -/
def answers : List (String × String) := [
  ("ascii", "str"), ("bin", "str"), ("callable", "bool"), ("chr", "str"), ("dir", "list"),
  ("format", "str"), ("hash", "int"), ("hex", "str"), ("id", "int"), ("isinstance", "bool"),
  ("issubclass", "bool"), ("oct", "str"), ("ord", "int"), ("repr", "str"), ("sorted", "list")]

/-- The number of items of a datum. -/
def sizeOf (d : Datum) : Except Fault Datum :=
  match d.length? with
  | some n => .ok (.int n)
  | none =>
    if d.isUnknown || (Datum.collections.contains d.kindName) then .ok (.ofKind "int")
    else .error .wrongType

/-- What a function answers for arguments in order. -/
def call (f : String) (args : List Datum) : Except Fault Datum := do
  if !nullary.contains f then checkCount 1 (if unary.contains f then 1 else limit) args
  let first := args.head?.getD .unknown
  if onItems.contains f then discard first.parts
  if onIntegers.contains f && !first.isWhole && !Operation.isOpen first then throw .wrongType
  if f = "len" then return ← sizeOf first
  if f = "print" then return .null
  if f = "hash" then discard first.asKey
  if f = "abs" && first.rank?.isNone && !Operation.isOpen first then throw .wrongType
  if f = "ord" && !(["str", "bytes", "object"].contains first.kindName) then throw .wrongType
  return ((answers.find? fun a => a.1 = f).map fun a => Datum.ofKind a.2).getD .unknown
where
  /-- More arguments than any function has. -/
  limit : Nat := 1000000

/-! ## Methods -/

/-- The functions that belong to texts: the least and the greatest number of their arguments, and
the kind of value that they answer. -/
def textMethods : List (String × Nat × Nat × String) := [
  ("capitalize", 0, 0, "str"), ("casefold", 0, 0, "str"), ("center", 1, 2, "str"),
  ("count", 1, 3, "int"), ("encode", 0, 2, "bytes"), ("endswith", 1, 3, "bool"),
  ("expandtabs", 0, 1, "str"), ("find", 1, 3, "int"), ("format_map", 1, 1, "str"),
  ("index", 1, 3, "int"), ("isalnum", 0, 0, "bool"), ("isalpha", 0, 0, "bool"),
  ("isascii", 0, 0, "bool"), ("isdecimal", 0, 0, "bool"), ("isdigit", 0, 0, "bool"),
  ("isidentifier", 0, 0, "bool"), ("islower", 0, 0, "bool"), ("isnumeric", 0, 0, "bool"),
  ("isprintable", 0, 0, "bool"), ("isspace", 0, 0, "bool"), ("istitle", 0, 0, "bool"),
  ("isupper", 0, 0, "bool"), ("join", 1, 1, "str"), ("ljust", 1, 2, "str"), ("lower", 0, 0, "str"),
  ("lstrip", 0, 1, "str"), ("maketrans", 1, 3, "dict"), ("partition", 1, 1, "tuple"),
  ("removeprefix", 1, 1, "str"), ("removesuffix", 1, 1, "str"), ("replace", 2, 3, "str"),
  ("rfind", 1, 3, "int"), ("rindex", 1, 3, "int"), ("rjust", 1, 2, "str"),
  ("rpartition", 1, 1, "tuple"), ("rsplit", 0, 2, "list"), ("rstrip", 0, 1, "str"),
  ("split", 0, 2, "list"), ("splitlines", 0, 1, "list"), ("startswith", 1, 3, "bool"),
  ("strip", 0, 1, "str"), ("swapcase", 0, 0, "str"), ("title", 0, 0, "str"),
  ("translate", 1, 1, "str"), ("upper", 0, 0, "str"), ("zfill", 1, 1, "str")]

/-- What a function that belongs to a value of a kind answers. -/
def callMethod (k f : String) (args : List Datum) (isPlain : Bool) : Except Fault Datum := do
  if k ≠ "str" then return .unknown
  if f = "format" then return .ofKind "str"
  match textMethods.find? fun m => m.1 = f with
  | none => return .unknown
  | some (_, least, most, answer) =>
    if isPlain then checkCount least most args
    if f = "join" then
      for d in args do
        for item in (← d.parts).getD [] do
          if item.kindName ≠ "str" && !Operation.isOpen item then throw .wrongType
    return .ofKind answer

/-! ## Names of arguments -/

/-- The arguments that can be passed by name to what has such arguments at all. -/
def names : List (String × List String) := [
  ("str", ["object", "encoding", "errors"]), ("bytes", ["source", "encoding", "errors"]),
  ("bytearray", ["source", "encoding", "errors"]), ("int", ["base"]),
  ("complex", ["real", "imag"]), ("enumerate", ["iterable", "start"]), ("zip", ["strict"]),
  ("property", ["fget", "fset", "fdel", "doc"]), ("print", ["sep", "end", "file", "flush"]),
  ("sorted", ["key", "reverse"]), ("max", ["key", "default"]), ("min", ["key", "default"]),
  ("sum", ["start"]), ("round", ["number", "ndigits"]), ("pow", ["base", "exp", "mod"]),
  ("ImportError", ["name", "path"]), ("ModuleNotFoundError", ["name", "path"]),
  ("NameError", ["name"]), ("UnboundLocalError", ["name"]), ("AttributeError", ["name", "obj"]),
  ("encode", ["encoding", "errors"]), ("expandtabs", ["tabsize"]), ("split", ["sep", "maxsplit"]),
  ("rsplit", ["sep", "maxsplit"]), ("splitlines", ["keepends"])]

/-- What takes arguments by any name. -/
def nameless : List String := [
  "dict", "type", "format", "compile", "open", "__import__", "__build_class__", "exit", "quit",
  "breakpoint", "help", "classmethod", "staticmethod", "super"]

/-- Refuses an argument by a name that a callee does not know. -/
def checkName (callee : String) : Passing → Except Fault Unit
  | .byName s =>
    if nameless.contains callee then .ok ()
    else if (((names.find? fun n => n.1 = callee).map (·.2)).getD []).contains s then .ok ()
    else .error .wrongType
  | _ => .ok ()

/-! ## Calls -/

/-- The arguments that are passed in order, as far as they are known. -/
def inOrder (args : List (Passing × Datum)) : Except Fault (List Datum) :=
  args.foldlM
    (fun known a => do
      match a.1 with
      | .inOrder => return known ++ [a.2]
      | .spread => return known ++ ((← a.2.parts).getD [])
      | .spreadNames =>
        if a.2.kindName = "dict" || Operation.isOpen a.2 then return known else throw .wrongType
      | .byName _ => return known)
    []

/-- Whether all arguments are passed in order and known. -/
def arePlain (args : List (Passing × Datum)) : Bool :=
  args.all fun a => match a.1, a.2 with
    | .inOrder, _ | .spread, .sequence _ _ | .spread, .table _ | .spread, .plain _ => true
    | .spreadNames, .table [] => true
    | _, _ => false

/-- What a call with some arguments answers. -/
def apply (f : Datum) (args : List (Passing × Datum)) : Except Fault Datum := do
  let known ← inOrder args
  match f with
  | .unknown | .lambda => return .unknown
  | .kind k =>
    if arePlain args then return ← make k known
    if Builtin.kinds.contains k || ErrorKind.all.contains k then
      args.forM fun a => checkName k a.1
    return .unknown
  | .function s =>
    if arePlain args then return ← call s known
    args.forM fun a => checkName s a.1
    return if s = "print" then .null else .unknown
  | .method k s =>
    if k = "str" then args.forM fun a => checkName s a.1
    callMethod k s known (arePlain args)
  | .ofKind "staticmethod" => return .unknown
  | f => if Operation.isOpen f then return .unknown else throw .wrongType

end Bindery.Script.Call

namespace Bindery.Script.Derivation

/-! ## Derived classes -/

/-- The kinds that no class can derive from. -/
def finalKinds : List String := ["bool", "memoryview", "range", "slice"]

/-- The kinds of which no class can have two for bases. -/
def solidKinds : List String := [
  "bytearray", "bytes", "classmethod", "complex", "dict", "enumerate", "filter", "float",
  "frozenset", "int", "list", "map", "property", "reversed", "set", "staticmethod", "str", "super",
  "tuple", "type", "zip"]

/-- The name of a base that is a known kind, none if it is not known what it is. -/
def baseName? (d : Datum) : Except Fault (Option String) :=
  match d with
  | .kind k => if finalKinds.contains k then .error .wrongType else .ok (some k)
  | d => if Operation.isOpen d then .ok none else .error .wrongType

/-- Refuses what a class cannot be defined with besides its bases: only its own kind. -/
def checkOption (p : Passing × Datum) : Except Fault Unit :=
  match p with
  | (.byName "metaclass", .kind "type") => .ok ()
  | (.byName _, d) => if Operation.isOpen d then .ok () else .error .wrongType
  | _ => .ok ()

/-- Refuses bases that a class cannot have. -/
def check (bases : List (Passing × Datum)) : Except Fault Unit := do
  let names ← (← Call.inOrder bases).filterMapM baseName?
  if names.eraseDups.length ≠ names.length then throw .wrongType
  if 1 < (names.filter solidKinds.contains).length then throw .wrongType
  if names.contains "object" && names.getLast? ≠ some "object" then throw .wrongType
  bases.forM checkOption

end Bindery.Script.Derivation
