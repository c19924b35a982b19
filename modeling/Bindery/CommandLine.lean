import Bindery.Generator

/-!
# Command line

The arguments of the generator and what a run prints.

* `CommandArguments.parse`: the arguments; options may stand anywhere, long ones may be shortened
  to any unambiguous beginning, and short ones may be joined.
* `CommandLine.run`: a run with given arguments.
* `CommandLine.Outcome`: its result, with exit code and printed lines.
-/

namespace Bindery

/-- An option of the command line. -/
inductive CommandOption where
  | help | config | scripts | sources | strict | verbose | quiet
deriving DecidableEq, Repr

namespace CommandOption

/-- The spellings of the options. -/
def spellings : List (String × CommandOption) := [
  ("-h", help), ("--help", help), ("--config", config), ("-c", config), ("--py-out", scripts),
  ("--cpp-out", sources), ("--strict", strict), ("--verbose", verbose), ("-v", verbose),
  ("--quiet", quiet), ("-q", quiet)]

/-- The option with a spelling. -/
def ofSpelling? (s : String) : Option CommandOption := Assoc.get? s spellings

/-- Whether the option takes a value. -/
def takesValue : CommandOption → Bool
  | config | scripts | sources => true
  | _ => false

end CommandOption

/-- The arguments of a run. -/
structure CommandArguments where
  /-- The configuration given without an option. -/
  positional : Option String := none
  config : Option String := none
  scripts : String := ""
  sources : String := ""
  strict : Bool := false
deriving DecidableEq, Repr

namespace CommandArguments

/-- One argument as the parser sees it: an option with the text joined to it, an unknown option, a
value, or the `--` after which everything is a value. -/
inductive Token where
  | option (o : CommandOption) (short : Bool) (joined : Option String)
  | unknown
  | value (s : String)
  | separator

/-- The parts of a text before and after its first equals sign. -/
def splitAtEquals? (s : String) : Option (String × String) :=
  match s.toList.dropWhile (· ≠ '=') with
  | [] => none
  | _ :: rest => some (String.ofList (s.toList.takeWhile (· ≠ '=')), String.ofList rest)

/-- Whether a character is a decimal digit of any script. -/
def isDigit (c : Char) : Bool := (Text.decimalValue? c).isSome

/-- Whether a text has the form of a negative number, with a line end after it or without. -/
def isNegativeNumber (s : List Char) : Bool :=
  match s with
  | '-' :: rest =>
    let whole := rest.takeWhile isDigit
    match rest.drop whole.length with
    | [] | ['\n'] => !whole.isEmpty
    | '.' :: rest =>
      let fraction := rest.takeWhile isDigit
      !fraction.isEmpty && [[], ['\n']].contains (rest.drop fraction.length)
    | _ => false
  | _ => false

/-- The options that an abbreviation may stand for, each with the text joined to it. -/
def candidates (s : String) : List (CommandOption × Bool × Option String) :=
  if "--".toList.isPrefixOf s.toList then
    let (start, joined) := match splitAtEquals? s with
      | some (start, value) => (start, some value)
      | none => (s, none)
    (CommandOption.spellings.filter fun e => start.toList.isPrefixOf e.1.toList).map fun e =>
      (e.2, false, joined)
  else
    let short := String.ofList (s.toList.take 2)
    (CommandOption.spellings.filter fun e =>
      e.1 = short || s.toList.isPrefixOf e.1.toList).map fun e =>
        if e.1 = short then (e.2, true, some (String.ofList (s.toList.drop 2)))
        else (e.2, false, none)

/-- The token of an argument, none if an abbreviation is ambiguous. -/
def token? (s : String) : Option Token :=
  if s.toList.head? ≠ some '-' then some (.value s)
  else
    match CommandOption.ofSpelling? s with
    | some o => some (.option o (s.length = 2) none)
    | none =>
      if s = "-" then some (.value s)
      else
        let exact := (splitAtEquals? s).bind fun parts =>
          (CommandOption.ofSpelling? parts.1).map fun o =>
            Token.option o (parts.1.length = 2) (some parts.2)
        match exact, candidates s with
        | some t, _ => some t
        | none, _ :: _ :: _ => none
        | none, [(o, short, joined)] => some (.option o short joined)
        | none, [] =>
          if isNegativeNumber s.toList || s.toList.contains ' ' then some (.value s)
          else some .unknown

/-- Tokens of arguments; after the first `--` everything is a value. -/
def tokens? : List String → Option (List Token)
  | [] => some []
  | s :: rest =>
    if s = "--" then some (.separator :: rest.map .value)
    else do return (← token? s) :: (← tokens? rest)

/-- What an argument list asks for. -/
inductive Request where
  | run (args : CommandArguments)
  | help
  | refused
deriving DecidableEq, Repr

/-- The arguments with the value of an option. -/
def setValue (args : CommandArguments) (o : CommandOption) (value : String) : CommandArguments :=
  match o with
  | .config => { args with config := some value }
  | .scripts => { args with scripts := value }
  | .sources => { args with sources := value }
  | _ => args

/-- The arguments with a flag raised. -/
def setFlag (args : CommandArguments) (o : CommandOption) : CommandArguments :=
  if o = .strict then { args with strict := true } else args

/-- What one or more options joined in one argument ask for. -/
structure Joined where
  args : CommandArguments
  help : Bool := false
  /-- The option that still wants its value. -/
  wanting : Option CommandOption := none

/-- Raises a flag. -/
def Joined.flag (j : Joined) (o : CommandOption) : Joined :=
  { j with args := setFlag j.args o, help := j.help || o = .help }

/-- Gives an option the value that is joined to it; two dashes stand for an empty one. -/
def Joined.value (j : Joined) (o : CommandOption) (value : String) : Joined :=
  { j with args := setValue j.args o (if value = "--" then "" else value) }

/-- Reads what is joined to a short flag, none if some of it is no option. The first option that
takes a value takes the rest of the text, or the next argument if there is no rest. -/
def joinedShorts (j : Joined) : List Char → Option Joined
  | [] => some j
  | c :: rest =>
    match CommandOption.ofSpelling? (String.ofList ['-', c]) with
    | none => none
    | some o =>
      if !o.takesValue then joinedShorts (j.flag o) rest
      else if rest.isEmpty then some { j with wanting := some o }
      else some (j.value o (String.ofList rest))

/-- Reads an option with the text joined to it, none if it cannot take that text. -/
def readOption (args : CommandArguments) (o : CommandOption) (short : Bool)
    (joined : Option String) : Option Joined :=
  match o.takesValue, joined with
  | true, some value => some (Joined.value { args } o value)
  | true, none => some { args, wanting := some o }
  | false, none => some (Joined.flag { args } o)
  | false, some joined =>
    if !short || joined.isEmpty then none else joinedShorts (Joined.flag { args } o) joined.toList

/-- Reads tokens. `bad` tells whether something was found that is refused in the end, unless help is
asked for after it: an unknown option or a second value without an option. A separator belongs to
the value before or after it and is refused anywhere else. -/
def readTokens (args : CommandArguments) (bad : Bool) : List Token → Request
  | [] => if bad then .refused else .run args
  | .unknown :: rest => readTokens args true rest
  | .separator :: rest => readTokens args (bad || args.positional.isSome) rest
  | .value s :: .separator :: rest =>
    if args.positional.isSome then readTokens args true rest
    else readTokens { args with positional := some s } bad rest
  | .value s :: rest =>
    if args.positional.isSome then readTokens args true rest
    else readTokens { args with positional := some s } bad rest
  | .option o short joined :: rest =>
    match readOption args o short joined with
    | none => .refused
    | some { args, help, wanting := none } =>
      if help then .help else readTokens args bad rest
    | some { args, help, wanting := some o } =>
      match rest with
      | .value s :: rest => if help then .help else readTokens (setValue args o s) bad rest
      | _ => .refused

/-- An argument unless it is empty. -/
def given? (s : Option String) : Option String := s.filter (!·.isEmpty)

/-- What an argument list asks for. A configuration has to be given. -/
def parse (argv : List String) : Request :=
  match tokens? argv with
  | none => .refused
  | some tokens =>
    match readTokens {} false tokens with
    | .run args =>
      if (given? args.positional).isNone && (given? args.config).isNone then .refused
      else .run args
    | request => request

/-- The configuration to use; one given without an option comes first. -/
def configPath (args : CommandArguments) : String :=
  ((given? args.positional).or (given? args.config)).getD ""

/-- A path given as text; an empty text gives none. -/
def pathOption (s : String) : Option FilePath := if s.isEmpty then none else some (.parse s)

/-- What the arguments override. -/
def overrides (args : CommandArguments) : Overrides :=
  { scripts := pathOption args.scripts, sources := pathOption args.sources, strict := args.strict }

end CommandArguments

namespace CommandLine

/-- The result of a run. -/
inductive Outcome where
  | finished (summary : Summary)
  | failed (error : GeneratorError)
  | help
  | refused

/-- The exit code of a result. -/
def Outcome.exitCode : Outcome → UInt32
  | finished _ => 0
  | failed _ => 1
  | help => 0
  | refused => 2

/-- What a result prints; `elapsed` is the duration of the run in milliseconds. -/
def Outcome.output (elapsed : String) : Outcome → String
  | finished s =>
    "Generated: " ++ toString s.functions ++ " functions, " ++ toString s.skipped
      ++ " members skipped\nGeneration completed in " ++ elapsed ++ " ms\n"
  | _ => ""

/-- What a result prints as an error. -/
def Outcome.errorOutput : Outcome → String
  | failed e => "error: " ++ e.message ++ "\n"
  | _ => ""

/-- A run with given arguments. -/
def run {m : Type → Type} [Monad m] (fs : FileAccess m) (argv : List String) : m Outcome :=
  match CommandArguments.parse argv with
  | .refused => pure .refused
  | .help => pure .help
  | .run args => do
    match ← (Generator.generate fs (.parse args.configPath) args.overrides).run with
    | .ok summary => return .finished summary
    | .error e => return .failed e

end CommandLine
end Bindery
