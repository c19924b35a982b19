import Bindery.Filter
import Bindery.Text.Upper

/-!
# Function table

The flat table through which the bindings reach native functions.

* `Entry`: one slot of the table, with `Entry.constant`, the name of its index.
* `Context.funcTable`: the table, sorted by module, class and function and numbered densely.
* `Prepared.of`: the filtered context and its table for a schema under a configuration.
-/

namespace Bindery

/-- One slot of the function table. -/
structure Entry where
  id : Int
  module : String
  className : Label
  func : Function
  cppClass : Label
  header : Label
deriving DecidableEq

namespace Entry

/-- The name of the function after overloads were renamed. -/
def funcName (e : Entry) : Label := e.func.name

/-- The function's name in snake case. -/
def snakeName (e : Entry) : String := e.funcName.snakeCase

/-- What the table is sorted by. -/
def key (e : Entry) : List Label := [.text e.module, e.className, e.funcName]

/-- The constant for the slot's index. Double underscores keep the parts of its name apart. -/
def constant (e : Entry) : String :=
  "__".intercalate
    ([e.module, e.className.snakeCase, e.snakeName].map Text.upper)

/-- The class and function by which messages refer to the slot. -/
def label (e : Entry) : String := e.className.spoken ++ "." ++ e.funcName.spoken

end Entry

/-- Why a function that passed the filter gets no slot. -/
def tableSkip? (ctx : Context) (f : Function) : Option String :=
  if !f.params.all fun p => p.mapping.supported then some "unsupported parameter type"
  else if f.params.any fun p => p.kind.isContainer && (p.parts? (some ctx)).isNone then
    some "container parameter without element codec"
  else none

/-- The slots of the functions of a class, not numbered yet. Interfaces have none, since they are
not callable directly. -/
def classEntries (ctx : Context) (module : String) (c : ClassInfo) : List Entry :=
  if c.super = .text "Interface" then [] else
  (c.funcs.filter fun f => (tableSkip? ctx f).isNone).map fun func =>
    { id := 0, module, className := c.name, func, cppClass := c.cppName, header := c.header }

/-- The records of the functions of a class that get no slot. -/
def classTableSkips (ctx : Context) (c : ClassInfo) : List Skip :=
  if c.super = .text "Interface" then [] else skipsOf c.name (·.name) (tableSkip? ctx) c.funcs

namespace Context

/-- The function table. -/
def funcTable (ctx : Context) : List Entry :=
  (Label.sortOnList Entry.key (ctx.classesInOrder.flatMap fun c => classEntries ctx c.1 c.2)).mapIdx
    fun i e => { e with id := i }

/-- The records of the functions without a slot. -/
def tableSkips (ctx : Context) : List Skip :=
  ctx.classesInOrder.flatMap fun c => classTableSkips ctx c.2

end Context

/-- The constants that occur again, once for every repetition. -/
def duplicateConstants (table : List Entry) : List String :=
  let rec go (seen : List String) : List String → List String
    | [] => []
    | c :: rest => if seen.contains c then c :: go seen rest else go (c :: seen) rest
  go [] (table.map Entry.constant)

/-- A filtered context, its function table, and the records of what was left out so far. -/
structure Prepared where
  context : Context
  table : List Entry
  skips : List Skip

/-- Builds, filters and numbers. -/
def Prepared.of (schema : Schema) (config : Config) : Prepared :=
  let (context, skips) := (Context.build schema config).filtered config.blocklist
  { context, table := context.funcTable, skips := skips ++ context.tableSkips }

end Bindery
