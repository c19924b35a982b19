import Bindery.Fault
import Bindery.Script.Datum

/-!
# What every script knows

The names that mean something in every script, and the members of the kinds of values that scripts
spell. Errors are known by the names of their kinds, each of which but the first is derived from
another one.

* `ErrorKind.all`: the kinds of errors.
* `ErrorKind.isA`: whether a kind is derived from another one.
* `ErrorKind.ofFault`, `ErrorKind.fault`: the kind of a fault, and back.
* `Builtin.find?`: what a name means that no script has bound.
* `Builtin.member`: the member of a datum with a name.
* `Builtin.hasModule`: whether a script can import a module.
-/

namespace Bindery.Script.ErrorKind

/-! ## Errors -/

/-- The kind that all others are derived from. -/
def root : String := "BaseException"

/-- The kinds that are derived from a kind at once. -/
def derived : List (String × List String) := [
  (root, ["BaseExceptionGroup", "Exception", "GeneratorExit", "KeyboardInterrupt", "SystemExit"]),
  ("BaseExceptionGroup", ["ExceptionGroup"]),
  ("Exception", [
    "ArithmeticError", "AssertionError", "AttributeError", "BufferError", "EOFError",
    "ImportError", "LookupError", "MemoryError", "NameError", "OSError", "ReferenceError",
    "RuntimeError", "StopAsyncIteration", "StopIteration", "SyntaxError", "SystemError",
    "TypeError", "ValueError", "Warning"]),
  ("ArithmeticError", ["FloatingPointError", "OverflowError", "ZeroDivisionError"]),
  ("ImportError", ["ModuleNotFoundError"]),
  ("LookupError", ["IndexError", "KeyError"]),
  ("NameError", ["UnboundLocalError"]),
  ("OSError", [
    "BlockingIOError", "ChildProcessError", "ConnectionError", "FileExistsError",
    "FileNotFoundError", "InterruptedError", "IsADirectoryError", "NotADirectoryError",
    "PermissionError", "ProcessLookupError", "TimeoutError"]),
  ("ConnectionError", [
    "BrokenPipeError", "ConnectionAbortedError", "ConnectionRefusedError",
    "ConnectionResetError"]),
  ("RuntimeError", ["NotImplementedError", "RecursionError"]),
  ("SyntaxError", ["IndentationError"]),
  ("IndentationError", ["TabError"]),
  ("ValueError", ["UnicodeError"]),
  ("UnicodeError", ["UnicodeDecodeError", "UnicodeEncodeError", "UnicodeTranslateError"]),
  ("Warning", [
    "BytesWarning", "DeprecationWarning", "EncodingWarning", "FutureWarning", "ImportWarning",
    "PendingDeprecationWarning", "ResourceWarning", "RuntimeWarning", "SyntaxWarning",
    "UnicodeWarning", "UserWarning"])]

/-- The kinds of errors. -/
def all : List String := root :: derived.flatMap (·.2)

/-- Other names of kinds. -/
def aliases : List (String × String) := [("EnvironmentError", "OSError"), ("IOError", "OSError")]

/-- The kind that a kind is derived from at once. -/
def base? (kind : String) : Option String := (derived.find? fun e => e.2.contains kind).map (·.1)

/-- Whether a kind is another one or derived from it by so many steps. -/
def isWithin (steps : Nat) (kind other : String) : Bool :=
  kind = other || match steps with
    | 0 => false
    | steps + 1 => (base? kind).any fun base => isWithin steps base other

/-- Whether a kind is another one or derived from it. -/
def isA (kind other : String) : Bool := isWithin derived.length kind other

/-- The kind of a fault. -/
def ofFault : Fault → String
  | .raised kind => kind
  | .promise _ => "AssertionError"
  | .noSuchKey => "KeyError"
  | .noSuchIndex => "IndexError"
  | .noSuchMember => "AttributeError"
  | .noSuchEncoding => "LookupError"
  | .wrongType => "TypeError"
  | .malformed => "ValueError"
  | .outOfRange => "OverflowError"
  | .tooDeep => "RecursionError"
  | .tooLarge => "MemoryError"
  | .unencodable => "UnicodeEncodeError"
  | .badScript => "SyntaxError"
  | .badIndent => "IndentationError"
  | .badTabs => "TabError"
  | .unbound => "NameError"
  | .host _ | .badSlot | .badArgument | .unreadable _ | .user => "Exception"

/-- The fault of an error of a kind. -/
def fault (kind : String) : Fault := if kind = "AssertionError" then .promise "" else .raised kind

end Bindery.Script.ErrorKind

namespace Bindery.Script.Builtin

/-! ## Names -/

/-- The kinds of values that have names. -/
def kinds : List String := [
  "bool", "bytearray", "bytes", "classmethod", "complex", "dict", "enumerate", "filter", "float",
  "frozenset", "int", "list", "map", "memoryview", "object", "property", "range", "reversed", "set",
  "slice", "staticmethod", "str", "super", "tuple", "type", "zip"]

/-- The functions that have names. -/
def functions : List String := [
  "__build_class__", "__import__", "abs", "aiter", "all", "anext", "any", "ascii", "bin",
  "breakpoint", "callable", "chr", "compile", "delattr", "dir", "divmod", "eval", "exec", "exit",
  "format", "getattr", "globals", "hasattr", "hash", "help", "hex", "id", "input", "isinstance",
  "issubclass", "iter", "len", "locals", "max", "min", "next", "oct", "open", "ord", "pow",
  "print", "quit", "repr", "round", "setattr", "sorted", "sum", "vars"]

/-- What a name means that no script has bound. -/
def find? (s : String) : Option Datum :=
  if kinds.contains s || ErrorKind.all.contains s then some (.kind s)
  else if functions.contains s then some (.function s)
  else match ErrorKind.aliases.find? fun e => e.1 = s with
    | some e => some (.kind e.2)
    | none =>
      match s with
      | "Ellipsis" => some (.ofKind "ellipsis")
      | "NotImplemented" => some (.ofKind "NotImplementedType")
      | "__debug__" => some (.bool true)
      | "__name__" => some (.text "builtins")
      | "__package__" => some (.text "")
      | "__doc__" => some (.ofKind "str")
      | "__builtins__" | "__loader__" | "__spec__" => some .unknown
      | _ => none

/-! ## Members -/

/-- The members that the operators on collections are. -/
def collectionMembers : List String := ["__contains__", "__getitem__", "__iter__", "__len__"]

/-- The members that the operators on numbers are. -/
def numberMembers : List String := [
  "__abs__", "__add__", "__bool__", "__getnewargs__", "__mul__", "__neg__", "__pos__", "__pow__",
  "__radd__", "__rmul__", "__rpow__", "__rsub__", "__rtruediv__", "__sub__", "__truediv__",
  "conjugate", "imag", "real"]

/-- The members that the operators on numbers with an order are. -/
def realMembers : List String := [
  "__ceil__", "__divmod__", "__float__", "__floor__", "__floordiv__", "__int__", "__mod__",
  "__rdivmod__", "__rfloordiv__", "__rmod__", "__round__", "__trunc__", "as_integer_ratio"]

/-- The members of integers. -/
def wholeMembers : List String := numberMembers ++ realMembers ++ [
  "__and__", "__index__", "__invert__", "__lshift__", "__or__", "__rand__", "__rlshift__",
  "__ror__", "__rrshift__", "__rshift__", "__rxor__", "__xor__", "bit_count", "bit_length",
  "denominator", "from_bytes", "numerator", "to_bytes"]

/-- The members of texts and of byte strings. -/
def stringMembers : List String := collectionMembers ++ [
  "__add__", "__getnewargs__", "__mod__", "__mul__", "__rmod__", "__rmul__", "capitalize",
  "center", "count", "endswith", "expandtabs", "find", "index", "isalnum", "isalpha", "isascii",
  "isdigit", "islower", "isspace", "istitle", "isupper", "join", "ljust", "lower", "lstrip",
  "maketrans", "partition", "removeprefix", "removesuffix", "replace", "rfind", "rindex", "rjust",
  "rpartition", "rsplit", "rstrip", "split", "splitlines", "startswith", "strip", "swapcase",
  "title", "translate", "upper", "zfill"]

/-- The members of each kind of values besides those that everything has. -/
def members : List (String × List String) := [
  ("bool", wholeMembers),
  ("int", wholeMembers),
  ("float", numberMembers ++ realMembers ++ ["__getformat__", "fromhex", "hex", "is_integer"]),
  ("complex", numberMembers ++ ["__complex__"]),
  ("str", stringMembers ++ [
    "casefold", "encode", "format", "format_map", "isdecimal", "isidentifier", "isnumeric",
    "isprintable"]),
  ("bytes", stringMembers ++ ["__bytes__", "decode", "fromhex", "hex"]),
  ("tuple", collectionMembers ++ [
    "__add__", "__class_getitem__", "__getnewargs__", "__mul__", "__rmul__", "count", "index"]),
  ("list", collectionMembers ++ [
    "__add__", "__class_getitem__", "__delitem__", "__iadd__", "__imul__", "__mul__",
    "__reversed__", "__rmul__", "__setitem__", "append", "clear", "copy", "count", "extend",
    "index", "insert", "pop", "remove", "reverse", "sort"]),
  ("set", [
    "__and__", "__class_getitem__", "__contains__", "__iand__", "__ior__", "__isub__", "__iter__",
    "__ixor__", "__len__", "__or__", "__rand__", "__ror__", "__rsub__", "__rxor__", "__sub__",
    "__xor__", "add", "clear", "copy", "difference", "difference_update", "discard",
    "intersection", "intersection_update", "isdisjoint", "issubset", "issuperset", "pop", "remove",
    "symmetric_difference", "symmetric_difference_update", "union", "update"]),
  ("dict", collectionMembers ++ [
    "__class_getitem__", "__delitem__", "__ior__", "__or__", "__reversed__", "__ror__",
    "__setitem__", "clear", "copy", "fromkeys", "get", "items", "keys", "pop", "popitem",
    "setdefault", "update", "values"]),
  ("NoneType", ["__bool__"]),
  ("ellipsis", []),
  ("function", [
    "__annotations__", "__builtins__", "__call__", "__closure__", "__code__", "__defaults__",
    "__dict__", "__get__", "__globals__", "__kwdefaults__", "__module__", "__name__",
    "__qualname__"]),
  ("_SpecialForm", [
    "__call__", "__getattr__", "__getitem__", "__instancecheck__", "__module__",
    "__mro_entries__", "__name__", "__or__", "__qualname__", "__ror__", "__slots__",
    "__subclasscheck__", "_getitem", "_name"]),
  ("builtin_function_or_method", [
    "__call__", "__module__", "__name__", "__qualname__", "__self__", "__text_signature__"])]

/-- The members of the module of enums. -/
def enumMembers : List String := [
  "CONFORM", "CONTINUOUS", "DynamicClassAttribute", "EJECT", "Enum", "EnumCheck", "EnumMeta",
  "EnumType", "Flag", "FlagBoundary", "IntEnum", "IntFlag", "KEEP", "MappingProxyType",
  "NAMED_FLAGS", "ReprEnum", "STRICT", "StrEnum", "UNIQUE", "auto", "bin", "bltns", "global_enum",
  "global_enum_repr", "global_flag_repr", "global_str", "member", "nonmember",
  "pickle_by_enum_name", "pickle_by_global_name", "property", "reduce", "show_flag_values", "sys",
  "unique", "verify"]

/-- Members that are values of their own and no functions. -/
def values : List String := ["real", "imag", "numerator", "denominator"]

/-- Whether a name starts with an underscore. -/
def isHidden (s : String) : Bool := s.toList.head? = some '_'

/-- The member of a datum with a name. -/
def member (d : Datum) (s : String) : Except Fault Datum :=
  let found : Datum := if isHidden s then .unknown else .method d.kindName s
  match d with
  | .unknown => .ok .unknown
  | .module m =>
    if m ≠ "enum" || enumMembers.contains s || isHidden s then .ok .unknown
    else .error .noSuchMember
  | .kind k =>
    if commonMembers.contains s || classMembers.contains s
      || (((members.find? fun e => e.1 = k).map (·.2)).getD [s]).contains s then .ok .unknown
    else .error .noSuchMember
  | d =>
    match members.find? fun e => e.1 = d.kindName with
    | none => .ok .unknown
    | some (_, names) =>
      if commonMembers.contains s || names.contains s then
        .ok (if values.contains s then .ofKind (if d.isWhole then "int" else "float") else found)
      else .error .noSuchMember

/-! ## Modules -/

/-- Modules that scripts can import. -/
def modules : List String := [
  "__future__", "abc", "argparse", "array", "ast", "asyncio", "atexit", "base64", "binascii",
  "bisect", "builtins", "bz2", "calendar", "cmath", "cmd", "code", "codecs", "collections",
  "colorsys", "concurrent", "configparser", "contextlib", "contextvars", "copy", "copyreg", "csv",
  "ctypes", "dataclasses", "datetime", "decimal", "difflib", "dis", "doctest", "email",
  "encodings", "enum", "errno", "faulthandler", "fcntl", "filecmp", "fileinput", "fnmatch",
  "fractions", "ftplib", "functools", "gc", "getopt", "getpass", "gettext", "glob", "graphlib",
  "gzip", "hashlib", "heapq", "hmac", "html", "http", "imaplib", "importlib", "inspect", "io",
  "ipaddress", "itertools", "json", "keyword", "linecache", "locale", "logging", "lzma", "mailbox",
  "marshal", "math", "mimetypes", "mmap", "multiprocessing", "netrc", "numbers", "opcode",
  "operator", "optparse", "os", "pathlib", "pdb", "pickle", "pickletools", "pkgutil", "platform",
  "plistlib", "poplib", "posix", "posixpath", "pprint", "profile", "pstats", "pty", "pwd",
  "py_compile", "pyclbr", "pydoc", "queue", "quopri", "random", "re", "reprlib", "resource",
  "runpy", "sched", "secrets", "select", "selectors", "shelve", "shlex", "shutil", "signal",
  "site", "smtplib", "socket", "socketserver", "sqlite3", "ssl", "stat", "statistics", "string",
  "stringprep", "struct", "subprocess", "symtable", "sys", "sysconfig", "syslog", "tabnanny",
  "tarfile", "tempfile", "termios", "textwrap", "threading", "time", "timeit", "token", "tokenize",
  "tomllib", "trace", "traceback", "tracemalloc", "tty", "types", "typing", "uikagen",
  "unicodedata", "unittest", "urllib", "uuid", "venv", "warnings", "wave", "weakref", "webbrowser",
  "wsgiref", "xml", "xmlrpc", "zipapp", "zipfile", "zipimport", "zlib", "zoneinfo"]

/-- Modules that have modules within them. -/
def packages : List String := [
  "asyncio", "collections", "concurrent", "ctypes", "email", "encodings", "html", "http",
  "importlib", "json", "logging", "multiprocessing", "os", "sqlite3", "uikagen", "unittest",
  "urllib", "wsgiref", "xml", "xmlrpc", "zoneinfo"]

/-- Whether a script can import a module, which may be within another one. -/
def hasModule (path : String) : Bool :=
  match path.splitOn "." with
  | [m] => modules.contains m
  | m :: _ => packages.contains m
  | [] => false

end Bindery.Script.Builtin
