import Bindery.Association
import Bindery.Text.Encoding

/-!
# Files

Paths are separated by slashes and in their shortest spelling: empty and `.` segments are dropped,
`..` is kept. A path is followed part by part, so what comes before a part has to be a directory
that is there, also before a `..`.

* `FilePath.parse`, `FilePath.text`: reading and spelling.
* `FilePath.join`: a path seen from another one; an absolute path stands for itself.
* `FilePath.resolve`: the absolute path without `..`.
* `FileError`: why a file cannot be read or written.
* `FileAccess`: what a run needs of a file system, in any monad.
* `FileTree`: a file system that is only a value, with `FileTree.access`.
-/

namespace Bindery

/-! ## Paths -/

/-- A path. The root is empty for relative paths; exactly two leading slashes are a root of
their own. -/
structure FilePath where
  root : String := ""
  parts : List String := []
deriving DecidableEq, Repr

namespace FilePath

/-- Number of slashes at the start of a text. -/
def leadingSlashes (s : String) : Nat := (s.toList.takeWhile (· = '/')).length

/-- The path that a text spells. -/
def parse (s : String) : FilePath :=
  { root := match leadingSlashes s with
      | 0 => ""
      | 2 => "//"
      | _ => "/"
    parts := (s.splitOn "/").filter fun part => !part.isEmpty && part != "." }

/-- The spelling of a path. -/
def text (p : FilePath) : String :=
  if p.root.isEmpty && p.parts.isEmpty then "." else p.root ++ "/".intercalate p.parts

/-- Whether a path starts at a root. -/
def isAbsolute (p : FilePath) : Bool := !p.root.isEmpty

/-- The path `q` seen from `p`. -/
def join (p q : FilePath) : FilePath :=
  if q.isAbsolute then q else { p with parts := p.parts ++ q.parts }

/-- The path without its last segment. -/
def parent (p : FilePath) : FilePath := { p with parts := p.parts.dropLast }

/-- Segments with each `..` applied to the segment before it. -/
def collapse (parts : List String) : List String :=
  (parts.foldl (fun acc part => if part = ".." then acc.drop 1 else part :: acc) []).reverse

/-- The absolute path without `..`, seen from the working directory. -/
def resolve (p cwd : FilePath) : FilePath :=
  ⟨"/", collapse (cwd.join p).parts⟩

end FilePath

/-! ## File systems -/

/-- Why a file cannot be read or written. -/
inductive FileError where
  | missing
  /-- A directory cannot be made, since there is a file of its name. -/
  | alreadyThere
  /-- A path leads through a file. -/
  | notDirectory
  /-- A directory is in the place of a file. -/
  | isDirectory
  /-- No file can have such a name. -/
  | badName
  /-- There are no bytes for some of a path or of a text to be written. -/
  | unencodable
  /-- More directories than can be made at a time are missing. -/
  | tooDeep
  /-- The file system refuses for a reason of its own. -/
  | refused
deriving DecidableEq, Repr

/-- Access to a file system. -/
structure FileAccess (m : Type → Type) where
  /-- The text of a file. -/
  read : FilePath → m (Except FileError String)
  /-- Writes a file, with the directories on the way to it. -/
  write : FilePath → String → m (Except FileError Unit)
  /-- Number of bytes of a file, none if there is no such file. -/
  size : FilePath → m (Option Nat)
  /-- The working directory. -/
  workingDirectory : m FilePath

/-- A file with its text, or a directory. -/
inductive FileNode where
  | file (text : String)
  | directory
deriving DecidableEq, Repr

/-- Files and directories by the parts of their absolute paths. -/
structure FileTree where
  workingDirectory : FilePath
  nodes : Assoc (List String) FileNode

namespace FileTree

/-- The most bytes that the name of a file may have. -/
def maxName : Nat := 255

/-- The most bytes that a path may have. -/
def maxPath : Nat := 4095

/-- The most directories that can be made at a time. -/
def maxLevels : Nat := 988

/-- What is at a place. The place without parts is the root of all. -/
def node? (t : FileTree) (place : List String) : Option FileNode :=
  if place.isEmpty then some .directory else t.nodes.get? place

/-- The place that a part of a path leads to from a place. A name is known by its bytes. -/
def step (place : List String) (part : String) : Except FileError (List String) :=
  let bytes := (Text.nameBytes? part).getD []
  if part = ".." then .ok place.dropLast
  else if maxName < bytes.length then .error .refused
  else .ok (place ++ [Text.ofPoints (Text.decodeName bytes)])

/-- The place that a part leads to from a place, which has to be a directory. -/
def enter (t : FileTree) (place : List String) (part : String) :
    Except FileError (List String) :=
  match t.node? place with
  | some .directory => step place part
  | some (.file _) => .error .notDirectory
  | none => .error .missing

/-- The place that a path leads to. There need not be anything at it. -/
def locate (t : FileTree) (p : FilePath) : Except FileError (List String) :=
  match Text.nameBytes? p.text with
  | none => .error .unencodable
  | some bytes =>
    if bytes.contains 0 then .error .badName
    else if maxPath < bytes.length then .error .refused
    else (t.workingDirectory.join p).parts.foldlM t.enter []

/-- The text of a file. -/
def read (t : FileTree) (p : FilePath) : Except FileError String := do
  match t.node? (← t.locate p) with
  | some (.file text) => return text
  | some .directory => throw .isDirectory
  | none => throw .missing

/-- Whether a path leads to a directory. -/
def isDirectory (t : FileTree) (p : FilePath) : Bool :=
  match t.locate p with
  | .ok place => t.node? place = some .directory
  | .error _ => false

/-- The tree with a new directory. -/
def makeDirectory (t : FileTree) (p : FilePath) : Except FileError FileTree := do
  let place ← t.locate p
  if (t.node? place).isSome then throw .alreadyThere
  return { t with nodes := t.nodes.set place .directory }

/-- The tree with a directory, which may be there before. -/
def ensureDirectory (t : FileTree) (p : FilePath) : Except FileError FileTree :=
  match t.makeDirectory p with
  | .ok t => .ok t
  | .error e => if t.isDirectory p then .ok t else .error e

/-- The tree with a directory and up to so many on the way to it, given the parts of its path in
reverse. Directories on the way are only made if something is missing. -/
def makeDirectories (t : FileTree) (root : String) (levels : Nat) (parts : List String) :
    Except FileError FileTree :=
  match levels, parts with
  | _, [] => .ok t
  | 0, _ => .error .tooDeep
  | levels + 1, part :: before => do
    let p : FilePath := ⟨root, (part :: before).reverse⟩
    match t.makeDirectory p with
    | .error .missing => (← t.makeDirectories root levels before).ensureDirectory p
    | _ => t.ensureDirectory p

/-- The tree with a text in a file, whose directory has to be there. -/
def put (t : FileTree) (p : FilePath) (text : String) : Except FileError FileTree := do
  let place ← t.locate p
  if t.node? place = some .directory then throw .isDirectory
  if !Text.isPlain text then throw .unencodable
  return { t with nodes := t.nodes.set place (.file text) }

/-- The tree with a file written, with the directories on the way to it. -/
def write (t : FileTree) (p : FilePath) (text : String) : Except FileError FileTree := do
  (← t.makeDirectories p.root maxLevels p.parent.parts.reverse).put p text

/-- The tree without a file. -/
def remove (t : FileTree) (p : FilePath) : Except FileError FileTree := do
  let place ← t.locate p
  match t.node? place with
  | some (.file _) => return { t with nodes := t.nodes.erase place }
  | some .directory => throw .isDirectory
  | none => throw .missing

/-- Access to a tree as a state. -/
def access : FileAccess (StateM FileTree) where
  read p := do return (← get).read p
  write p text := do
    match (← get).write p text with
    | .ok t => set t; return .ok ()
    | .error e => return .error e
  size p := do return ((← get).read p).toOption.map Text.byteSize
  workingDirectory := do return (← get).workingDirectory

/-- The tree of some files, each with the directories above it, and the working directory. -/
def ofFiles (workingDirectory : FilePath) (files : List (FilePath × String)) : FileTree :=
  let above := fun (parts : List String) => (List.range parts.length).map parts.take
  let places := (workingDirectory.parts :: files.flatMap fun f => [f.1.parts.dropLast]).flatMap
    fun parts => above parts ++ [parts]
  let directories := (places.eraseDups.filter (!·.isEmpty)).map fun p => (p, FileNode.directory)
  { workingDirectory, nodes := directories ++ files.map fun f => (f.1.parts, .file f.2) }

/-- The files below the working directory, by the spelling of their paths seen from it. -/
def files (t : FileTree) : List (String × String) :=
  let base := t.workingDirectory.parts
  t.nodes.filterMap fun n => match n.2 with
    | .file text =>
      if base.isPrefixOf n.1 then some ("/".intercalate (n.1.drop base.length), text) else none
    | .directory => none

end FileTree
end Bindery
