import Bindery.CommandLine

/-!
# The generator as a program

Runs the generator on the real file system.
-/

namespace Bindery

/-- Runs an operation on the real file system. -/
def attempt {α : Type} (operation : IO α) : IO (Except FileError α) := do
  try return .ok (← operation)
  catch
    | .noFileOrDirectory .. => return .error .missing
    | .alreadyExists .. => return .error .alreadyThere
    | .inappropriateType .. => return .error .notDirectory
    | _ => return .error .refused

/-- Runs an operation at a path of the real file system. -/
def atPath {α : Type} (p : FilePath) (operation : String → IO α) : IO (Except FileError α) :=
  match Text.plain? p.text with
  | none => return .error .unencodable
  | some path =>
    if path.contains '\x00' then return .error .badName else attempt (operation path)

/-- Access to the real file system. -/
def realFiles : FileAccess IO where
  read p := atPath p fun path => return Text.ofPlain (← IO.FS.readFile path)
  write p text := do
    match Text.plain? text with
    | none => return .error .unencodable
    | some text =>
      match ← atPath p.parent (IO.FS.createDirAll ·) with
      | .error e => return .error e
      | .ok () => atPath p (IO.FS.writeFile · text)
  size p := do return (← atPath p (IO.FS.readFile ·)).toOption.map (·.utf8ByteSize)
  workingDirectory := do
    return .parse (Text.ofPlain (← IO.currentDir).toString)

end Bindery

/-- Runs the generator with the arguments of the command line. -/
def main (argv : List String) : IO UInt32 := do
  let start ← IO.monoNanosNow
  let outcome ← Bindery.CommandLine.run Bindery.realFiles (argv.map Bindery.Text.ofPlain)
  let micros := ((← IO.monoNanosNow) - start) / 1000
  let hundredths := toString (micros % 1000 / 10)
  let elapsed := toString (micros / 1000) ++ "."
    ++ (if hundredths.length < 2 then "0" else "") ++ hundredths
  IO.print (outcome.output elapsed)
  IO.eprint ((Bindery.Text.plain? outcome.errorOutput).getD outcome.errorOutput)
  return outcome.exitCode
