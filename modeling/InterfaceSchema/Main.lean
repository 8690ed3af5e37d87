import InterfaceSchema.Session

/-!
# The command line

Carries out a run on the real disk. Everything that is decided is decided by the run; here its requests
are handed to the system and the system's answers to the run.
-/

namespace InterfaceSchema

/-- A failure of the system as a failure of a run. -/
def FileError.ofSystem : IO.Error → FileError
  | .noFileOrDirectory .. => .notFound
  | .inappropriateType _ 20 _ => .notDirectory
  | .inappropriateType _ 21 _ => .isDirectory
  | .invalidArgument _ 36 _ => .nameTooLong
  | e => .other 5 (toString e)

/-- An action of the system, its failure as a value. -/
def attempt {α : Type} (action : IO α) : IO (Except FileError α) := do
  match ← action.toBaseIO with
  | .ok a => return .ok a
  | .error e => return .error (.ofSystem e)

/-- **A run carried out on the disk.** -/
def Session.perform : Session → IO UInt32
  | exit code => return UInt32.ofNat code
  | print text next => do
    IO.print text
    next.perform
  | warn text next => do
    IO.eprint text
    next.perform
  | read path next => do
    let content ← attempt (IO.FS.readBinFile path)
    (next (content.map (·.toList))).perform
  | write path text next => do
    let written ← attempt do
      IO.FS.writeFile path text
      return (← IO.FS.realPath path).toString
    (next written).perform

end InterfaceSchema

/-- Runs a command line. A usage error says how the program is used. -/
def main (arguments : List String) : IO UInt32 := do
  if (InterfaceSchema.CommandLine.command? arguments).isNone then
    IO.eprintln "usage: compile -i FILE [-o FILE] [--pretty] [--layout uri|listing] [--only PATTERN]"
    IO.eprintln "       inspect -i FILE"
  let directory ← IO.currentDir
  (InterfaceSchema.Session.ofArguments directory.toString arguments).perform
