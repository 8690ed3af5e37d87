import InterfaceSchema.Catalog.Compile
import InterfaceSchema.CommandLine
import InterfaceSchema.Diagnostic
import InterfaceSchema.Disk

/-!
# Runs

What a command does, step by step: a `Session` is a tree of requests to the world – print, warn, read a
file, write a file – that goes on according to the answers and ends with an exit code. `Session.runOn` carries
it out on a `Disk` and yields what was printed and what the disk holds afterwards; `Session.run` does so on a
`FileSystem`.

**Nothing is written unless everything before succeeded.** `compile` reads and compiles its input, warns of
each reference that leads nowhere, and only then prints the document or writes it; a failure at any point
is the last thing that the run says. `inspect` reads, compiles and warns alike and writes nothing.
-/

namespace InterfaceSchema

/-- **A program that talks to the world.** -/
inductive Session where
  /-- Ends with an exit code. -/
  | exit (code : Nat)
  /-- Puts text on the standard output. -/
  | print (text : String) (next : Session)
  /-- Puts text on the standard error. -/
  | warn (text : String) (next : Session)
  /-- Asks for the content of a file. -/
  | read (path : String) (next : Except FileError (List UInt8) → Session)
  /-- Writes a file and asks for its path in normal form. -/
  | write (path : String) (text : String) (next : Except FileError String → Session)

/-! ## Commands -/

namespace Session

/-- The end of a run that failed. -/
def fail (failure : Failure) : Session := warn ("Error: " ++ failure.diagnostic ++ "\n") (exit 1)

/-- A warning for each reference that leads nowhere. -/
def warnAnomalies (anomalies : List Anomaly) (next : Session) : Session :=
  anomalies.foldr (fun a rest => warn ("warning: " ++ a.text ++ "\n") rest) next

/-- **The catalog of the schema in a file.** The catalog records the path as it is given and in its
absolute form. -/
def fileCatalog (workingDirectory path : String) (content : Except FileError (List UInt8)) :
    Except Failure Catalog :=
  match content with
  | .error e => .error (.file e)
  | .ok bytes =>
    match compile (.ofList bytes) ⟨path, Path.absolute workingDirectory path⟩ with
    | .error e => .error (.schema e)
    | .ok catalog => .ok catalog

/-- **A file read and compiled, and the warnings given**, before anything else is done. -/
def withCatalog (workingDirectory path : String) (next : Catalog → Session) : Session :=
  read path fun content =>
    match fileCatalog workingDirectory path content with
    | .error failure => fail failure
    | .ok catalog => warnAnomalies catalog.anomalies (next catalog)

/-- **The run of `compile`.** -/
def ofCompile (workingDirectory : String) (o : CompileOptions) : Session :=
  withCatalog workingDirectory o.input fun catalog =>
    let text := catalog.render o.layout o.pretty o.keep
    match o.output with
    | none => print (text ++ "\n") (exit 0)
    | some path =>
      write path text fun
        | .error e => fail (.file e)
        | .ok written => print ("output file written: " ++ written ++ "\n") (exit 0)

/-! ## Summaries -/

/-- A member of an interface in a summary, its kind set to the right of twelve columns. -/
def slotLine (s : SlotDef) : String :=
  String.ofList (List.replicate (12 - s.kind.text.length) ' ') ++ s.kind.text ++ ": " ++ s.name ++ "\n"

/-- An interface in a summary, after an empty line. -/
def interfaceLines (i : InterfaceDef) : String :=
  "\ninterface " ++ i.name ++
    (match i.uuid with
      | none => ""
      | some uuid => " (" ++ uuid ++ ")") ++
    "\n" ++ String.join (i.slots.values.map slotLine)

/-- **A catalog in brief**: what is said about it as a whole, how much it defines, and its interfaces with
their members. -/
def summary (c : Catalog) : String :=
  "file:       " ++ c.info.filepath ++ "\n" ++
    "identifier: " ++ c.info.fileIdent ++ "\n" ++
    "extension:  " ++ c.info.fileExt ++ "\n" ++
    "root:       " ++ c.info.root.getD "-" ++ "\n" ++
    decimal c.enums.length ++ " enums, " ++ decimal c.tables.length ++ " tables, " ++
    decimal c.interfaces.length ++ " interfaces\n" ++
    String.join (c.interfaces.map interfaceLines)

/-- **The run of `inspect`.** -/
def ofInspect (workingDirectory path : String) : Session :=
  withCatalog workingDirectory path fun catalog => print (summary catalog) (exit 0)

/-- **The run of a command.** -/
def ofCommand (workingDirectory : String) : Command → Session
  | .compile options => ofCompile workingDirectory options
  | .inspect path => ofInspect workingDirectory path

/-- The exit code of a usage error. -/
def usageError : Nat := 2

/-- **The run of a command line.** A usage error touches nothing. -/
def ofArguments (workingDirectory : String) (arguments : List String) : Session :=
  match CommandLine.command? arguments with
  | none => exit usageError
  | some command => ofCommand workingDirectory command

end Session

/-! ## Carrying out a run -/

/-- **How a run ends**: its exit code, what it printed, and what the disk holds. -/
structure Outcome (State : Type) where
  code : Nat
  output : String
  errors : String
  files : State

namespace Session

/-- **A run carried out on a disk.** -/
def runOn (disk : Disk) : Session → disk.State → Outcome disk.State
  | exit code, files => ⟨code, "", "", files⟩
  | print text next, files =>
    let outcome := next.runOn disk files
    { outcome with output := text ++ outcome.output }
  | warn text next, files =>
    let outcome := next.runOn disk files
    { outcome with errors := text ++ outcome.errors }
  | read path next, files => (next (disk.read files path)).runOn disk files
  | write path text next, files =>
    match disk.write files path (Utf8.encode text) with
    | .error e => (next (.error e)).runOn disk files
    | .ok (files', written) => (next (.ok written)).runOn disk files'

/-- **A run carried out on files**, seen from a working directory. -/
def run (workingDirectory : Place) (session : Session) (files : FileSystem) : Outcome FileSystem :=
  session.runOn (FileSystem.disk workingDirectory) files

end Session

end InterfaceSchema
