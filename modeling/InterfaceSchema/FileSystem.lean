import InterfaceSchema.Bytes.Utf8
import InterfaceSchema.Path
import InterfaceSchema.Text

/-!
# Files

What a program can see of a disk: directories and files at places, a place being the list of names that
leads to it from the root. There are no links, so every place has one path in normal form.

**Reading and writing a whole file either succeeds or fails without effect.** A path is followed name by
name, and each name but the last must lead to a directory; `.` and `..` are names like others in this, so
a file followed by either is an error. A file is read or overwritten, a missing one is created if its
directory is there, and a directory is neither read nor written.
-/

namespace InterfaceSchema

/-- **Why a file cannot be read or written.** -/
inductive FileError where
  | notFound
  | notDirectory
  | isDirectory
  | nameTooLong
  /-- The path contains a character that no path can. -/
  | unusablePath
  /-- Any other failure, by its number and its description. -/
  | other (code : Nat) (description : String)
  deriving DecidableEq

namespace FileError

/-- The number of a failure, if it has one. -/
def code? : FileError → Option Nat
  | notFound => some 2
  | notDirectory => some 20
  | isDirectory => some 21
  | nameTooLong => some 36
  | unusablePath => none
  | other code _ => some code

/-- The failure in words. -/
def description : FileError → String
  | notFound => "No such file or directory"
  | notDirectory => "Not a directory"
  | isDirectory => "Is a directory"
  | nameTooLong => "File name too long"
  | unusablePath => "file name contained an unexpected NUL byte"
  | other _ description => description

/-- **The failure in words, with its number.** -/
def message (e : FileError) : String :=
  match e.code? with
  | some code => e.description ++ " (os error " ++ decimal code ++ ")"
  | none => e.description

end FileError

/-- **Where something is**: the names that lead to it from the root. -/
abbrev Place := List String

/-- **What is at a place.** -/
inductive Entry where
  | file (content : List UInt8)
  | directory
  deriving DecidableEq

/-- **Files and directories.** The root is a directory always. -/
structure FileSystem where
  entries : List (Place × Entry) := []
  deriving DecidableEq

namespace FileSystem

/-- **What is at a place**, if anything. -/
def entry? (fs : FileSystem) (place : Place) : Option Entry :=
  if place = [] then some .directory else fs.entries.lookup place

/-- A file put at a place, instead of what was there. -/
def put (fs : FileSystem) (place : Place) (content : List UInt8) : FileSystem where
  entries := (place, .file content) :: fs.entries.filter fun entry => entry.1 != place

/-- The directories that lead to a place, and at it, where nothing is yet. -/
def makeDirectories (fs : FileSystem) (place : Place) : FileSystem where
  entries := fs.entries ++
    ((List.range place.length).map fun i => place.take (i + 1)).filterMap fun directory =>
      if (fs.entry? directory).isNone then some (directory, .directory) else none

/-- A file put at a place, with the directories that lead to it. -/
def add (fs : FileSystem) (place : Place) (content : List UInt8) : FileSystem :=
  (fs.makeDirectories place.dropLast).put place content

/-! ## Following paths -/

/-- The longest name and the longest path, in bytes. -/
def longestName : Nat := 255

/-- The longest path, in bytes. -/
def longestPath : Nat := 4095

/-- **One step along a path**: from a place that must be a directory to the one a name leads to. -/
def step (fs : FileSystem) (place : Place) (name : String) : Except FileError Place :=
  match fs.entry? place with
  | none => .error .notFound
  | some (.file _) => .error .notDirectory
  | some .directory =>
    if name = "." then .ok place
    else if name = ".." then .ok place.dropLast
    else if longestName < name.utf8ByteSize then .error .nameTooLong
    else .ok (place ++ [name])

/-- The names of a path as they are followed, `.` among them. -/
def followedNames (path : String) : List String :=
  ((Path.parts path.toList).filter (· ≠ [])).map String.ofList

/-- Where a path starts: at the root, or at the working directory. -/
def origin (workingDirectory : Place) (path : String) : Place :=
  if Path.isAbsolute path then [] else workingDirectory

/-- What is wrong with the text of a path, if anything. -/
def pathError? (path : String) : Option FileError :=
  if path.toList.contains '\x00' then some .unusablePath
  else if path.isEmpty then some .notFound
  else if longestPath < path.utf8ByteSize then some .nameTooLong
  else none

/-- **The content of the file at a path.** -/
def read (fs : FileSystem) (workingDirectory : Place) (path : String) :
    Except FileError (List UInt8) :=
  match pathError? path with
  | some e => .error e
  | none => do
    let place ← (followedNames path).foldlM fs.step (origin workingDirectory path)
    match fs.entry? place with
    | none => .error .notFound
    | some .directory => .error .isDirectory
    | some (.file content) =>
      if Path.endsInSlash path then .error .notDirectory else .ok content

/-- **The place that writing to a path writes to.** The last name must not demand a directory. -/
def target (fs : FileSystem) (workingDirectory : Place) (path : String) : Except FileError Place :=
  match pathError? path with
  | some e => .error e
  | none =>
    let names := followedNames path
    match names.getLast? with
    | none => .error .isDirectory
    | some last => do
      let directory ← names.dropLast.foldlM fs.step (origin workingDirectory path)
      let place ← fs.step directory last
      if last = "." ∨ last = ".." ∨ Path.endsInSlash path ∨ fs.entry? place = some .directory then
        .error .isDirectory
      else .ok place

/-- **A file written at a path**: the files after that, and the place of the file. -/
def write (fs : FileSystem) (workingDirectory : Place) (path : String) (content : List UInt8) :
    Except FileError (FileSystem × Place) := do
  let place ← fs.target workingDirectory path
  return (fs.put place content, place)

/-- The path of a place. -/
def pathOf (place : Place) : String := "/" ++ "/".intercalate place

end FileSystem

end InterfaceSchema
