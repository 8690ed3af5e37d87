/-!
# Paths

A path is a text of names between slashes. A leading slash makes it absolute, a trailing one demands a
directory, a doubled one says nothing, and so does the name `.`; the name `..` leads up.

`absolute` is the absolute form of a path, which is a matter of text alone: the working directory is put
in front of a relative path and what says nothing is dropped. **Nothing is looked up**, so `..` stays, since
what it leads to depends on the directory before it, and a trailing slash stays, since it is a demand.
Exactly two leading slashes stay, too; three or more are one.
-/

namespace InterfaceSchema.Path

/-- The texts between the slashes of a path. -/
def parts : List Char → List (List Char)
  | [] => [[]]
  | c :: rest =>
    if c = '/' then [] :: parts rest
    else
      match parts rest with
      | [] => [[c]]
      | part :: others => (c :: part) :: others

/-- **The names of a path**, in order, without those that say nothing. -/
def names (path : String) : List String :=
  (parts path.toList).filterMap fun part =>
    if part = [] ∨ part = ['.'] then none else some (String.ofList part)

/-- Whether a path starts at the root. -/
def isAbsolute (path : String) : Bool := path.toList.head? == some '/'

/-- Whether a path ends in a slash. -/
def endsInSlash (path : String) : Bool := path.toList.getLast? == some '/'

/-- A name put after a path. -/
def join (path name : String) : String :=
  if endsInSlash path then path ++ name else path ++ "/" ++ name

/-- Where the absolute form of a path starts. -/
def start (workingDirectory path : String) : String :=
  if !isAbsolute path then workingDirectory
  else
    match path.toList with
    | '/' :: '/' :: '/' :: _ => "/"
    | '/' :: '/' :: _ => "//"
    | _ => "/"

/-- **The absolute form of a path.** -/
def absolute (workingDirectory path : String) : String :=
  let joined := (names path).foldl join (start workingDirectory path)
  if endsInSlash path && !endsInSlash joined then joined ++ "/" else joined

end InterfaceSchema.Path
