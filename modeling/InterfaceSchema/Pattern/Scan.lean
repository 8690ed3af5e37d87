import InterfaceSchema.Text

/-!
# Scanning

Reading a pattern is a loop of steps, each of which looks at the characters that are left and takes some.
**A step that takes nothing is refused**, so a scan ends after at most as many steps as there are
characters, and no bound has to be guessed.

A flag makes a pattern ignore white space and comments, which run from a number sign to the end of the
line. Which flags are set changes in the middle of a pattern, so skipping is asked for where it applies.
-/

namespace InterfaceSchema.Pattern

/-- **What a step does**: go on in a new state, or finish, with the characters that are left. -/
inductive Step (σ β : Type) where
  | more (state : σ) (rest : List Char)
  | done (result : β) (rest : List Char)

/-- **Steps until one finishes.** A step may refuse, and one that takes nothing is refused. -/
def scan {σ β : Type} (step : σ → List Char → Option (Step σ β)) (state : σ) (chars : List Char) :
    Option (β × List Char) :=
  match step state chars with
  | none => none
  | some (.done result rest) => some (result, rest)
  | some (.more state rest) =>
    if rest.length < chars.length then scan step state rest else none
  termination_by chars.length

/-- **The flags of a pattern**, as they stand at some place in it. -/
structure Flags where
  ignoreCase : Bool := false
  multiLine : Bool := false
  /-- The dot takes line feeds, too. -/
  dotAll : Bool := false
  /-- Carriage returns end lines, too. -/
  crlf : Bool := false
  /-- Classes are classes of Unicode characters and not of ASCII ones. -/
  unicode : Bool := true
  /-- White space and comments mean nothing. -/
  ignoreSpace : Bool := false

/-- The characters after white space and comments. -/
def dropIgnored : (inComment : Bool) → List Char → List Char
  | _, [] => []
  | true, c :: rest => dropIgnored (c != '\n') rest
  | false, c :: rest =>
    if isWhiteSpace c then dropIgnored false rest
    else if c = '#' then dropIgnored true rest
    else c :: rest

/-- The characters after what is ignored at this place. -/
def Flags.skip (f : Flags) (chars : List Char) : List Char :=
  if f.ignoreSpace then dropIgnored false chars else chars

/-- The characters after what is ignored at this place, of which there must be some. -/
def Flags.skipSome? (f : Flags) (chars : List Char) : Option (List Char) :=
  match f.skip chars with
  | [] => none
  | rest => some rest

/-- The value of a hexadecimal digit. -/
def hexValue? (c : Char) : Option Nat :=
  if '0' ≤ c ∧ c ≤ '9' then some (c.toNat - '0'.toNat)
  else if 'a' ≤ c ∧ c ≤ 'f' then some (c.toNat - 'a'.toNat + 10)
  else if 'A' ≤ c ∧ c ≤ 'F' then some (c.toNat - 'A'.toNat + 10)
  else none

/-- The character of a code, if the code is that of one. -/
def charOfCode? (code : Nat) : Option Char :=
  if code.isValidChar then some (Char.ofNat code) else none

end InterfaceSchema.Pattern
