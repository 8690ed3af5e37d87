import InterfaceSchema.Pattern.ClassReader

/-!
# Reading patterns

A pattern is read from left to right in one pass. Groups that are open are kept on a stack with the
alternatives and the flags they interrupt, so that a closing parenthesis takes up again what stood before
the opening one. **Flags hold from where they are set to the end of the group they are set in**, across
alternatives.

What is refused: a repetition of nothing, a bound below the other, an unknown escape, flag or class, a
range that runs backwards, a group name that is no name or is used twice, parentheses and brackets without
their partners, looking around and referring back. So is a pattern that is nested deeper than 250 levels,
and one that would take more than ten megabytes in a matcher that spells out its repetitions, which is what
stops repetitions of repetitions (`Part.weight`).
-/

namespace InterfaceSchema.Pattern

/-- **A part of a pattern**, with what its limits are counted by. -/
structure Part where
  expr : Expr
  /-- How deep it is nested. -/
  depth : Nat := 0
  /-- How many bytes it takes when repetitions are spelled out: an estimate. -/
  weight : Nat := 32
  /-- Whether it is something that can be repeated; the setting of flags is not. -/
  repeatable : Bool := true

/-- Whether an expression can take a character. -/
def Expr.takes : Expr → Bool
  | empty => false
  | chars _ => true
  | assert _ => false
  | seq first second => first.takes || second.takes
  | alt left right => left.takes || right.takes
  | times body _ most => most != some 0 && body.takes

namespace Part

/-- Parts one after another. -/
def concat : List Part → Part
  | [] => ⟨.empty, 0, 32, true⟩
  | [part] => part
  | parts =>
    { expr := parts.foldr (fun part rest => part.expr.andThen rest) .empty
      depth := 1 + (parts.map (·.depth)).foldl max 0
      weight := parts.foldl (fun total part => total + part.weight) 0 }

/-- Parts of which one is chosen. -/
def alternatives : List Part → Part
  | [] => ⟨.empty, 0, 32, true⟩
  | [part] => part
  | part :: parts =>
    { expr := parts.foldl (fun left right => .alt left right.expr) part.expr
      depth := 1 + ((part :: parts).map (·.depth)).foldl max 0
      weight := (part :: parts).foldl (fun total part => total + part.weight + 4) 64 }

/-- A part that matches what one class does. -/
def ofClass (a : CharClass) (depth : Nat) : Part := ⟨.chars a, depth, a.weight, true⟩

/-- A part repeated. One that takes no characters is not spelled out more than once. -/
def times (part : Part) (least : Nat) (most : Option Nat) : Part where
  expr := .times part.expr least most
  depth := 1 + part.depth
  weight :=
    if !part.expr.takes then part.weight + 72
    else
      match most with
      | none => (max least 1) * part.weight + 72
      | some most => 32 + least * part.weight + (most - least) * (part.weight + 40)

/-- A part in parentheses. -/
def group (part : Part) (capturing : Bool) : Part :=
  { part with
    depth := 1 + part.depth
    weight := if capturing then part.weight + 64 else part.weight
    repeatable := true }

end Part

/-- **A group that is open**, with what it interrupts. -/
structure GroupFrame where
  parts : List Part
  branches : List Part
  flags : Flags
  capturing : Bool

/-- **The state of the reader**: the flags in force, the parts of the branch that is read and the branches
before it, last first, what is open, and the names of groups. -/
structure State where
  flags : Flags := {}
  parts : List Part := []
  branches : List Part := []
  stack : List GroupFrame := []
  names : List (List Char) := []

namespace State

/-- A part added to the branch. -/
def push (s : State) (part : Part) : State := { s with parts := part :: s.parts }

/-- All branches so far as one part. -/
def content (s : State) : Part :=
  let branch := Part.concat s.parts.reverse
  Part.alternatives (s.branches.reverse ++ [branch])

/-- A group opened. -/
def openGroup (s : State) (flags : Flags) (capturing : Bool) : State :=
  { s with
    flags := flags
    parts := []
    branches := []
    stack := ⟨s.parts, s.branches, s.flags, capturing⟩ :: s.stack }

/-- The innermost group closed, if one is open. -/
def closeGroup? (s : State) : Option State :=
  match s.stack with
  | [] => none
  | frame :: stack =>
    some { s with
      flags := frame.flags
      parts := s.content.group frame.capturing :: frame.parts
      branches := frame.branches
      stack := stack }

/-- The last part repeated, if there is one that can be. -/
def repeat? (s : State) (least : Nat) (most : Option Nat) : Option State :=
  match s.parts with
  | part :: parts =>
    if part.repeatable then some { s with parts := part.times least most :: parts } else none
  | [] => none

end State

/-! ## Repetitions -/

/-- A question mark after a repetition, which changes what is preferred and not what matches. -/
def dropLazy : List Char → List Char
  | '?' :: rest => rest
  | rest => rest

/-- The least number that is too large for a count. -/
def countLimit : Nat := 4294967296

/-- A number in decimal below `countLimit`, with white space around it. -/
def readNumber (f : Flags) (chars : List Char) : Option (Nat × List Char) := do
  let (digits, rest) ←
    scan
      (fun (digits : List Char) chars =>
        match chars with
        | c :: rest =>
          if '0' ≤ c ∧ c ≤ '9' then some (.more (c :: digits) (f.skip rest))
          else some (.done digits.reverse (c :: rest))
        | [] => some (.done digits.reverse []))
      [] (trimStart chars)
  let value := digits.foldl (fun n c => 10 * n + (c.toNat - '0'.toNat)) 0
  if digits.isEmpty || countLimit ≤ value then none else return (value, f.skip (trimStart rest))

/-- **A count in braces**, after the opening one: exactly, at least, or between. -/
def readCount (f : Flags) (chars : List Char) : Option ((Nat × Option Nat) × List Char) := do
  let chars ← f.skipSome? chars
  let (least, rest) ← readNumber f chars
  match rest with
  | '\x7d' :: rest => return ((least, some least), dropLazy (f.skip rest))
  | ',' :: rest =>
    match ← f.skipSome? rest with
    | '\x7d' :: rest => return ((least, none), dropLazy (f.skip rest))
    | rest =>
      let (most, rest) ← readNumber f rest
      match rest with
      | '\x7d' :: rest =>
        if least ≤ most then return ((least, some most), dropLazy (f.skip rest)) else none
      | _ => none
  | _ => none

/-! ## Groups -/

/-- A flag given a value. Greed is a flag, too, but changes nothing here. -/
def Flags.set? (f : Flags) (flag : Char) (value : Bool) : Option Flags :=
  match flag with
  | 'i' => some { f with ignoreCase := value }
  | 'm' => some { f with multiLine := value }
  | 's' => some { f with dotAll := value }
  | 'R' => some { f with crlf := value }
  | 'u' => some { f with unicode := value }
  | 'x' => some { f with ignoreSpace := value }
  | 'U' => some f
  | _ => none

/-- **The flags after a question mark**, each at most once; those after a hyphen, of which there may be
one, are unset. The result says whether a group follows, and a setting that sets nothing is refused. -/
def readFlags : (seen : List Char) → Flags → List Char → Option ((Flags × Bool) × List Char)
  | _, _, [] => none
  | seen, f, ':' :: rest => if seen.head? = some '-' then none else some ((f, true), rest)
  | seen, f, ')' :: rest =>
    if seen.isEmpty || seen.head? = some '-' then none else some ((f, false), rest)
  | seen, f, '-' :: rest => if seen.contains '-' then none else readFlags ('-' :: seen) f rest
  | seen, f, flag :: rest =>
    if seen.contains flag then none
    else
      match f.set? flag (!seen.contains '-') with
      | none => none
      | some f => readFlags (flag :: seen) f rest

/-- Whether a character can stand in the name of a group. -/
def isNameChar (first : Bool) (c : Char) : Bool :=
  c == '_' || Unicode.isAlphabetic c ||
    (!first && (c == '.' || c == '[' || c == ']' || Unicode.isNumeric c))

/-- **The name of a group**, up to the closing angle bracket, which must be new. -/
def readName (s : State) (chars : List Char) : Option (State × List Char) :=
  let name := chars.takeWhile (· != '>')
  match name, chars.dropWhile (· != '>') with
  | first :: others, '>' :: rest =>
    if isNameChar true first && others.all (isNameChar false) && !s.names.contains name then
      some ({ s with names := name :: s.names }, rest)
    else none
  | _, _ => none

/-- **What follows an opening parenthesis**: a group, with a name, with flags or plain, or a setting of
flags for the rest of the group around it. -/
def readGroup (s : State) (chars : List Char) : Option (State × List Char) :=
  match s.flags.skip chars with
  | '?' :: '=' :: _ | '?' :: '!' :: _ | '?' :: '<' :: '=' :: _ | '?' :: '<' :: '!' :: _ => none
  | '?' :: 'P' :: '<' :: rest | '?' :: '<' :: rest =>
    (readName s rest).map fun (s, rest) => (s.openGroup s.flags true, rest)
  | '?' :: rest =>
    (readFlags [] s.flags rest).map fun ((flags, isGroup), rest) =>
      if isGroup then (s.openGroup flags false, rest)
      else ({ s with flags := flags }.push ⟨.empty, 0, 0, false⟩, rest)
  | rest => some (s.openGroup s.flags true, rest)

/-! ## Single characters -/

/-- The part of one character that stands for itself. -/
def literalPart? (f : Flags) (c : Char) : Option Part :=
  (f.finish? false (.single c)).map (Part.ofClass · 0)

/-- The part of a dot: any character but those that end lines, or any at all. -/
def dotPart? (f : Flags) : Option Part :=
  if !f.unicode then none
  else
    let a : CharClass :=
      if f.dotAll then .any
      else if f.crlf then .compl (.union (.single '\n') (.single '\r'))
      else .compl (.single '\n')
    some (.ofClass a 0)

/-- The part of an assertion. -/
def assertPart (a : Assertion) : Part := ⟨.assert a, 0, 32, true⟩

/-- The assertion of a circumflex. -/
def Flags.start (f : Flags) : Assertion :=
  if !f.multiLine then .textStart else if f.crlf then .lineStartCrlf else .lineStart

/-- The assertion of a dollar sign. -/
def Flags.stop (f : Flags) : Assertion :=
  if !f.multiLine then .textEnd else if f.crlf then .lineEndCrlf else .lineEnd

/-- The part of an escape. -/
def atomPart? (f : Flags) : Atom → Option Part
  | .literal c => literalPart? f c
  | .assertion a => some (assertPart a)
  | .charClass a => some (.ofClass a 0)

/-! ## The pattern -/

/-- The deepest that a pattern may be nested. -/
def deepest : Nat := 250

/-- The heaviest that a pattern may be: ten megabytes. -/
def heaviest : Nat := 10 * 1024 * 1024

/-- **The limits of a pattern**, on nesting and on weight. -/
def Part.withinLimits (part : Part) : Bool := part.depth ≤ deepest && part.weight ≤ heaviest

/-- **One step through a pattern.** -/
def patternStep (s : State) (chars : List Char) : Option (Step State Expr) :=
  let more (part : Option (Part × List Char)) : Option (Step State Expr) :=
    part.map fun (part, rest) => .more (s.push part) rest
  let repeated (least : Nat) (most : Option Nat) (rest : List Char) : Option (Step State Expr) :=
    (s.repeat? least most).map fun s => .more s rest
  match s.flags.skip chars with
  | [] =>
    if s.stack.isEmpty && s.content.withinLimits then some (.done s.content.expr []) else none
  | '(' :: rest => (readGroup s rest).map fun (s, rest) => .more s rest
  | ')' :: rest => s.closeGroup?.map fun s => .more s rest
  | '|' :: rest =>
    some (.more { s with parts := [], branches := .concat s.parts.reverse :: s.branches } rest)
  | '[' :: rest =>
    more ((readClass s.flags ('[' :: rest)).map fun (a, rest) =>
      (Part.ofClass a.chars a.depth, rest))
  | '?' :: rest => repeated 0 (some 1) (dropLazy rest)
  | '*' :: rest => repeated 0 none (dropLazy rest)
  | '+' :: rest => repeated 1 none (dropLazy rest)
  | '\x7b' :: rest =>
    (readCount s.flags rest).bind fun ((least, most), rest) => repeated least most rest
  | '\\' :: rest =>
    (readEscape s.flags rest).bind fun (atom, rest) =>
      more ((atomPart? s.flags atom).map (·, rest))
  | '.' :: rest => more ((dotPart? s.flags).map (·, rest))
  | '^' :: rest => more (some (assertPart s.flags.start, rest))
  | '$' :: rest => more (some (assertPart s.flags.stop, rest))
  | c :: rest => more ((literalPart? s.flags c).map (·, rest))

/-- **The pattern that a text writes down**, if it writes one. -/
def Expr.ofText? (text : String) : Option Expr := (scan patternStep {} text.toList).map (·.1)

end InterfaceSchema.Pattern
