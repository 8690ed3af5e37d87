import InterfaceSchema.Pattern.Escape

/-!
# Reading bracketed classes

A class in brackets is a union of characters, ranges, escapes and further classes, or several unions under
the operators `&&`, `--` and `~~`, which bind alike and to the left. A circumflex after the opening bracket
negates the class. Hyphens stand for themselves at either end of a union, and so does a closing bracket
that comes first.

The reader keeps the classes that are still open on a stack, together with the left sides of operators
that still want their right sides, so nesting costs no recursion. It counts how deep a class is nested,
since a pattern must not be nested without limit.
-/

namespace InterfaceSchema.Pattern

/-- **A part of a class**, with how deep it is nested. -/
structure ClassPart where
  chars : CharClass
  depth : Nat := 0

/-- **An operator on classes.** -/
inductive ClassOp where
  | inter
  | diff
  | symmDiff

/-- The class of an operator and its sides. -/
def ClassOp.apply : ClassOp → CharClass → CharClass → CharClass
  | inter, a, b => .inter a b
  | diff, a, b => .diff a b
  | symmDiff, a, b => .symmDiff a b

/-- **What is still open**: a bracket, with the parts before it, or an operator, with its left side. -/
inductive ClassFrame where
  | bracket (before : List ClassPart) (negated : Bool)
  | operator (op : ClassOp) (left : ClassPart)

/-- **The state of the reader**: the parts of the union that is read, last first, and what is open. -/
structure ClassState where
  parts : List ClassPart := []
  stack : List ClassFrame := []

namespace ClassState

/-- A part added to the union. -/
def push (s : ClassState) (part : ClassPart) : ClassState := { s with parts := part :: s.parts }

/-- The union of the parts. -/
def union (s : ClassState) : ClassPart :=
  match s.parts with
  | [] => ⟨.none, 0⟩
  | [part] => part
  | parts =>
    ⟨parts.foldl (fun rest part => .union part.chars rest) .none,
      1 + (parts.map (·.depth)).foldl max 0⟩

/-- The union so far, joined with the operator that waits for it. Where case is ignored, both sides of an
operator are widened first. -/
def operand (f : Flags) (s : ClassState) : ClassPart × List ClassFrame :=
  let right := s.union
  let widen (a : CharClass) : CharClass :=
    if !f.ignoreCase then a else if f.unicode then .ignoreCase a else .ignoreAsciiCase a
  match s.stack with
  | .operator op left :: stack =>
    (⟨op.apply (widen left.chars) (widen right.chars), 1 + max left.depth right.depth⟩, stack)
  | stack => (right, stack)

/-- The union so far becomes the left side of an operator. -/
def startOperator (f : Flags) (s : ClassState) (op : ClassOp) : ClassState :=
  let (left, stack) := s.operand f
  ⟨[], .operator op left :: stack⟩

end ClassState

/-! ## Brackets -/

/-- The hyphens at the start of a class, which stand for themselves. -/
def readHyphens (f : Flags) (chars : List Char) : Option (List ClassPart × List Char) :=
  scan
    (fun (parts : List ClassPart) chars =>
      match chars with
      | '-' :: rest => (f.skipSome? rest).map fun rest => .more (⟨.single '-', 0⟩ :: parts) rest
      | rest => some (.done parts rest))
    [] chars

/-- **What follows an opening bracket**: perhaps a circumflex, then hyphens, then perhaps a closing
bracket that stands for itself. -/
def openBracket (f : Flags) (s : ClassState) (chars : List Char) :
    Option (Step ClassState ClassPart) := do
  let chars ← f.skipSome? chars
  let negated := chars.head? == some '^'
  let chars ← if negated then f.skipSome? (chars.drop 1) else some chars
  let (hyphens, chars) ← readHyphens f chars
  let stack := .bracket s.parts negated :: s.stack
  match hyphens, chars with
  | [], ']' :: rest => do
    let rest ← f.skipSome? rest
    return .more ⟨[⟨.single ']', 0⟩], stack⟩ rest
  | _, _ => return .more ⟨hyphens, stack⟩ chars

/-- **A closing bracket** ends the innermost class that is open. -/
def closeBracket (f : Flags) (s : ClassState) (rest : List Char) :
    Option (Step ClassState ClassPart) :=
  let (content, stack) := s.operand f
  match stack with
  | .bracket before negated :: stack => do
    let a ← f.finish? negated content.chars
    let part : ClassPart := ⟨a, 1 + content.depth⟩
    match stack with
    | [] => return .done part rest
    | _ => return .more ⟨part :: before, stack⟩ rest
  | _ => none

/-- **A class named between colons**, `[:name:]`, after its opening bracket. What does not have this form
or names no class is none, and is read as a class of its own. -/
def readNamedClass (f : Flags) : List Char → Option (Option CharClass × List Char)
  | ':' :: rest =>
    let negated := rest.head? == some '^'
    let rest := if negated then rest.drop 1 else rest
    match rest.dropWhile (· != ':') with
    | ':' :: ']' :: after =>
      (CharClass.named? (String.ofList (rest.takeWhile (· != ':')))).map fun a =>
        (f.finish? negated a, after)
    | _ => none
  | _ => none

/-! ## Characters and ranges -/

/-- One character or escape of a class. -/
def readClassAtom (f : Flags) : List Char → Option (Atom × List Char)
  | [] => none
  | '\\' :: rest => readEscape f rest
  | c :: rest => some (.literal c, rest)

/-- A character that may stand in a class, at this place. -/
def classChar? (f : Flags) : Atom → Option Char
  | .literal c => if !f.unicode && 0x80 ≤ c.toNat then none else some c
  | _ => none

/-- **A character, a range or an escape of a class.** A hyphen makes a range unless a closing bracket or
another hyphen follows it. -/
def readClassItem (f : Flags) (chars : List Char) : Option (CharClass × List Char) := do
  let (atom, rest) ← readClassAtom f chars
  let rest ← f.skipSome? rest
  let next := (f.skip (rest.drop 1)).head?
  if rest.head? != some '-' || next == some ']' || next == some '-' then
    match atom with
    | .charClass a => return (a, rest)
    | atom => do
      let c ← classChar? f atom
      return (.single c, rest)
  else
    let first ← classChar? f atom
    let rest ← f.skipSome? (rest.drop 1)
    let (atom, rest) ← readClassAtom f rest
    let last ← classChar? f atom
    if first ≤ last then return (.range first last, rest) else none

/-! ## The class -/

/-- **One step through a class.** -/
def classStep (f : Flags) (s : ClassState) (chars : List Char) :
    Option (Step ClassState ClassPart) :=
  match f.skip chars with
  | [] => none
  | '[' :: rest =>
    match if s.stack.isEmpty then none else readNamedClass f rest with
    | some (a, rest) => a.map fun a => .more (s.push ⟨a, 0⟩) rest
    | none => openBracket f s rest
  | ']' :: rest => closeBracket f s rest
  | '&' :: '&' :: rest => some (.more (s.startOperator f .inter) rest)
  | '-' :: '-' :: rest => some (.more (s.startOperator f .diff) rest)
  | '~' :: '~' :: rest => some (.more (s.startOperator f .symmDiff) rest)
  | rest => (readClassItem f rest).map fun (a, rest) => .more (s.push ⟨a, 0⟩) rest

/-- **A bracketed class**, from its opening bracket on. -/
def readClass (f : Flags) (chars : List Char) : Option (ClassPart × List Char) :=
  scan (classStep f) {} chars

end InterfaceSchema.Pattern
