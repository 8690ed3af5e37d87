import InterfaceSchema.Pattern.Expr
import InterfaceSchema.Pattern.Scan

/-!
# Escapes

What a backslash introduces: a character that would otherwise mean something, a control character, a
character by its code, a class, or an assertion. **Every other escape is refused**, letters and digits in
particular, which are reserved.

Where classes are ASCII classes, an escape must not reach beyond ASCII: the complement of a class does, a
property does, and so does a code of two digits from `80` on, which would be a byte and not a character.
-/

namespace InterfaceSchema.Pattern

/-- **One thing that can be matched**, inside a class or outside. -/
inductive Atom where
  | literal (c : Char)
  | assertion (a : Assertion)
  | charClass (a : CharClass)

/-- The class of the characters of words, at this place. -/
def Flags.words (f : Flags) : CharClass :=
  if f.unicode then .property .word else .asciiWord

/-- A class that is negated under a condition and widened first where case is ignored. Where classes are
ASCII classes, a negated one is refused. -/
def Flags.finish? (f : Flags) (negated : Bool) (a : CharClass) : Option CharClass :=
  let widened :=
    if !f.ignoreCase then a else if f.unicode then .ignoreCase a else .ignoreAsciiCase a
  if negated && !f.unicode then none else some (.complIf negated widened)

/-! ## Characters by code -/

/-- A character by its code. `byte` says that the code is one of two digits. -/
def codeAtom? (f : Flags) (byte : Bool) (code : Nat) : Option Atom :=
  if byte && !f.unicode && 0x80 ≤ code then none else (charOfCode? code).map .literal

/-- So many hexadecimal digits. -/
def readDigits (f : Flags) (byte : Bool) : (digits code : Nat) → List Char → Option (Atom × List Char)
  | 0, code, rest => (codeAtom? f byte code).map (·, rest)
  | _ + 1, _, [] => none
  | digits + 1, code, c :: rest =>
    match hexValue? c with
    | none => none
    | some digit => readDigits f byte digits (16 * code + digit) (f.skip rest)

/-- Hexadecimal digits up to a closing brace, at least one. -/
def readBracedDigits (f : Flags) (chars : List Char) : Option (Atom × List Char) :=
  scan
    (fun (code : Option Nat) chars =>
      match chars, code with
      | [], _ => none
      | '\x7d' :: _, none => none
      | '\x7d' :: rest, some code => (charOfCode? code).map fun c => .done (.literal c) (f.skip rest)
      | c :: rest, code =>
        (hexValue? c).map fun digit => .more (some (16 * code.getD 0 + digit)) (f.skip rest))
    none chars

/-- A character by its code, in a fixed number of digits or in braces. -/
def readCode (f : Flags) (digits : Nat) (chars : List Char) : Option (Atom × List Char) :=
  match f.skip chars with
  | '\x7b' :: rest => readBracedDigits f (f.skip rest)
  | rest => readDigits f (digits = 2) digits 0 rest

/-! ## Properties -/

/-- **The class that a property's text asks for**, and whether it asks for the complement. A property may
be asked for by its value alone, or by name and value. -/
def propertyQuery? (text : List Char) : Option (CharClass × Bool) :=
  let split (separator : Char) : Option (String × String) :=
    if text.contains separator then
      some (String.ofList (text.takeWhile (· != separator)),
        String.ofList ((text.dropWhile (· != separator)).drop 1))
    else none
  let rec unequal (name : List Char) : List Char → Option (String × String)
    | '!' :: '=' :: rest => some (String.ofList name.reverse, String.ofList rest)
    | c :: rest => unequal (c :: name) rest
    | [] => none
  match unequal [] text with
  | some (name, value) => (propertyValueClass? name value).map (·, true)
  | none =>
    match (split ':').or (split '=') with
    | some (name, value) => (propertyValueClass? name value).map (·, false)
    | none => (propertyClass? (String.ofList text)).map (·, false)

/-- The text of a property up to a closing brace. -/
def readBraced (f : Flags) (chars : List Char) : Option (List Char × List Char) :=
  scan
    (fun (text : List Char) chars =>
      match chars with
      | [] => none
      | '\x7d' :: rest => some (.done text.reverse rest)
      | c :: rest => some (.more (c :: text) (f.skip rest)))
    [] chars

/-- A property, by one letter or in braces. -/
def readProperty (f : Flags) (negated : Bool) (chars : List Char) : Option (Atom × List Char) := do
  let (text, rest) ←
    match f.skip chars with
    | [] => none
    | '\\' :: _ => none
    | '\x7b' :: rest => readBraced f (f.skip rest)
    | c :: rest => some ([c], f.skip rest)
  if !f.unicode then none
  else
    let (a, complement) ← propertyQuery? text
    let a ← f.finish? (negated != complement) a
    return (.charClass a, rest)

/-- A class of one letter: digits, white space or words, in a capital letter all others. -/
def shortClass? (f : Flags) (c : Char) : Option CharClass :=
  let a : CharClass :=
    if c.toLower = 'd' then if f.unicode then .digit else .asciiDigit
    else if c.toLower = 's' then if f.unicode then .property .whiteSpace else .asciiSpace
    else f.words
  if c.isUpper && !f.unicode then none else some (.complIf c.isUpper a)

/-! ## Boundaries of words -/

/-- A boundary of a word, or its half that a name in braces asks for. A brace that opens no name is left
to be a count. -/
def readBoundary (f : Flags) (chars : List Char) : Option (Atom × List Char) :=
  let plain : Option (Atom × List Char) := some (.assertion (.wordBoundary f.words), chars)
  let inName (c : Char) : Bool := c.isAlpha || c == '-'
  match chars with
  | '\x7b' :: rest => do
    let name ← f.skipSome? rest
    if !(name.head?.any inName) then plain
    else
      let (text, rest) ←
        scan
          (fun (text : List Char) chars =>
            match chars with
            | [] => none
            | '\x7d' :: rest => some (.done text.reverse rest)
            | c :: rest => if inName c then some (.more (c :: text) (f.skip rest)) else none)
          [] name
      match String.ofList text with
      | "start" => return (.assertion (.wordStart f.words), rest)
      | "end" => return (.assertion (.wordEnd f.words), rest)
      | "start-half" => return (.assertion (.wordStartHalf f.words), rest)
      | "end-half" => return (.assertion (.wordEndHalf f.words), rest)
      | _ => none
  | _ => plain

/-! ## All escapes -/

/-- **Characters that stand for themselves after a backslash**: all of ASCII but letters, digits and the
angle brackets. -/
def isEscapable (c : Char) : Bool := c.toNat < 0x80 && !c.isAlphanum && c != '<' && c != '>'

/-- **What follows a backslash.** -/
def readEscape (f : Flags) : List Char → Option (Atom × List Char)
  | [] => none
  | c :: rest =>
    if isEscapable c then some (.literal c, rest)
    else
      match c with
      | 'x' => readCode f 2 rest
      | 'u' => readCode f 4 rest
      | 'U' => readCode f 8 rest
      | 'p' => readProperty f false rest
      | 'P' => readProperty f true rest
      | 'd' | 's' | 'w' | 'D' | 'S' | 'W' => (shortClass? f c).map fun a => (.charClass a, rest)
      | 'a' => some (.literal '\x07', rest)
      | 'f' => some (.literal '\x0c', rest)
      | 't' => some (.literal '\t', rest)
      | 'n' => some (.literal '\n', rest)
      | 'r' => some (.literal '\r', rest)
      | 'v' => some (.literal '\x0b', rest)
      | 'A' => some (.assertion .textStart, rest)
      | 'z' => some (.assertion .textEnd, rest)
      | 'b' => readBoundary f rest
      | 'B' => some (.assertion (.noWordBoundary f.words), rest)
      | '<' => some (.assertion (.wordStart f.words), rest)
      | '>' => some (.assertion (.wordEnd f.words), rest)
      | _ => none

end InterfaceSchema.Pattern
