import InterfaceSchema.Unicode.CaseFolding
import InterfaceSchema.Unicode.Properties
import InterfaceSchema.Unicode.Script

/-!
# Classes of characters

What a pattern can ask of one character: to be in a range, to have a property, or any combination of such
demands by union, intersection, difference and complement. A class is kept as it is written and answered
by evaluation (`CharClass.contains`), so that a complement is as cheap as what it complements and two
classes are equal when they are written alike.

**Ignoring case widens a class to whole orbits**: a character is in the widened class when some character
that folds to the same one is in the class.
-/

namespace InterfaceSchema.Pattern

open Unicode

/-- **A property of characters that patterns can name.** -/
inductive Property where
  /-- One of some general categories. -/
  | category (codes : List String)
  /-- A script. -/
  | script (code : String)
  | alphabetic
  | lowercase
  | uppercase
  | whiteSpace
  /-- Letters, marks, decimal digits, connectors and joiners. -/
  | word
  deriving DecidableEq

/-- Whether a character has a property. -/
def Property.holds : Property → Char → Bool
  | category codes, c => codes.contains (Unicode.category c)
  | script code, c => Unicode.script c == code
  | alphabetic, c => isAlphabetic c
  | lowercase, c => isLowercase c
  | uppercase, c => isUppercase c
  | whiteSpace, c => isWhiteSpace c
  | word, c => isWord c

/-- **A class of characters.** -/
inductive CharClass where
  | none
  | any
  /-- The characters from the first to the last, both included. -/
  | range (first last : Char)
  | property (p : Property)
  | union (a b : CharClass)
  | inter (a b : CharClass)
  | diff (a b : CharClass)
  | symmDiff (a b : CharClass)
  | compl (a : CharClass)
  /-- The class widened by what differs in case. -/
  | ignoreCase (a : CharClass)
  /-- The class widened by the ASCII letters that differ in case. -/
  | ignoreAsciiCase (a : CharClass)
  deriving DecidableEq

namespace CharClass

/-- **Whether a character is in a class.** -/
def contains : CharClass → Char → Bool
  | none, _ => false
  | any, _ => true
  | range first last, c => first ≤ c && c ≤ last
  | property p, c => p.holds c
  | union a b, c => a.contains c || b.contains c
  | inter a b, c => a.contains c && b.contains c
  | diff a b, c => a.contains c && !b.contains c
  | symmDiff a b, c => a.contains c != b.contains c
  | compl a, c => !a.contains c
  | ignoreCase a, c => (orbit c).any a.contains
  | ignoreAsciiCase a, c => (asciiOrbit c).any a.contains

/-- The class of one character. -/
def single (c : Char) : CharClass := range c c

/-- The union of some ranges. -/
def ofRanges (ranges : List (Char × Char)) : CharClass :=
  ranges.foldr (fun r rest => union (range r.1 r.2) rest) none

/-- A class or, under a condition, its complement. -/
def complIf (negated : Bool) (a : CharClass) : CharClass := if negated then compl a else a

/-- Decimal digits of all scripts. -/
def digit : CharClass := property (.category ["Nd"])

/-- The ASCII digits. -/
def asciiDigit : CharClass := range '0' '9'

/-- The ASCII white space. -/
def asciiSpace : CharClass := ofRanges [('\t', '\r'), (' ', ' ')]

/-- The ASCII characters of words. -/
def asciiWord : CharClass := ofRanges [('0', '9'), ('A', 'Z'), ('_', '_'), ('a', 'z')]

/-- **The classes that have a name between colons**, all within ASCII. -/
def named? : String → Option CharClass
  | "alnum" => some (ofRanges [('0', '9'), ('A', 'Z'), ('a', 'z')])
  | "alpha" => some (ofRanges [('A', 'Z'), ('a', 'z')])
  | "ascii" => some (range '\x00' '\x7f')
  | "blank" => some (ofRanges [('\t', '\t'), (' ', ' ')])
  | "cntrl" => some (ofRanges [('\x00', '\x1f'), ('\x7f', '\x7f')])
  | "digit" => some asciiDigit
  | "graph" => some (range '!' '~')
  | "lower" => some (range 'a' 'z')
  | "print" => some (range ' ' '~')
  | "punct" => some (ofRanges [('!', '/'), (':', '@'), ('[', '\x60'), ('\x7b', '~')])
  | "space" => some asciiSpace
  | "upper" => some (range 'A' 'Z')
  | "word" => some asciiWord
  | "xdigit" => some (ofRanges [('0', '9'), ('A', 'F'), ('a', 'f')])
  | _ => Option.none

/-- **How much room a class takes in a matcher**, in bytes: an estimate that tells small classes from
those of thousands of characters. -/
def weight : CharClass → Nat
  | none => 32
  | any => 1000
  | range first last =>
    if first = last then 32 * first.utf8Size else if last.toNat < 0x80 then 72 else 200
  | property .word => 48168
  | property .alphabetic => 45000
  | property .whiteSpace => 680
  | property (.category codes) => if codes = ["Nd"] then 4640 else 20000
  | property _ => 10000
  | union a b | inter a b | diff a b | symmDiff a b => a.weight + b.weight
  | compl a => a.weight + 1000
  | ignoreCase a => a.weight + 100
  | ignoreAsciiCase a => a.weight + 16

end CharClass

/-! ## Properties by name -/

/-- **A name as it is compared**: without spaces, hyphens and underscores, in lower case, and without a
leading `is`. -/
def plainName (name : String) : String :=
  let chars := name.toList
  let body : List Char :=
    match chars with
    | 'i' :: 's' :: rest | 'I' :: 's' :: rest | 'i' :: 'S' :: rest | 'I' :: 'S' :: rest => rest
    | _ => chars
  let plain : List Char :=
    (body.filter fun c => c.toNat < 0x80 && !" _-".toList.contains c).map Char.toLower
  if body.length < chars.length && plain == ['c'] then "isc" else String.ofList plain

/-- The general categories of a name, with the few names that are spelled differently. -/
def categoryClass? (plain : String) : Option CharClass :=
  if plain = "any" then some .any
  else if plain = "assigned" then some (.compl (.property (.category ["Cn"])))
  else if plain = "ascii" then some (.range '\x00' '\x7f')
  else
    let plain :=
      if plain = "cntrl" then "cc" else if plain = "combiningmark" then "m"
      else if plain = "digit" then "nd" else if plain = "punct" then "p" else plain
    (categoryNames.find? fun entry =>
      plainName entry.1 = plain || plainName entry.2.1 = plain).map fun entry =>
        .property (.category entry.2.2)

/-- The script of a name. -/
def scriptClass? (plain : String) : Option CharClass :=
  (scriptNames.find? fun entry =>
    plainName entry.1 = plain || plainName entry.2 = plain).map fun entry =>
      .property (.script entry.1)

/-- **The class of a property's name**: a property proper, a general category or a script. -/
def propertyClass? (name : String) : Option CharClass :=
  let plain := plainName name
  if plain = "alphabetic" ∨ plain = "alpha" then some (.property .alphabetic)
  else if plain = "lowercase" ∨ plain = "lower" then some (.property .lowercase)
  else if plain = "uppercase" ∨ plain = "upper" then some (.property .uppercase)
  else if plain = "whitespace" ∨ plain = "wspace" ∨ plain = "space" then
    some (.property .whiteSpace)
  else (categoryClass? plain).or (scriptClass? plain)

/-- **The class of a property's value**: a general category or a script, asked for by both names. -/
def propertyValueClass? (name value : String) : Option CharClass :=
  let property := plainName name
  if property = "generalcategory" ∨ property = "gc" then categoryClass? (plainName value)
  else if property = "script" ∨ property = "sc" then scriptClass? (plainName value)
  else none

end InterfaceSchema.Pattern
