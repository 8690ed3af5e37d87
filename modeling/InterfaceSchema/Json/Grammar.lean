import InterfaceSchema.Json.Basic
import Mathlib.Algebra.Group.Int.Defs

/-!
# What a JSON text says

The grammar of JSON, told apart from any program that reads or writes it. Each of its rules relates **an
input, what is read from its front, and what is left of it**; a text says a value when the whole text is
white space, the value and white space again (`Json.Denotes`).

The grammar is that of all JSON texts, with every escape and every way to write a number. Where a text has
several spellings for one thing, the rules say what they have in common: a string is its characters with the
escapes undone, a character beyond the basic plane may be written as a pair of units, and a number is what its
digits, fraction and exponent amount to. Since a `Json` holds whole numbers only, a text with another number
in it says none.
-/

namespace InterfaceSchema

namespace Json

/-! ## White space -/

/-- **White space between the tokens of a text.** -/
def isSpace (c : Char) : Bool := c == ' ' || c == '\t' || c == '\n' || c == '\r'

/-- Any amount of white space, none included. -/
inductive Space : List Char → List Char → Prop
  | none {rest : List Char} : Space rest rest
  | more {c : Char} {input rest : List Char} :
      isSpace c → Space input rest → Space (c :: input) rest

/-! ## Numbers -/

/-- Decimal digits, at least one. -/
inductive Digits : List Char → List Char → List Char → Prop
  | one {c : Char} {rest : List Char} : c.isDigit → Digits (c :: rest) [c] rest
  | more {c : Char} {input digits rest : List Char} :
      c.isDigit → Digits input digits rest → Digits (c :: input) (c :: digits) rest

/-- The minus sign of a number, or none. -/
inductive Sign : List Char → Bool → List Char → Prop
  | none {rest : List Char} : Sign rest false rest
  | minus {rest : List Char} : Sign ('-' :: rest) true rest

/-- The whole part of a number. It does not start with a zero unless it is that zero. -/
inductive Whole : List Char → List Char → List Char → Prop
  | zero {rest : List Char} : Whole ('0' :: rest) ['0'] rest
  | digits {c : Char} {input digits rest : List Char} :
      c ≠ '0' → Digits (c :: input) digits rest → Whole (c :: input) digits rest

/-- The digits of a number after the point, if there is one. -/
inductive Fraction : List Char → List Char → List Char → Prop
  | none {rest : List Char} : Fraction rest [] rest
  | digits {input digits rest : List Char} :
      Digits input digits rest → Fraction ('.' :: input) digits rest

/-- The exponent of a number, zero if there is none. -/
inductive Exponent : List Char → Int → List Char → Prop
  | none {rest : List Char} : Exponent rest 0 rest
  | bare {c : Char} {input digits rest : List Char} : c = 'e' ∨ c = 'E' →
      Digits input digits rest → Exponent (c :: input) (Nat.ofDigitChars 10 digits 0) rest
  | plus {c : Char} {input digits rest : List Char} : c = 'e' ∨ c = 'E' →
      Digits input digits rest → Exponent (c :: '+' :: input) (Nat.ofDigitChars 10 digits 0) rest
  | minus {c : Char} {input digits rest : List Char} : c = 'e' ∨ c = 'E' →
      Digits input digits rest → Exponent (c :: '-' :: input) (-Nat.ofDigitChars 10 digits 0) rest

/-- **The whole number that a numeral amounts to**, if it does: its digits without the point, as often
multiplied by ten as the exponent says, are the number as often multiplied by ten as there are digits after
the point, or as a negative exponent says. -/
def AmountsTo (negative : Bool) (whole fraction : List Char) (exponent value : Int) : Prop :=
  (if negative then -1 else 1) * Nat.ofDigitChars 10 (whole ++ fraction) 0 * 10 ^ exponent.toNat
    = value * 10 ^ (fraction.length + (-exponent).toNat)

/-- **A number.** -/
inductive Number : List Char → Int → List Char → Prop
  | intro {negative : Bool} {exponent value : Int}
      {input unsigned fractional exponential whole fraction rest : List Char} :
      Sign input negative unsigned → Whole unsigned whole fractional →
      Fraction fractional fraction exponential → Exponent exponential exponent rest →
      AmountsTo negative whole fraction exponent value → Number input value rest

/-! ## Strings -/

/-- The characters that have an escape of two characters, by its second. -/
def shortEscapes : List (Char × Char) :=
  [('"', '"'), ('\\', '\\'), ('/', '/'), ('b', '\x08'), ('f', '\x0c'), ('n', '\n'), ('r', '\r'),
    ('t', '\t')]

/-- A hexadecimal digit, in either case. -/
def IsHexDigit (c : Char) (value : Nat) : Prop := value < 16 ∧ c.toLower = value.digitChar

/-- A unit of sixteen bits, as four hexadecimal digits. -/
inductive CodeUnit : List Char → Nat → List Char → Prop
  | intro {c₁ c₂ c₃ c₄ : Char} {n₁ n₂ n₃ n₄ : Nat} {rest : List Char} :
      IsHexDigit c₁ n₁ → IsHexDigit c₂ n₂ → IsHexDigit c₃ n₃ → IsHexDigit c₄ n₄ →
      CodeUnit (c₁ :: c₂ :: c₃ :: c₄ :: rest) (4096 * n₁ + 256 * n₂ + 16 * n₃ + n₄) rest

/-- **One character of a string.** All stand for themselves but the quotation mark, the backslash and the
control characters, and each may be written as one unit of sixteen bits, or as a pair. -/
inductive Character : List Char → Char → List Char → Prop
  | plain {c : Char} {rest : List Char} :
      c ≠ '"' → c ≠ '\\' → 0x20 ≤ c.toNat → Character (c :: rest) c rest
  | short {mark c : Char} {rest : List Char} :
      (mark, c) ∈ shortEscapes → Character ('\\' :: mark :: rest) c rest
  | unit {c : Char} {input rest : List Char} :
      CodeUnit input c.toNat rest → Character ('\\' :: 'u' :: input) c rest
  | pair {c : Char} {input input' rest : List Char} {high low : Nat} :
      CodeUnit input (0xD800 + high) ('\\' :: 'u' :: input') → CodeUnit input' (0xDC00 + low) rest →
      high < 0x400 → low < 0x400 → c.toNat = 0x10000 + 0x400 * high + low →
      Character ('\\' :: 'u' :: input) c rest

/-- The characters of a string up to the closing quotation mark. -/
inductive Characters : List Char → List Char → List Char → Prop
  | close {rest : List Char} : Characters ('"' :: rest) [] rest
  | more {c : Char} {input input' chars rest : List Char} :
      Character input c input' → Characters input' chars rest → Characters input (c :: chars) rest

/-! ## Values -/

/-- The name of a member, up to the colon after it. -/
inductive Name : List Char → String → List Char → Prop
  | intro {chars input quoted colon rest : List Char} :
      Space input ('"' :: quoted) → Characters quoted chars colon → Space colon (':' :: rest) →
      Name input (String.ofList chars) rest

mutual

/-- **A value.** -/
inductive Value : List Char → Json → List Char → Prop
  | null {rest : List Char} : Value ('n' :: 'u' :: 'l' :: 'l' :: rest) null rest
  | true {rest : List Char} : Value ('t' :: 'r' :: 'u' :: 'e' :: rest) (bool .true) rest
  | false {rest : List Char} : Value ('f' :: 'a' :: 'l' :: 's' :: 'e' :: rest) (bool .false) rest
  | number {value : Int} {input rest : List Char} :
      Number input value rest → Value input (number value) rest
  | string {chars input rest : List Char} :
      Characters input chars rest → Value ('"' :: input) (string (String.ofList chars)) rest
  | emptyArray {input rest : List Char} :
      Space input (']' :: rest) → Value ('[' :: input) (array []) rest
  | array {items : List Json} {input rest : List Char} :
      Elements input items rest → Value ('[' :: input) (array items) rest
  | emptyObject {input rest : List Char} :
      Space input ('\x7d' :: rest) → Value ('\x7b' :: input) (object []) rest
  | object {members : List (String × Json)} {input rest : List Char} :
      Members input members rest → Value ('\x7b' :: input) (object members) rest

/-- A value with white space around it. -/
inductive Element : List Char → Json → List Char → Prop
  | intro {value : Json} {input start after rest : List Char} :
      Space input start → Value start value after → Space after rest → Element input value rest

/-- The elements of an array, at least one, up to the closing bracket. -/
inductive Elements : List Char → List Json → List Char → Prop
  | last {item : Json} {input rest : List Char} :
      Element input item (']' :: rest) → Elements input [item] rest
  | more {item : Json} {items : List Json} {input next rest : List Char} :
      Element input item (',' :: next) → Elements next items rest →
      Elements input (item :: items) rest

/-- A member of an object. -/
inductive Member : List Char → String × Json → List Char → Prop
  | intro {name : String} {value : Json} {input named rest : List Char} :
      Name input name named → Element named value rest → Member input (name, value) rest

/-- The members of an object, at least one, up to the closing brace. -/
inductive Members : List Char → List (String × Json) → List Char → Prop
  | last {member : String × Json} {input rest : List Char} :
      Member input member ('\x7d' :: rest) → Members input [member] rest
  | more {member : String × Json} {members : List (String × Json)} {input next rest : List Char} :
      Member input member (',' :: next) → Members next members rest →
      Members input (member :: members) rest

end

/-- **A text says a value**, if it is one element from its first character to its last. -/
def Denotes (text : String) (value : Json) : Prop := Element text.toList value []

/-- **No object in a value has two members of one name.** The grammar allows it. -/
inductive NamesDiffer : Json → Prop
  | null : NamesDiffer null
  | bool {value : Bool} : NamesDiffer (bool value)
  | number {value : Int} : NamesDiffer (number value)
  | string {value : String} : NamesDiffer (string value)
  | array {items : List Json} : (∀ item ∈ items, NamesDiffer item) → NamesDiffer (array items)
  | object {members : List (String × Json)} : (members.map Prod.fst).Nodup →
      (∀ member ∈ members, NamesDiffer member.2) → NamesDiffer (object members)

/-! ## Outside the strings of a text -/

mutual

/-- **The characters of a text that stand outside its strings.** A string starts at a quotation mark, and its
quotation marks belong to it. -/
def outsideStrings : List Char → List Char
  | [] => []
  | '"' :: rest => outsideAfterString rest
  | c :: rest => c :: outsideStrings rest

/-- The same, where a text starts in the middle of a string. The string ends at the first quotation mark that
no backslash stands before. -/
def outsideAfterString : List Char → List Char
  | [] => []
  | '\\' :: _ :: rest => outsideAfterString rest
  | '"' :: rest => outsideStrings rest
  | _ :: rest => outsideAfterString rest

end

end Json

end InterfaceSchema
