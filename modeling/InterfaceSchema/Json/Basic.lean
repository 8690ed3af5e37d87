import InterfaceSchema.Text

/-!
# JSON values and their texts

A document is a tree first and a text second. `Json` is the tree: the values that documents are made of,
with whole numbers only, and with the members of an object in the order in which they are written.

A tree has two texts. **The compact one** has no white space outside its strings; **the pretty one** puts
each element and each member on a line of its own, indented by two spaces for each level, and keeps an
empty array or object on one line. Strings are quoted by one rule (`Json.quote`) in both: the quotation
mark, the backslash and the control characters below U+0020 are escaped, everything else stands for
itself.
-/

namespace InterfaceSchema

/-- **A JSON value.** -/
inductive Json where
  | null
  | bool (value : Bool)
  | number (value : Int)
  | string (value : String)
  | array (items : List Json)
  | object (members : List (String × Json))

namespace Json

/-- A string, or null for none. -/
def ofString? : Option String → Json
  | none => null
  | some text => string text

/-- An array of strings. -/
def strings (texts : List String) : Json := array (texts.map string)

/-! ## Quoting -/

/-- The four lower-case hexadecimal digits of a code below `0x10000`. -/
def hexDigits (code : Nat) : List Char :=
  [code / 4096 % 16, code / 256 % 16, code / 16 % 16, code % 16].map Nat.digitChar

/-- **One character inside a quoted string.** Five control characters have a short escape. -/
def escape (c : Char) : List Char :=
  if c = '"' then ['\\', '"']
  else if c = '\\' then ['\\', '\\']
  else if c = '\n' then ['\\', 'n']
  else if c = '\r' then ['\\', 'r']
  else if c = '\t' then ['\\', 't']
  else if c = '\x08' then ['\\', 'b']
  else if c = '\x0c' then ['\\', 'f']
  else if c.toNat < 0x20 then ['\\', 'u'] ++ hexDigits c.toNat
  else [c]

/-- **A string between quotation marks**, escaped. -/
def quote (text : String) : String :=
  String.ofList ('"' :: (text.toList.flatMap escape ++ ['"']))

/-! ## The compact text -/

mutual

/-- **The compact text of a value.** -/
def compact : Json → String
  | null => "null"
  | bool value => if value then "true" else "false"
  | number value => decimal value
  | string value => quote value
  | array items => "[" ++ compactItems items ++ "]"
  | object members => "\x7b" ++ compactMembers members ++ "\x7d"

/-- The elements of an array, separated by commas. -/
def compactItems : List Json → String
  | [] => ""
  | [item] => item.compact
  | item :: rest => item.compact ++ "," ++ compactItems rest

/-- The members of an object, separated by commas. -/
def compactMembers : List (String × Json) → String
  | [] => ""
  | [(name, value)] => quote name ++ ":" ++ value.compact
  | (name, value) :: rest => quote name ++ ":" ++ value.compact ++ "," ++ compactMembers rest

end

/-! ## The pretty text -/

/-- The start of a line at a level. -/
def lineStart (level : Nat) : String := String.ofList ('\n' :: List.replicate (2 * level) ' ')

mutual

/-- **The pretty text of a value** that stands at a level. -/
def prettyAt (level : Nat) : Json → String
  | null => "null"
  | bool value => if value then "true" else "false"
  | number value => decimal value
  | string value => quote value
  | array [] => "[]"
  | array (item :: rest) =>
    "[" ++ prettyItems (level + 1) (item :: rest) ++ lineStart level ++ "]"
  | object [] => "\x7b\x7d"
  | object (member :: rest) =>
    "\x7b" ++ prettyMembers (level + 1) (member :: rest) ++ lineStart level ++ "\x7d"

/-- The elements of an array, each on a line of its own. -/
def prettyItems (level : Nat) : List Json → String
  | [] => ""
  | [item] => lineStart level ++ item.prettyAt level
  | item :: rest => lineStart level ++ item.prettyAt level ++ "," ++ prettyItems level rest

/-- The members of an object, each on a line of its own. -/
def prettyMembers (level : Nat) : List (String × Json) → String
  | [] => ""
  | [(name, value)] => lineStart level ++ quote name ++ ": " ++ value.prettyAt level
  | (name, value) :: rest =>
    lineStart level ++ quote name ++ ": " ++ value.prettyAt level ++ "," ++ prettyMembers level rest

end

/-- **The pretty text of a document.** -/
def pretty (value : Json) : String := value.prettyAt 0

end Json

end InterfaceSchema
