/-!
# White space and numerals

Documentation lines are trimmed as they are read, and a pattern may ask for white space or skip it. White
space is the Unicode property of that name: twenty-five characters, the ASCII ones and the spaces and
separators beyond them. The zero-width characters U+200B, U+2060 and U+FEFF are not among them.

Numbers are written in one way everywhere: decimal digits, after a minus sign if the number is negative.
-/

namespace InterfaceSchema

/-- **Whether a character is white space**, in the sense of the Unicode property. -/
def isWhiteSpace (c : Char) : Bool :=
  let n := c.toNat
  (0x09 ≤ n && n ≤ 0x0D) || n == 0x20 || n == 0x85 || n == 0xA0 || n == 0x1680 ||
    (0x2000 ≤ n && n ≤ 0x200A) || n == 0x2028 || n == 0x2029 || n == 0x202F || n == 0x205F ||
    n == 0x3000

/-- A list of characters without the white space at its start. -/
def trimStart (chars : List Char) : List Char := chars.dropWhile isWhiteSpace

/-- **A text without the white space at either end.** -/
def trim (text : String) : String :=
  String.ofList (trimStart (trimStart text.toList).reverse).reverse

/-- **A whole number in decimal.** -/
def decimal (value : Int) : String :=
  if value < 0 then "-" ++ Nat.repr value.natAbs else Nat.repr value.natAbs

end InterfaceSchema
