import InterfaceSchema.Text

/-!
# Base types

The closed set of types that a field can have. Each has a one-byte **code**, its position in the list
`BaseType.all`, and a byte outside the list is the code of no type. An enum's values are stored in one of
these types too.

What a field's type index addresses follows from its base type: **scalars and strings may name an enum**,
objects name an object, and the other kinds name nothing.
-/

namespace InterfaceSchema

/-- **The type of a field, or of the elements of a vector.** -/
inductive BaseType where
  | none
  | utype
  | bool
  | byte
  | ubyte
  | short
  | ushort
  | int
  | uint
  | long
  | ulong
  | float
  | double
  | string
  | vector
  | obj
  | union
  deriving DecidableEq, Repr

namespace BaseType

/-- The base types in the order of their codes. -/
def all : List BaseType :=
  [none, utype, bool, byte, ubyte, short, ushort, int, uint, long, ulong, float, double, string, vector,
    obj, union]

/-- **The code of a base type**, its position in `all`. -/
def code : BaseType → Int8
  | none => 0
  | utype => 1
  | bool => 2
  | byte => 3
  | ubyte => 4
  | short => 5
  | ushort => 6
  | int => 7
  | uint => 8
  | long => 9
  | ulong => 10
  | float => 11
  | double => 12
  | string => 13
  | vector => 14
  | obj => 15
  | union => 16

/-- **The base type with a code**, if there is one. -/
def ofCode? (code : Int8) : Option BaseType :=
  if 0 ≤ code.toInt then all[code.toInt.toNat]? else Option.none

/-- A base type is found under its own code. -/
@[simp] theorem ofCode?_code (t : BaseType) : ofCode? t.code = some t := by
  cases t <;> decide

/-- The name of a base type, as schemas spell it. -/
def name : BaseType → String
  | none => "None"
  | utype => "UType"
  | bool => "Bool"
  | byte => "Byte"
  | ubyte => "UByte"
  | short => "Short"
  | ushort => "UShort"
  | int => "Int"
  | uint => "UInt"
  | long => "Long"
  | ulong => "ULong"
  | float => "Float"
  | double => "Double"
  | string => "String"
  | vector => "Vector"
  | obj => "Obj"
  | union => "Union"

/-- The base type with a name, if there is one. -/
def ofName? (name : String) : Option BaseType := all.find? fun t => t.name == name

/-- **Scalars and strings**, whose type index names an enum. -/
def isScalarOrString : BaseType → Bool
  | none | vector | obj | union => false
  | _ => true

end BaseType

/-- **A code as messages show it**: the name of its base type, or the number after a hash sign. -/
def codeText (code : Int8) : String :=
  match BaseType.ofCode? code with
  | some t => t.name
  | none => "#" ++ decimal code.toInt

end InterfaceSchema
