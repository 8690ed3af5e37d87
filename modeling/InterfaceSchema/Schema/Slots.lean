/-!
# The slots of a reflection schema

A reflection schema is a tree of tables, one kind of table for each kind of declaration, and every
property of a declaration has its slot. The numbers below are the format: both the layout of a schema
and the reader of its declarations name slots only through them.

| table | slots |
|---|---|
| schema | objects, enums, file identifier, file extension, root object, services |
| attribute | key, value |
| type | base code, element code, index |
| enum | name, values, union mark, underlying type, attributes, documentation |
| enum value | name, value, union type, documentation |
| object | name, fields, struct mark, alignment, size, attributes, documentation |
| field | name, type, id, offset, defaults, marks, attributes, documentation |
| service | name, calls, attributes, documentation |
| call | name, request, response, attributes, documentation |
-/

namespace InterfaceSchema

/-- The four bytes after the root offset, `BFBS`. -/
def fileIdentifier : List UInt8 := [0x42, 0x46, 0x42, 0x53]

/-- The size of what stands before everything else: the root offset and the identifier. -/
def headerSize : Nat := 8

/-! ## Schema -/

namespace SchemaSlot

abbrev objects : Nat := 0
abbrev enums : Nat := 1
abbrev fileIdent : Nat := 2
abbrev fileExt : Nat := 3
abbrev root : Nat := 4
abbrev services : Nat := 5

end SchemaSlot

/-! ## Attributes and types -/

namespace AttributeSlot

abbrev key : Nat := 0
abbrev value : Nat := 1

end AttributeSlot

namespace TypeSlot

abbrev base : Nat := 0
abbrev element : Nat := 1
abbrev index : Nat := 2

end TypeSlot

/-! ## Enums -/

namespace EnumSlot

abbrev name : Nat := 0
abbrev values : Nat := 1
abbrev isUnion : Nat := 2
abbrev underlying : Nat := 3
abbrev attributes : Nat := 4
abbrev docs : Nat := 5

end EnumSlot

namespace EnumValueSlot

abbrev name : Nat := 0
abbrev value : Nat := 1
abbrev unionType : Nat := 3
abbrev docs : Nat := 4

end EnumValueSlot

/-! ## Objects -/

namespace ObjectSlot

abbrev name : Nat := 0
abbrev fields : Nat := 1
abbrev isStruct : Nat := 2
abbrev minAlign : Nat := 3
abbrev byteSize : Nat := 4
abbrev attributes : Nat := 5
abbrev docs : Nat := 6

end ObjectSlot

namespace FieldSlot

abbrev name : Nat := 0
abbrev type : Nat := 1
abbrev id : Nat := 2
abbrev offset : Nat := 3
abbrev defaultInteger : Nat := 4
abbrev defaultReal : Nat := 5
abbrev deprecated : Nat := 6
abbrev required : Nat := 7
abbrev key : Nat := 8
abbrev attributes : Nat := 9
abbrev docs : Nat := 10

end FieldSlot

/-! ## Services -/

namespace ServiceSlot

abbrev name : Nat := 0
abbrev calls : Nat := 1
abbrev attributes : Nat := 2
abbrev docs : Nat := 3

end ServiceSlot

namespace CallSlot

abbrev name : Nat := 0
abbrev request : Nat := 1
abbrev response : Nat := 2
abbrev attributes : Nat := 3
abbrev docs : Nat := 4

end CallSlot

end InterfaceSchema
