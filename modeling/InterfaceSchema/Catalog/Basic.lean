import InterfaceSchema.BaseType
import InterfaceSchema.Dict
import InterfaceSchema.Text

/-!
# Catalogs

A compiled schema is a `Catalog`: the enums, tables and interfaces it defines, each list in the order of
names, an index of all their qualified names in the order of declaration, and a log of the type
references that led nowhere. A catalog owns its data and refers to definitions by name only.

The index points into the sorted lists. Looking a name up (`Catalog.get?`) and listing all definitions
(`Catalog.definitions`) both go through it.
-/

namespace InterfaceSchema

/-- **Attributes by key.** A key without a value is present with none. -/
abbrev Attributes := Dict (Option String)

/-- **Where a schema came from.** -/
structure Source where
  filename : String := ""
  filepath : String := ""
  deriving DecidableEq

/-! ## Definitions -/

/-- **One value of an enum**: its name and documentation, without its number. -/
structure EnumValueDef where
  name : String
  docs : List String
  deriving DecidableEq

/-- **An enum**, its values in the order of their names. -/
structure EnumDef where
  name : String
  docs : List String
  values : Dict EnumValueDef
  deriving DecidableEq

/-- **Which list a type index addresses.** -/
inductive Target where
  | enum
  | object
  deriving DecidableEq

/-- The list in words. -/
def Target.text : Target → String
  | enum => "enum"
  | object => "object"

/-- **What a type index leads to**: a definition, by name, or nothing. -/
inductive Reference where
  | resolved (name : String)
  | unresolved (target : Target) (index : Int32)
  deriving DecidableEq

/-- The name of the definition, if there is one. -/
def Reference.name? : Reference → Option String
  | resolved name => some name
  | unresolved _ _ => none

/-- The reference in words: the name, or a placeholder that shows what was asked for. -/
def Reference.text : Reference → String
  | resolved name => name
  | unresolved target index => "<unresolved " ++ target.text ++ " #" ++ decimal index.toInt ++ ">"

/-- **A field of a table.** -/
structure FieldDef where
  name : String
  id : UInt16
  offset : UInt16
  base : BaseType
  /-- The type of a vector's elements. -/
  element : Option BaseType
  index : Int32
  reference : Option Reference
  docs : List String
  /-- The attributes, `none` when there are none. -/
  attributes : Option Attributes
  deriving DecidableEq

/-- **A table, or a struct if it is marked as one**, its fields in the order of declaration. -/
structure TableDef where
  name : String
  docs : List String
  isStruct : Bool
  fields : Dict FieldDef
  deriving DecidableEq

/-- **What a member of an interface is.** -/
inductive MemberKind where
  | procedure
  | topic
  deriving DecidableEq

/-- The kind in words. -/
def MemberKind.text : MemberKind → String
  | procedure => "procedure"
  | topic => "topic"

/-- **The direction in which a member streams.** -/
inductive Stream where
  | input
  | output
  | both
  deriving DecidableEq

/-- The direction in words. -/
def Stream.text : Stream → String
  | input => "in"
  | output => "out"
  | both => "inout"

/-- **A member of an interface**, a slot that is called or published to. -/
structure SlotDef where
  name : String
  kind : MemberKind
  /-- The type of the request, `none` when it carries nothing. -/
  request : Option String
  /-- The type of the response, `none` when it carries nothing. -/
  response : Option String
  stream : Option Stream
  docs : List String
  attributes : Attributes
  deriving DecidableEq

/-- **An interface**, its members in the order of declaration. -/
structure InterfaceDef where
  name : String
  uuid : Option String
  docs : List String
  attributes : Attributes
  slots : Dict SlotDef
  deriving DecidableEq

/-! ## Catalogs -/

/-- **What is said about a schema as a whole.** -/
structure Meta where
  filename : String
  filepath : String
  fileIdent : String
  fileExt : String
  /-- The name of the root object. -/
  root : Option String
  deriving DecidableEq

/-- **A type reference that led nowhere.** -/
structure Anomaly where
  object : String
  field : String
  target : Target
  index : Int32
  deriving DecidableEq

/-- The anomaly in words. -/
def Anomaly.text (a : Anomaly) : String :=
  a.target.text ++ " index " ++ decimal a.index.toInt ++ " of field \"" ++ a.field ++ "\" in \"" ++
    a.object ++ "\" does not resolve"

/-- **Where a definition stands**: its kind, and its position in the sorted list of that kind. -/
inductive DefinitionRef where
  | enum (position : Nat)
  | table (position : Nat)
  | interface (position : Nat)
  deriving DecidableEq

/-- **A definition of any kind.** -/
inductive Definition where
  | enum (definition : EnumDef)
  | table (definition : TableDef)
  | interface (definition : InterfaceDef)
  deriving DecidableEq

/-- The name of a definition. -/
def Definition.name : Definition → String
  | enum d => d.name
  | table d => d.name
  | interface d => d.name

/-- **A compiled schema.** -/
structure Catalog where
  info : Meta
  enums : List EnumDef
  tables : List TableDef
  interfaces : List InterfaceDef
  /-- Every qualified name with where its definition stands, in the order of declaration. -/
  index : Dict DefinitionRef
  /-- The references that led nowhere, in the order of declaration. -/
  anomalies : List Anomaly
  deriving DecidableEq

namespace Catalog

/-- The definition that stands somewhere. -/
def resolve? (c : Catalog) : DefinitionRef → Option Definition
  | .enum position => c.enums[position]?.map .enum
  | .table position => c.tables[position]?.map .table
  | .interface position => c.interfaces[position]?.map .interface

/-- **The definition of a qualified name**, if it has one. -/
def get? (c : Catalog) (name : String) : Option Definition := (c.index.get? name).bind c.resolve?

/-- **All definitions by qualified name**, in the order of declaration. -/
def entries (c : Catalog) : List (String × Definition) :=
  c.index.entries.filterMap fun entry => (c.resolve? entry.2).map fun d => (entry.1, d)

/-- **All definitions in the order of declaration.** -/
def definitions (c : Catalog) : List Definition := c.entries.map Prod.snd

end Catalog

end InterfaceSchema
