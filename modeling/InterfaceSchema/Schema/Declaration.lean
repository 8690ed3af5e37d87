import InterfaceSchema.BaseType
import InterfaceSchema.Dict
import InterfaceSchema.Schema.Slots
import InterfaceSchema.Table
import InterfaceSchema.Text

/-!
# Reading declarations

What a reflection schema declares, taken out of its bytes: a `SchemaDecl` holds the enums, objects and
services in the order they are stored, with all their properties, and owns its strings.

**Only the gate can refuse.** `readSchema` checks the header and binds the root table; whatever lies beyond
is read with the defaults of the format, so a truncated, overlapping or cyclic buffer is some schema, too.
An absent string is empty, an absent number zero (an absent type index `-1`), and a declaration whose
offset leads nowhere is one without a name. Documentation lines are trimmed, and an attribute whose value
is written `0`, which is how an attribute without a value is stored, has none.
-/

namespace InterfaceSchema

/-! ## Declarations -/

/-- **An attribute**: a key with a value, or a key alone. -/
structure AttributeDecl where
  key : String
  value : Option String
  deriving DecidableEq

/-- **A type**: codes that may or may not mean a base type, and the position of an enum or object. -/
structure TypeDecl where
  base : Int8
  element : Int8
  index : Int32
  deriving DecidableEq

/-- **One value of an enum.** -/
structure EnumValueDecl where
  name : String
  value : Int64
  unionType : Option TypeDecl
  docs : List String
  deriving DecidableEq

/-- **An enum.** -/
structure EnumDecl where
  name : String
  values : List EnumValueDecl
  isUnion : Bool
  underlying : Option TypeDecl
  attributes : List AttributeDecl
  docs : List String
  deriving DecidableEq

/-- **A field of an object.** -/
structure FieldDecl where
  name : String
  type : Option TypeDecl
  id : UInt16
  offset : UInt16
  defaultInteger : Int64
  /-- The 64 bits of the default of a real field. -/
  defaultReal : UInt64
  deprecated : Bool
  required : Bool
  key : Bool
  attributes : List AttributeDecl
  docs : List String
  deriving DecidableEq

/-- **An object**, a table or a struct. -/
structure ObjectDecl where
  name : String
  fields : List FieldDecl
  isStruct : Bool
  minAlign : Int32
  byteSize : Int32
  attributes : List AttributeDecl
  docs : List String
  deriving DecidableEq

/-- **A call of a service.** Of the objects it takes and answers only the names matter. -/
structure CallDecl where
  name : String
  request : Option String
  response : Option String
  attributes : List AttributeDecl
  docs : List String
  deriving DecidableEq

/-- **A service.** -/
structure ServiceDecl where
  name : String
  calls : List CallDecl
  attributes : List AttributeDecl
  docs : List String
  deriving DecidableEq

/-- **A whole schema.** -/
structure SchemaDecl where
  fileIdent : String
  fileExt : String
  root : Option ObjectDecl
  enums : List EnumDecl
  objects : List ObjectDecl
  services : List ServiceDecl
  deriving DecidableEq

/-- **Attributes by key**, in the order they are declared. -/
def attributeMap (attributes : List AttributeDecl) : Dict (Option String) :=
  .ofList (attributes.map fun a => (a.key, a.value))

/-! ## Declarations from tables -/

/-- The documentation of a declaration, its lines trimmed. -/
def Table.docs (t : Table) (slot : Nat) : List String := (t.strings slot).map trim

/-- The attribute a table stores. The value `0` stands for none. -/
def AttributeDecl.ofTable (t : Table) : AttributeDecl where
  key := t.string AttributeSlot.key
  value :=
    let value := t.string AttributeSlot.value
    if value = "0" then none else some value

/-- The attributes of a declaration. -/
def Table.attributes (t : Table) (slot : Nat) : List AttributeDecl :=
  (t.tables slot).map AttributeDecl.ofTable

/-- The type a table stores. -/
def TypeDecl.ofTable (t : Table) : TypeDecl where
  base := t.int8 TypeSlot.base 0
  element := t.int8 TypeSlot.element 0
  index := t.int32 TypeSlot.index (-1)

/-- The enum value a table stores. -/
def EnumValueDecl.ofTable (t : Table) : EnumValueDecl where
  name := t.string EnumValueSlot.name
  value := t.int64 EnumValueSlot.value 0
  unionType := (t.table? EnumValueSlot.unionType).map TypeDecl.ofTable
  docs := t.docs EnumValueSlot.docs

/-- The enum a table stores. -/
def EnumDecl.ofTable (t : Table) : EnumDecl where
  name := t.string EnumSlot.name
  values := (t.tables EnumSlot.values).map EnumValueDecl.ofTable
  isUnion := t.bool EnumSlot.isUnion false
  underlying := (t.table? EnumSlot.underlying).map TypeDecl.ofTable
  attributes := t.attributes EnumSlot.attributes
  docs := t.docs EnumSlot.docs

/-- The field a table stores. -/
def FieldDecl.ofTable (t : Table) : FieldDecl where
  name := t.string FieldSlot.name
  type := (t.table? FieldSlot.type).map TypeDecl.ofTable
  id := t.uint16 FieldSlot.id 0
  offset := t.uint16 FieldSlot.offset 0
  defaultInteger := t.int64 FieldSlot.defaultInteger 0
  defaultReal := t.real FieldSlot.defaultReal 0
  deprecated := t.bool FieldSlot.deprecated false
  required := t.bool FieldSlot.required false
  key := t.bool FieldSlot.key false
  attributes := t.attributes FieldSlot.attributes
  docs := t.docs FieldSlot.docs

/-- The object a table stores. -/
def ObjectDecl.ofTable (t : Table) : ObjectDecl where
  name := t.string ObjectSlot.name
  fields := (t.tables ObjectSlot.fields).map FieldDecl.ofTable
  isStruct := t.bool ObjectSlot.isStruct false
  minAlign := t.int32 ObjectSlot.minAlign 0
  byteSize := t.int32 ObjectSlot.byteSize 0
  attributes := t.attributes ObjectSlot.attributes
  docs := t.docs ObjectSlot.docs

/-- The name of the object in a slot, if there is such a table. -/
def Table.objectName? (t : Table) (slot : Nat) : Option String :=
  (t.table? slot).map fun object => object.string ObjectSlot.name

/-- The call a table stores. -/
def CallDecl.ofTable (t : Table) : CallDecl where
  name := t.string CallSlot.name
  request := t.objectName? CallSlot.request
  response := t.objectName? CallSlot.response
  attributes := t.attributes CallSlot.attributes
  docs := t.docs CallSlot.docs

/-- The service a table stores. -/
def ServiceDecl.ofTable (t : Table) : ServiceDecl where
  name := t.string ServiceSlot.name
  calls := (t.tables ServiceSlot.calls).map CallDecl.ofTable
  attributes := t.attributes ServiceSlot.attributes
  docs := t.docs ServiceSlot.docs

/-- The schema a root table stores. -/
def SchemaDecl.ofTable (t : Table) : SchemaDecl where
  fileIdent := t.string SchemaSlot.fileIdent
  fileExt := t.string SchemaSlot.fileExt
  root := (t.table? SchemaSlot.root).map ObjectDecl.ofTable
  enums := (t.tables SchemaSlot.enums).map EnumDecl.ofTable
  objects := (t.tables SchemaSlot.objects).map ObjectDecl.ofTable
  services := (t.tables SchemaSlot.services).map ServiceDecl.ofTable

/-! ## The gate -/

/-- **Why a buffer is no reflection schema.** -/
inductive MalformedSchema where
  /-- It is shorter than a header. -/
  | tooShort (length : Nat)
  /-- The header does not identify the format. -/
  | missingIdentifier
  /-- The root offset leads to no table. -/
  | badRootOffset (offset : Nat)
  deriving DecidableEq

/-- The refusal in words. -/
def MalformedSchema.message : MalformedSchema → String
  | tooShort length =>
    "buffer is " ++ decimal length ++ " bytes, too short for a reflection schema header"
  | missingIdentifier => "missing \"BFBS\" file identifier"
  | badRootOffset offset => "root table offset " ++ decimal offset ++ " is out of bounds"

/-- **The root table of a buffer.** The checks are made in this order: the buffer holds a header, the
header identifies the format, and the root offset leads past the header to a table. -/
def rootTable (b : Buffer) : Except MalformedSchema Table :=
  if b.size < headerSize then .error (.tooShort b.size)
  else if b.slice? 4 4 ≠ some fileIdentifier then .error .missingIdentifier
  else
    let root := (b.word? 4 0).getD 0
    if root < headerSize then .error (.badRootOffset root)
    else
      match Table.bind? b root with
      | none => .error (.badRootOffset root)
      | some t => .ok t

/-- **The schema a buffer declares.** -/
def readSchema (b : Buffer) : Except MalformedSchema SchemaDecl :=
  (rootTable b).map SchemaDecl.ofTable

end InterfaceSchema
