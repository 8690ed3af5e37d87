import InterfaceSchema.BaseType
import InterfaceSchema.TableTree
import InterfaceSchema.Schema.Slots

/-!
# Describing a schema

What the author of a schema says, before it is bytes: enums, objects with their fields, services with
their calls, and the names of the file. `SchemaSpec.bytes` is the reflection schema that says the same.

**Only what differs from its default is stored.** A slot is left empty where the reader would assume the
value anyway – a zero, an index of `-1`, a mark that is not set, an empty list of attributes or of
documentation – so that two descriptions that read the same are often the same bytes. The vectors of
objects, enums, fields and values are stored even when they are empty, those of services and calls are
not.

A field that is given no id has its position as its id, and one that is given no offset stands two bytes
after the field with the id before, as a table's fields do.
-/

namespace InterfaceSchema

/-! ## Descriptions -/

/-- **One value of an enum.** -/
structure EnumValueSpec where
  name : String
  value : Int64 := 0
  docs : List String := []
  deriving DecidableEq

/-- **An enum**, or a union if it is marked as one. -/
structure EnumSpec where
  name : String
  values : List EnumValueSpec := []
  isUnion : Bool := false
  attributes : List (String × String) := []
  docs : List String := []
  deriving DecidableEq

/-- **A field of an object.** Its types are codes and its index is a number, whether they mean anything
or not. -/
structure FieldSpec where
  name : String
  base : Int8
  element : Int8 := 0
  /-- The position of the enum or object the field refers to, `-1` for none. -/
  index : Int32 := -1
  /-- The id, if it is not the field's position. -/
  id : Option UInt16 := none
  /-- The offset, if it does not follow from the id. -/
  offset : Option UInt16 := none
  required : Bool := false
  deprecated : Bool := false
  attributes : List (String × String) := []
  docs : List String := []
  deriving DecidableEq

/-- **An object**: a table, or a struct if it is marked as one. -/
structure ObjectSpec where
  name : String
  fields : List FieldSpec := []
  isStruct : Bool := false
  attributes : List (String × String) := []
  docs : List String := []
  deriving DecidableEq

/-- **A call of a service**, with the names of the objects it takes and answers. -/
structure CallSpec where
  name : String
  request : Option String := none
  response : Option String := none
  attributes : List (String × String) := []
  docs : List String := []
  deriving DecidableEq

/-- **A service.** -/
structure ServiceSpec where
  name : String
  calls : List CallSpec := []
  attributes : List (String × String) := []
  docs : List String := []
  deriving DecidableEq

/-- **A whole schema.** -/
structure SchemaSpec where
  fileIdent : Option String := none
  fileExt : Option String := none
  /-- The position of the root object. -/
  root : Option Nat := none
  enums : List EnumSpec := []
  objects : List ObjectSpec := []
  services : List ServiceSpec := []
  deriving DecidableEq

/-! ## Filling slots -/

namespace TableTree

/-- A slot filled with a value. -/
def slot (slot : Nat) (value : SlotValue) : TableTree := [(slot, value)]

/-- A slot filled with a value under a condition. -/
def slotIf (present : Bool) (slot : Nat) (value : SlotValue) : TableTree :=
  if present then [(slot, value)] else []

/-- A slot filled with a string, if there is one. -/
def stringSlot (slot : Nat) : Option String → TableTree
  | none => []
  | some text => [(slot, .string text)]

/-- A slot filled with a table, if there is one. -/
def tableSlot (slot : Nat) : Option TableTree → TableTree
  | none => []
  | some tree => [(slot, .table tree)]

/-- The documentation of a declaration, left out when it has none. -/
def docsSlot (slot : Nat) (docs : List String) : TableTree :=
  slotIf (!docs.isEmpty) slot (.strings docs)

/-- One attribute, a key and its value. -/
def attributePair (pair : String × String) : TableTree :=
  [(AttributeSlot.key, .string pair.1), (AttributeSlot.value, .string pair.2)]

/-- The attributes of a declaration, left out when it has none. -/
def attributesSlot (slot : Nat) (attributes : List (String × String)) : TableTree :=
  slotIf (!attributes.isEmpty) slot (.tables (attributes.map attributePair))

/-- **A type**: its base code, the code of its elements and its index. -/
def typeOf (base element : Int8) (index : Int32) : TableTree :=
  slotIf (base != 0) TypeSlot.base (.scalar (.int8 base)) ++
    slotIf (element != 0) TypeSlot.element (.scalar (.int8 element)) ++
    slotIf (index != -1) TypeSlot.index (.scalar (.int32 index))

/-- **An object that is only a name**, as a call refers to it. -/
def namedObject (name : String) : TableTree :=
  [(ObjectSlot.name, .string name), (ObjectSlot.fields, .tables [])]

end TableTree

/-! ## Declarations as tables -/

open TableTree

/-- The table of an enum value. -/
def EnumValueSpec.tree (v : EnumValueSpec) : TableTree :=
  slot EnumValueSlot.name (.string v.name) ++
    slotIf (v.value != 0) EnumValueSlot.value (.scalar (.int64 v.value)) ++
    docsSlot EnumValueSlot.docs v.docs

/-- The type an enum's values are stored in: a union's are type tags, all others are bytes. -/
def EnumSpec.underlying (e : EnumSpec) : BaseType := if e.isUnion then .utype else .byte

/-- The table of an enum. -/
def EnumSpec.tree (e : EnumSpec) : TableTree :=
  slot EnumSlot.name (.string e.name) ++
    slot EnumSlot.values (.tables (e.values.map EnumValueSpec.tree)) ++
    slotIf e.isUnion EnumSlot.isUnion (.scalar (.bool true)) ++
    slot EnumSlot.underlying (.table (typeOf e.underlying.code 0 (-1))) ++
    attributesSlot EnumSlot.attributes e.attributes ++
    docsSlot EnumSlot.docs e.docs

/-- **The id of a field**: the one it is given, or else its position. -/
def FieldSpec.effectiveId (f : FieldSpec) (position : Nat) : UInt16 :=
  f.id.getD (UInt16.ofNat position)

/-- **The offset of a field**: the one it is given, or else that of the vtable entry of its id. -/
def FieldSpec.effectiveOffset (f : FieldSpec) (position : Nat) : UInt16 :=
  f.offset.getD (4 + 2 * f.effectiveId position)

/-- The table of a field at its position among the fields of its object. -/
def FieldSpec.tree (f : FieldSpec) (position : Nat) : TableTree :=
  slot FieldSlot.name (.string f.name) ++
    slot FieldSlot.type (.table (typeOf f.base f.element f.index)) ++
    slotIf (f.effectiveId position != 0) FieldSlot.id (.scalar (.uint16 (f.effectiveId position))) ++
    slotIf (f.effectiveOffset position != 0) FieldSlot.offset
      (.scalar (.uint16 (f.effectiveOffset position))) ++
    slotIf f.deprecated FieldSlot.deprecated (.scalar (.bool true)) ++
    slotIf f.required FieldSlot.required (.scalar (.bool true)) ++
    attributesSlot FieldSlot.attributes f.attributes ++
    docsSlot FieldSlot.docs f.docs

/-- The table of an object. -/
def ObjectSpec.tree (o : ObjectSpec) : TableTree :=
  slot ObjectSlot.name (.string o.name) ++
    slot ObjectSlot.fields (.tables (o.fields.mapIdx fun position f => f.tree position)) ++
    slotIf o.isStruct ObjectSlot.isStruct (.scalar (.bool true)) ++
    attributesSlot ObjectSlot.attributes o.attributes ++
    docsSlot ObjectSlot.docs o.docs

/-- The table of a call. -/
def CallSpec.tree (c : CallSpec) : TableTree :=
  slot CallSlot.name (.string c.name) ++
    tableSlot CallSlot.request (c.request.map namedObject) ++
    tableSlot CallSlot.response (c.response.map namedObject) ++
    attributesSlot CallSlot.attributes c.attributes ++
    docsSlot CallSlot.docs c.docs

/-- The table of a service. -/
def ServiceSpec.tree (s : ServiceSpec) : TableTree :=
  slot ServiceSlot.name (.string s.name) ++
    slotIf (!s.calls.isEmpty) ServiceSlot.calls (.tables (s.calls.map CallSpec.tree)) ++
    attributesSlot ServiceSlot.attributes s.attributes ++
    docsSlot ServiceSlot.docs s.docs

/-- The object at the root, if the description names one that it has. -/
def SchemaSpec.rootObject (s : SchemaSpec) : Option ObjectSpec := s.root.bind fun i => s.objects[i]?

/-- The table of a schema. The root object is stored a second time, as the root. -/
def SchemaSpec.tree (s : SchemaSpec) : TableTree :=
  slot SchemaSlot.objects (.tables (s.objects.map ObjectSpec.tree)) ++
    slot SchemaSlot.enums (.tables (s.enums.map EnumSpec.tree)) ++
    stringSlot SchemaSlot.fileIdent s.fileIdent ++
    stringSlot SchemaSlot.fileExt s.fileExt ++
    tableSlot SchemaSlot.root (s.rootObject.map ObjectSpec.tree) ++
    slotIf (!s.services.isEmpty) SchemaSlot.services (.tables (s.services.map ServiceSpec.tree))

/-- **The reflection schema of a description**, as bytes. -/
def SchemaSpec.bytes (s : SchemaSpec) : List UInt8 := Block.file fileIdentifier s.tree.block

/-- The same bytes as a buffer to read. -/
def SchemaSpec.buffer (s : SchemaSpec) : Buffer := .ofList s.bytes

end InterfaceSchema
