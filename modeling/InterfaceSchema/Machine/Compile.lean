import InterfaceSchema.Catalog.Compile
import InterfaceSchema.Machine.Reader

/-!
# Compiling in machine words

The gate and the declarations, read with the reader in machine words, and the compile of what was read.
**Everything that a compile may read is read**, whether or not a check fails before: a compile that stops
early makes some of these reads and no others. Past the reading, words occur once more, where the name of
each object is taken by its index from the list of all names.
-/

namespace InterfaceSchema.Machine

/-! ## Declarations from tables -/

/-- The documentation of a declaration, its lines trimmed. -/
def Table.docs (t : Table) (slot : Nat) : Checked (List String) := do
  return (← t.strings (.ofNat slot)).map trim

/-- The attribute a table stores. -/
def attributeDecl (t : Table) : Checked AttributeDecl := do
  let key ← t.string (.ofNat AttributeSlot.key)
  let value ← t.string (.ofNat AttributeSlot.value)
  return ⟨key, if value = "0" then none else some value⟩

/-- **What the tables of a vector store**, by the reader of one of them. -/
def Table.declarations {α : Type} (read : Table → Checked α) (t : Table) (slot : Nat) :
    Checked (List α) := do
  (← t.tables (.ofNat slot)).mapM read

/-- **What the table in a slot stores**, if there is one. -/
def Table.declaration? {α : Type} (read : Table → Checked α) (t : Table) (slot : Nat) :
    Checked (Option α) := do
  match ← t.table? (.ofNat slot) with
  | none => return none
  | some inner => return some (← read inner)

/-- The type a table stores. -/
def typeDecl (t : Table) : Checked TypeDecl := do
  return {
    base := ← t.scalar int8? (.ofNat TypeSlot.base) 0
    element := ← t.scalar int8? (.ofNat TypeSlot.element) 0
    index := ← t.scalar int32? (.ofNat TypeSlot.index) (-1)
  }

/-- The enum value a table stores. -/
def enumValueDecl (t : Table) : Checked EnumValueDecl := do
  return {
    name := ← t.string (.ofNat EnumValueSlot.name)
    value := ← t.scalar int64? (.ofNat EnumValueSlot.value) 0
    unionType := ← t.declaration? typeDecl EnumValueSlot.unionType
    docs := ← t.docs EnumValueSlot.docs
  }

/-- The enum a table stores. -/
def enumDecl (t : Table) : Checked EnumDecl := do
  return {
    name := ← t.string (.ofNat EnumSlot.name)
    values := ← t.declarations enumValueDecl EnumSlot.values
    isUnion := ← t.scalar bool? (.ofNat EnumSlot.isUnion) false
    underlying := ← t.declaration? typeDecl EnumSlot.underlying
    attributes := ← t.declarations attributeDecl EnumSlot.attributes
    docs := ← t.docs EnumSlot.docs
  }

/-- The field a table stores. -/
def fieldDecl (t : Table) : Checked FieldDecl := do
  return {
    name := ← t.string (.ofNat FieldSlot.name)
    type := ← t.declaration? typeDecl FieldSlot.type
    id := ← t.scalar uint16? (.ofNat FieldSlot.id) 0
    offset := ← t.scalar uint16? (.ofNat FieldSlot.offset) 0
    defaultInteger := ← t.scalar int64? (.ofNat FieldSlot.defaultInteger) 0
    defaultReal := ← t.scalar real? (.ofNat FieldSlot.defaultReal) 0
    deprecated := ← t.scalar bool? (.ofNat FieldSlot.deprecated) false
    required := ← t.scalar bool? (.ofNat FieldSlot.required) false
    key := ← t.scalar bool? (.ofNat FieldSlot.key) false
    attributes := ← t.declarations attributeDecl FieldSlot.attributes
    docs := ← t.docs FieldSlot.docs
  }

/-- The object a table stores. -/
def objectDecl (t : Table) : Checked ObjectDecl := do
  return {
    name := ← t.string (.ofNat ObjectSlot.name)
    fields := ← t.declarations fieldDecl ObjectSlot.fields
    isStruct := ← t.scalar bool? (.ofNat ObjectSlot.isStruct) false
    minAlign := ← t.scalar int32? (.ofNat ObjectSlot.minAlign) 0
    byteSize := ← t.scalar int32? (.ofNat ObjectSlot.byteSize) 0
    attributes := ← t.declarations attributeDecl ObjectSlot.attributes
    docs := ← t.docs ObjectSlot.docs
  }

/-- The name of an object. -/
def objectName (t : Table) : Checked String := t.string (.ofNat ObjectSlot.name)

/-- The call a table stores. -/
def callDecl (t : Table) : Checked CallDecl := do
  return {
    name := ← t.string (.ofNat CallSlot.name)
    request := ← t.declaration? objectName CallSlot.request
    response := ← t.declaration? objectName CallSlot.response
    attributes := ← t.declarations attributeDecl CallSlot.attributes
    docs := ← t.docs CallSlot.docs
  }

/-- The service a table stores. -/
def serviceDecl (t : Table) : Checked ServiceDecl := do
  return {
    name := ← t.string (.ofNat ServiceSlot.name)
    calls := ← t.declarations callDecl ServiceSlot.calls
    attributes := ← t.declarations attributeDecl ServiceSlot.attributes
    docs := ← t.docs ServiceSlot.docs
  }

/-- The schema a root table stores. -/
def schemaDecl (t : Table) : Checked SchemaDecl := do
  return {
    fileIdent := ← t.string (.ofNat SchemaSlot.fileIdent)
    fileExt := ← t.string (.ofNat SchemaSlot.fileExt)
    root := ← t.declaration? objectDecl SchemaSlot.root
    enums := ← t.declarations enumDecl SchemaSlot.enums
    objects := ← t.declarations objectDecl SchemaSlot.objects
    services := ← t.declarations serviceDecl SchemaSlot.services
  }

/-! ## The gate -/

/-- A stretch of the bytes that must be inside the buffer. -/
def slice (b : Buffer) (pos length : Nat) : Checked (List UInt8) :=
  match b.slice? pos length with
  | none => throw .index
  | some bytes => return bytes

/-- **The root table of a buffer**, or why it is no reflection schema. -/
def rootTable (b : Buffer) : Checked (Except MalformedSchema Table) := do
  if length b < .ofNat headerSize then return .error (.tooShort b.size)
  if (← slice b 4 4) ≠ fileIdentifier then return .error .missingIdentifier
  let root := (uint32? b 0).getD 0
  let pos := root.toUInt64
  if pos < .ofNat headerSize ∨ length b ≤ pos then return .error (.badRootOffset root.toNat)
  match ← Table.bind? b pos with
  | none => return .error (.badRootOffset root.toNat)
  | some t => return .ok t

/-! ## Compiling -/

/-- An element of a list, which must have it. -/
def nth {α : Type} (items : List α) (i : Nat) : Checked α :=
  if h : i < items.length then return items[i] else throw .index

/-- **Objects under their names in the list of all names**, taken by the index of each. -/
def nameObjects (objects : List ObjectDecl) : Checked (List ObjectDecl) :=
  let names := objects.map (·.name)
  objects.zipIdx.mapM fun (o, i) => do return { o with name := ← nth names i }

/-- **The catalog of a reflection schema.** -/
def compile (b : Buffer) (source : Source) : Checked (Except CompileError Catalog) := do
  match ← rootTable b with
  | .error cause => return .error (.malformed cause)
  | .ok t =>
    let s ← schemaDecl t
    return { s with objects := ← nameObjects s.objects }.compile source

end InterfaceSchema.Machine
