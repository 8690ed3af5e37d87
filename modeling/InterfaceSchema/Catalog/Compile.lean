import InterfaceSchema.Catalog.Members

/-!
# Compiling a schema

From declarations to definitions. Enums come first, then objects, then services; within each kind the
declarations are taken in order, each is checked from its first member to its last, and then its name is
checked against every name before it, of any kind. **The first check that fails is the error.** The only
defect that is tolerated is a type index that lies outside its list: the field keeps a reference that
leads nowhere, and the catalog logs it.

Type indices count positions in the order of declaration, so references are resolved to names before
anything is sorted. Members of one name are merged, the last one winning – except the values of an enum,
which must differ. At the end each list is sorted by name, and the index, which keeps the order of
declaration, says where each definition stands.
-/

namespace InterfaceSchema

/-! ## Walking declarations -/

/-- **Declarations in order**: each is made a definition, and then its name must be none of the names
before it. -/
def declare {α β : Type} (define : α → Except CompileError β) (name : α → String) :
    (seen : List String) → List α → Except CompileError (List β)
  | _, [] => .ok []
  | seen, decl :: rest => do
    let definition ← define decl
    if name decl ∈ seen then throw (.duplicateDefinition (name decl) none)
    let definitions ← declare define name (seen ++ [name decl]) rest
    return definition :: definitions

/-- The first name of a list that occurs before in it, or among the names already seen. -/
def firstRepeated : (seen : List String) → List String → Option String
  | _, [] => none
  | seen, name :: rest => if name ∈ seen then some name else firstRepeated (name :: seen) rest

/-! ## Enums -/

/-- **The definition of an enum.** Its values must have different names. -/
def EnumDecl.define (e : EnumDecl) : Except CompileError EnumDef :=
  match firstRepeated [] (e.values.map (·.name)) with
  | some value => .error (.duplicateDefinition value (some e.name))
  | none =>
    let values := e.values.map fun v => (v.name, (⟨v.name, v.docs⟩ : EnumValueDef))
    .ok ⟨e.name, e.docs, (Dict.ofList values).sortKeys⟩

/-! ## Fields -/

/-- The type of a field; a field without one has the type that means nothing. -/
def FieldDecl.typeOrNone (f : FieldDecl) : TypeDecl := f.type.getD ⟨0, 0, -1⟩

/-- **What a field's type means.** -/
structure FieldType where
  base : BaseType
  /-- The type of a vector's elements. -/
  element : Option BaseType
  /-- The list that the type index addresses, `none` when there is no index. -/
  target : Option Target
  deriving DecidableEq

/-- **The meaning of a field's type.** The base code must be that of a base type; of a vector the element
code, too; and a type index must have a list to address – objects for objects and vectors of them, enums
for scalars and strings. -/
def TypeDecl.meaning (t : TypeDecl) (object field : String) : Except CompileError FieldType := do
  let unhandled := CompileError.unhandledFieldType object field t.base
  let some base := BaseType.ofCode? t.base | throw (unhandled none t.index)
  let element ←
    if base = .vector then
      match BaseType.ofCode? t.element with
      | none => throw (unhandled (some t.element) t.index)
      | some .none => pure none
      | some element => pure (some element)
    else pure none
  if t.index = -1 then return ⟨base, element, none⟩
  else if base = .obj ∨ element = some .obj then return ⟨base, element, some .object⟩
  else if base.isScalarOrString then return ⟨base, element, some .enum⟩
  else throw (unhandled (element.map BaseType.code) t.index)

/-- **The names of a schema's enums and objects**, in the order of declaration, which type indices
address. -/
structure Names where
  enums : List String
  objects : List String

/-- The names of the list that a type index addresses. -/
def Names.of (names : Names) : Target → List String
  | .enum => names.enums
  | .object => names.objects

/-- **What a type index leads to**: the name at its position, or nothing. -/
def Names.resolve (names : Names) (target : Target) (index : Int32) : Reference :=
  match if 0 ≤ index.toInt then (names.of target)[index.toInt.toNat]? else none with
  | some name => .resolved name
  | none => .unresolved target index

/-- **The definition of a field.** -/
def FieldDecl.define (names : Names) (object : String) (f : FieldDecl) :
    Except CompileError FieldDef := do
  let type := f.typeOrNone
  let meaning ← type.meaning object f.name
  let attributes := attributeMap f.attributes
  return {
    name := f.name
    id := f.id
    offset := f.offset
    base := meaning.base
    element := meaning.element
    index := type.index
    reference := meaning.target.map fun target => names.resolve target type.index
    docs := f.docs
    attributes := if attributes.isEmpty then none else some attributes
  }

/-- **What the log says about a field**: nothing, unless its type index leads nowhere. -/
def FieldDef.anomaly? (f : FieldDef) (object : String) : Option Anomaly :=
  match f.reference with
  | some (.unresolved target index) => some ⟨object, f.name, target, index⟩
  | _ => none

/-! ## Objects -/

/-- **An object with all its fields**, the repeated ones included. -/
structure CheckedObject where
  decl : ObjectDecl
  fields : List FieldDef

/-- An object whose fields have been checked, in order. -/
def ObjectDecl.check (names : Names) (o : ObjectDecl) : Except CompileError CheckedObject := do
  return ⟨o, ← o.fields.mapM (FieldDecl.define names o.name)⟩

/-- **The definition of an object.** Of the fields of one name the last is kept. -/
def CheckedObject.define (o : CheckedObject) : TableDef where
  name := o.decl.name
  docs := o.decl.docs
  isStruct := o.decl.isStruct
  fields := .ofList (o.fields.map fun f => (f.name, f))

/-- What the log says about an object. -/
def CheckedObject.anomalies (o : CheckedObject) : List Anomaly :=
  o.fields.filterMap (·.anomaly? o.decl.name)

/-! ## Services -/

/-- **The definition of a member.** Its attributes are checked first, then its kind and its stream. -/
def CallDecl.define (service : String) (c : CallDecl) : Except CompileError SlotDef := do
  let attributes ←
    restrictAttributes (service ++ "." ++ c.name) (attributeMap c.attributes) memberAttributes
  let kind ← memberKind service c.name (attributeValue attributes "type")
  let stream ← streamModifier service c.name (attributeValue attributes "stream")
  return {
    name := c.name
    kind := kind
    request := payloadType c.request
    response := payloadType c.response
    stream := stream
    docs := c.docs
    attributes := attributes
  }

/-- **The definition of an interface.** Of the members of one name the last is kept. -/
def ServiceDecl.define (s : ServiceDecl) : Except CompileError InterfaceDef := do
  let attributes ← restrictAttributes s.name (attributeMap s.attributes) interfaceAttributes
  checkInterface s.name (attributeValue attributes "type")
  let slots ← s.calls.mapM (CallDecl.define s.name)
  return {
    name := s.name
    uuid := attributeValue attributes "uuid"
    docs := s.docs
    attributes := attributes
    slots := .ofList (slots.map fun slot => (slot.name, slot))
  }

/-! ## The catalog -/

/-- A list in the order of the names of its elements. -/
def sortByName {α : Type} (name : α → String) (items : List α) : List α :=
  items.mergeSort fun a b => decide (name a ≤ name b)

/-- **The position to which halving narrows a window of a sorted list**, in search of a name. The upper
half is kept unless its first name is greater. -/
def narrow {α : Type} (name : α → String) (sorted : List α) (target : String) (base size : Nat)
    (h : base + size ≤ sorted.length) : Nat :=
  if hsize : 1 < size then
    let half := size / 2
    if target < name sorted[base + half] then
      narrow name sorted target base (size - half) (by omega)
    else
      narrow name sorted target (base + half) (size - half) (by omega)
  else base
termination_by size

/-- **Where a name stands in a list sorted by names**, by binary search. -/
def position? {α : Type} (name : α → String) (sorted : List α) (target : String) : Option Nat :=
  let position := narrow name sorted target 0 sorted.length (by omega)
  if (sorted[position]?.map name) = some target then some position else none

/-- **Where the definitions of a sorted list stand**, for the names in the order of declaration. A name
that is not found has no entry. -/
def indexEntries {α : Type} (name : α → String) (kind : Nat → DefinitionRef) (sorted : List α)
    (names : List String) : List (String × DefinitionRef) :=
  names.filterMap fun n => (position? name sorted n).map fun i => (n, kind i)

/-- **The catalog of a schema's declarations.** -/
def SchemaDecl.compile (s : SchemaDecl) (source : Source) : Except CompileError Catalog := do
  let names : Names := ⟨s.enums.map (·.name), s.objects.map (·.name)⟩
  let enums ← declare EnumDecl.define (·.name) [] s.enums
  let objects ← declare (ObjectDecl.check names) (·.name) names.enums s.objects
  let interfaces ←
    declare ServiceDecl.define (·.name) (names.enums ++ names.objects) s.services
  let sortedEnums := sortByName EnumDef.name enums
  let sortedTables := sortByName TableDef.name (objects.map CheckedObject.define)
  let sortedInterfaces := sortByName InterfaceDef.name interfaces
  return {
    info := {
      filename := source.filename
      filepath := source.filepath
      fileIdent := s.fileIdent
      fileExt := s.fileExt
      root := s.root.map (·.name)
    }
    enums := sortedEnums
    tables := sortedTables
    interfaces := sortedInterfaces
    index := .ofList <|
      indexEntries EnumDef.name .enum sortedEnums names.enums ++
        indexEntries TableDef.name .table sortedTables names.objects ++
        indexEntries InterfaceDef.name .interface sortedInterfaces (s.services.map (·.name))
    anomalies := objects.flatMap CheckedObject.anomalies
  }

/-- **The catalog of a reflection schema.** -/
def compile (b : Buffer) (source : Source) : Except CompileError Catalog :=
  match readSchema b with
  | .error cause => .error (.malformed cause)
  | .ok schema => schema.compile source

end InterfaceSchema
