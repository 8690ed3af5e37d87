import InterfaceSchema.Catalog.Layouts
import InterfaceSchema.Catalog.References

/-!
# What a document tells

The way back from a JSON tree to the definitions it shows. A reader looks members up by their names and **takes
every string as it stands**; only the words of closed sets – base types, kinds, directions – are looked up.

One thing a tree does not say by itself: a reference is words, and a definition may have the name of a
placeholder. The index says which of the two the words are, **to a reader who knows how many enums and tables
there are**. A field that fits these numbers (`FieldDef.Fits`) is read as it was; a filtered document still tells
it, but no longer tells the numbers.

No command reads a document. The readers say what is in one.
-/

namespace InterfaceSchema

/-! ## Values -/

namespace Json

variable {α : Type}

/-- The string that a value is. -/
def string? : Json → Option String
  | string text => some text
  | _ => none

/-- What the string that a value is stands for. -/
def word? (parse : String → Option α) (value : Json) : Option α := value.string?.bind parse

/-- The truth value that a value is. -/
def bool? : Json → Option Bool
  | bool value => some value
  | _ => none

/-- The number that a value is. -/
def number? : Json → Option Int
  | number value => some value
  | _ => none

/-- What a value says, if it is not null. -/
def nullable? (read : Json → Option α) : Json → Option (Option α)
  | null => some none
  | value => (read value).map some

/-- What the elements of an array say. -/
def list? (read : Json → Option α) : Json → Option (List α)
  | array items => items.mapM read
  | _ => none

/-- **The map that an object is.** -/
def dict? (read : Json → Option α) : Json → Option (Dict α)
  | object members => (members.mapM fun member => (read member.2).map (Prod.mk member.1)).map .ofList
  | _ => none

/-- The value of a member. -/
def find? (value : Json) (name : String) : Option Json :=
  match value with
  | object members => members.lookup name
  | _ => none

/-- **What a member says.** -/
def member? (value : Json) (name : String) (read : Json → Option α) : Option α := (value.find? name).bind read

/-- What a member says that may be missing. -/
def given? (value : Json) (name : String) (read : Json → Option α) : Option (Option α) :=
  match value.find? name with
  | none => some none
  | some found => (read found).map some

end Json

/-- The kind of member that a word stands for. -/
def MemberKind.ofText? (text : String) : Option MemberKind := [procedure, topic].find? fun kind => kind.text == text

/-- The direction that a word stands for. -/
def Stream.ofText? (text : String) : Option Stream := [input, output, both].find? fun stream => stream.text == text

/-! ## Fields -/

/-- **A field fits numbers of enums and objects**: its reference leads somewhere just when its index is a
position among that many. -/
structure FieldDef.Fits (f : FieldDef) (count : Target → Nat) : Prop where
  resolved : ∀ n, f.reference = some (.resolved n) →
    ∃ target, f.target? = some target ∧ 0 ≤ f.index.toInt ∧ f.index.toInt < count target
  unresolved : ∀ target index, f.reference = some (.unresolved target index) →
    f.target? = some target ∧ f.index = index ∧ ¬ (0 ≤ f.index.toInt ∧ f.index.toInt < count target)

/-- The fields of a table fit numbers of enums and objects. -/
def TableDef.Fits (t : TableDef) (count : Target → Nat) : Prop :=
  ∀ entry ∈ t.fields.entries, entry.2.Fits count

/-- The fields of a definition fit numbers of enums and objects, if it has any. -/
def Definition.Fits (d : Definition) (count : Target → Nat) : Prop := ∀ t, d = .table t → t.Fits count

/-- Attributes read from a tree. -/
def Attributes.ofJson? (value : Json) : Option Attributes := value.dict? (Json.nullable? Json.string?)

/-- **What the words of a reference are**: a placeholder if the index of the field is no position of the list that
it addresses, and a name otherwise. -/
def FieldDef.referenceOf (f : FieldDef) (count : Target → Nat) (text : String) : Reference :=
  match f.target? with
  | none => .resolved text
  | some target =>
    if 0 ≤ f.index.toInt ∧ f.index.toInt < count target then .resolved text else .unresolved target f.index

/-- **A field read from a tree**, its reference last. -/
def FieldDef.ofJson? (count : Target → Nat) (value : Json) : Option FieldDef := do
  let f : FieldDef :=
    { name := ← value.member? "name" Json.string?
      id := .ofNat (← value.member? "id" Json.number?).toNat
      offset := .ofNat (← value.member? "offset" Json.number?).toNat
      base := ← value.member? "base_type" (Json.word? BaseType.ofName?)
      element := ← value.member? "element" (Json.nullable? (Json.word? BaseType.ofName?))
      index := .ofInt (← value.member? "index" Json.number?)
      reference := none
      docs := ← value.member? "docs" (Json.list? Json.string?)
      attributes := ← value.given? "attrs" Attributes.ofJson? }
  let text ← value.member? "referenced_type" (Json.nullable? Json.string?)
  return { f with reference := text.map (f.referenceOf count) }

/-! ## Definitions -/

/-- An enum value read from a tree. -/
def EnumValueDef.ofJson? (value : Json) : Option EnumValueDef := do
  return {
    name := ← value.member? "name" Json.string?
    docs := ← value.member? "docs" (Json.list? Json.string?) }

/-- An enum read from a tree. -/
def EnumDef.ofJson? (value : Json) : Option EnumDef := do
  return {
    name := ← value.member? "name" Json.string?
    docs := ← value.member? "docs" (Json.list? Json.string?)
    values := ← value.member? "values" (Json.dict? EnumValueDef.ofJson?) }

/-- A table read from a tree. -/
def TableDef.ofJson? (count : Target → Nat) (value : Json) : Option TableDef := do
  return {
    name := ← value.member? "name" Json.string?
    docs := ← value.member? "docs" (Json.list? Json.string?)
    isStruct := ← value.member? "is_struct" Json.bool?
    fields := ← value.member? "fields" (Json.dict? (FieldDef.ofJson? count)) }

/-- A member of an interface read from a tree. -/
def SlotDef.ofJson? (value : Json) : Option SlotDef := do
  return {
    name := ← value.member? "name" Json.string?
    kind := ← value.member? "type" (Json.word? MemberKind.ofText?)
    request := ← value.member? "in" (Json.nullable? Json.string?)
    response := ← value.member? "out" (Json.nullable? Json.string?)
    stream := ← value.member? "stream" (Json.nullable? (Json.word? Stream.ofText?))
    docs := ← value.member? "docs" (Json.list? Json.string?)
    attributes := ← value.member? "attrs" Attributes.ofJson? }

/-- An interface read from a tree. -/
def InterfaceDef.ofJson? (value : Json) : Option InterfaceDef := do
  return {
    name := ← value.member? "name" Json.string?
    uuid := ← value.member? "uuid" (Json.nullable? Json.string?)
    docs := ← value.member? "docs" (Json.list? Json.string?)
    attributes := ← value.member? "attrs" Attributes.ofJson?
    slots := ← value.member? "slots" (Json.dict? SlotDef.ofJson?) }

/-- **A definition read from a tree**, of the kind that the tree says. -/
def Definition.ofJson? (count : Target → Nat) (value : Json) : Option Definition := do
  let kind ← value.member? "type" Json.string?
  if kind = "enum" then return .enum (← EnumDef.ofJson? value)
  else if kind = "table" then return .table (← TableDef.ofJson? count value)
  else if kind = "interface" then return .interface (← InterfaceDef.ofJson? value)
  else none

/-- What is said about a schema as a whole, read from a tree. -/
def Meta.ofJson? (value : Json) : Option Meta := do
  return {
    filename := ← value.member? "filename" Json.string?
    filepath := ← value.member? "filepath" Json.string?
    fileIdent := ← value.member? "file_ident" Json.string?
    fileExt := ← value.member? "file_ext" Json.string?
    root := ← value.member? "root" (Json.nullable? Json.string?) }

/-! ## Layouts -/

/-- **A document read from a tree.** -/
def Document.ofJson? (count : Target → Nat) (value : Json) : Option Document := do
  return {
    info := ← value.member? "meta" Meta.ofJson?
    definitions := ← value.member? "uri" (Json.dict? (Definition.ofJson? count)) }

/-- **A listing read from a tree.** -/
def Listing.ofJson? (count : Target → Nat) (value : Json) : Option Listing := do
  return {
    info := ← value.member? "meta" Meta.ofJson?
    enums := ← value.member? "enums" (Json.list? EnumDef.ofJson?)
    tables := ← value.member? "tables" (Json.list? (TableDef.ofJson? count))
    interfaces := ← value.member? "services" (Json.list? InterfaceDef.ofJson?) }

end InterfaceSchema
