import InterfaceSchema.Catalog.Basic
import InterfaceSchema.Json.Basic

/-!
# Documents

A catalog as a JSON tree, in one of two layouts. **By name**, the document maps each qualified name, in
the order of declaration, to its definition, which says by a leading member `type` of which kind it is.
**As a listing**, it holds three arrays of definitions, each in the order of names; there the array says
the kind, and the definitions are otherwise the same, member for member.

A filter on names chooses the definitions that are shown. It never touches what is said about the schema
as a whole.
-/

namespace InterfaceSchema

/-- **How a catalog is laid out.** -/
inductive Layout where
  /-- A map from qualified names to definitions. -/
  | byName
  /-- Three sorted lists of definitions. -/
  | listing
  deriving DecidableEq

/-- The word for a layout. -/
def Layout.text : Layout → String
  | byName => "uri"
  | listing => "listing"

/-- **The layout a word asks for**, or what is wrong with the word. -/
def Layout.ofText (text : String) : Except String Layout :=
  if text = "uri" then .ok .byName
  else if text = "listing" then .ok .listing
  else .error ("unknown layout \"" ++ text ++ "\", expected \"uri\" or \"listing\"")

/-! ## The members of definitions -/

/-- Attributes as a JSON object. -/
def Attributes.json (attributes : Attributes) : Json :=
  .object (attributes.entries.map fun entry => (entry.1, .ofString? entry.2))

/-- An enum value as a JSON object. -/
def EnumValueDef.json (v : EnumValueDef) : Json :=
  .object [("name", .string v.name), ("docs", .strings v.docs)]

/-- The members of an enum. -/
def EnumDef.members (e : EnumDef) : List (String × Json) :=
  [("name", .string e.name),
   ("docs", .strings e.docs),
   ("values", .object (e.values.entries.map fun entry => (entry.1, entry.2.json)))]

/-- A field as a JSON object. A field without attributes has no member for them. -/
def FieldDef.json (f : FieldDef) : Json :=
  .object <|
    [("name", .string f.name),
     ("id", .number f.id.toNat),
     ("offset", .number f.offset.toNat),
     ("base_type", .string f.base.name),
     ("element", .ofString? (f.element.map BaseType.name)),
     ("index", .number f.index.toInt),
     ("referenced_type", .ofString? (f.reference.map Reference.text)),
     ("docs", .strings f.docs)] ++
    (match f.attributes with
      | none => []
      | some attributes => [("attrs", Attributes.json attributes)])

/-- The members of a table. -/
def TableDef.members (t : TableDef) : List (String × Json) :=
  [("name", .string t.name),
   ("docs", .strings t.docs),
   ("is_struct", .bool t.isStruct),
   ("fields", .object (t.fields.entries.map fun entry => (entry.1, entry.2.json)))]

/-- A member of an interface as a JSON object. -/
def SlotDef.json (s : SlotDef) : Json :=
  .object
    [("name", .string s.name),
     ("type", .string s.kind.text),
     ("in", .ofString? s.request),
     ("out", .ofString? s.response),
     ("stream", .ofString? (s.stream.map Stream.text)),
     ("docs", .strings s.docs),
     ("attrs", Attributes.json s.attributes)]

/-- The members of an interface. -/
def InterfaceDef.members (i : InterfaceDef) : List (String × Json) :=
  [("name", .string i.name),
   ("uuid", .ofString? i.uuid),
   ("docs", .strings i.docs),
   ("attrs", Attributes.json i.attributes),
   ("slots", .object (i.slots.entries.map fun entry => (entry.1, entry.2.json)))]

/-- The members of a definition of any kind. -/
def Definition.members : Definition → List (String × Json)
  | .enum d => d.members
  | .table d => d.members
  | .interface d => d.members

/-- The word for the kind of a definition. -/
def Definition.kindText : Definition → String
  | .enum _ => "enum"
  | .table _ => "table"
  | .interface _ => "interface"

/-- What is said about a schema as a whole, as a JSON object. -/
def Meta.json (m : Meta) : Json :=
  .object
    [("filename", .string m.filename),
     ("filepath", .string m.filepath),
     ("file_ident", .string m.fileIdent),
     ("file_ext", .string m.fileExt),
     ("root", .ofString? m.root)]

/-! ## The layouts -/

namespace Catalog

/-- **The document by name**, of the definitions whose names pass a filter. -/
def byName (c : Catalog) (keep : String → Bool) : Json :=
  .object
    [("meta", c.info.json),
     ("uri", .object <| (c.entries.filter fun entry => keep entry.1).map fun entry =>
        (entry.1, .object (("type", .string entry.2.kindText) :: entry.2.members)))]

/-- **The listing**, of the definitions whose names pass a filter. -/
def listing (c : Catalog) (keep : String → Bool) : Json :=
  .object
    [("meta", c.info.json),
     ("enums", .array <| (c.enums.filter fun d => keep d.name).map fun d => .object d.members),
     ("tables", .array <| (c.tables.filter fun d => keep d.name).map fun d => .object d.members),
     ("services",
        .array <| (c.interfaces.filter fun d => keep d.name).map fun d => .object d.members)]

/-- **The document of a catalog** in a layout, under a filter on names. -/
def document (c : Catalog) (layout : Layout) (keep : String → Bool) : Json :=
  match layout with
  | .byName => c.byName keep
  | .listing => c.listing keep

/-- **The text of a catalog**: its document, compact or pretty. -/
def render (c : Catalog) (layout : Layout) (pretty : Bool) (keep : String → Bool) : String :=
  let document := c.document layout keep
  if pretty then document.pretty else document.compact

/-- The compact document by name, with nothing filtered out. -/
def defaultText (c : Catalog) : String := c.render .byName false fun _ => true

end Catalog

end InterfaceSchema
