import InterfaceSchema.Catalog.Document

/-!
# Documents and listings as data

A catalog can be laid out before it is a tree. **A document** maps names to definitions and is filled through
the index; it can be filtered once it is there. **A listing** holds the three sorted lists, filtered as they
are taken from the catalog. And **a catalog by itself** has a tree, too: what it says about the schema and its
three lists, without its index and its log.

The trees of `Catalog.Document` are those of filtered documents and listings; that, and that the three ways
show the same definitions, is the theory of this module.
-/

namespace InterfaceSchema

/-- A map without the entries whose keys fail a test. -/
def Dict.filterKeys {α : Type} (keep : String → Bool) (d : Dict α) : Dict α where
  entries := d.entries.filter fun entry => keep entry.1
  nodup := (List.filter_sublist.map _).nodup d.nodup

/-- The tree of a definition that says by a leading member of which kind it is. -/
def Definition.json (d : Definition) : Json :=
  .object (("type", .string d.kindText) :: d.members)

/-- **Definitions by name**, with what is said about the schema as a whole. -/
structure Document where
  info : Meta
  definitions : Dict Definition

namespace Document

/-- **A document without the definitions whose names fail a test.** -/
def retain (d : Document) (keep : String → Bool) : Document :=
  { d with definitions := d.definitions.filterKeys keep }

/-- The tree of a document. -/
def json (d : Document) : Json :=
  .object
    [("meta", d.info.json),
     ("uri", .object (d.definitions.entries.map fun entry => (entry.1, entry.2.json)))]

end Document

/-- **Definitions in three lists**, with what is said about the schema as a whole. -/
structure Listing where
  info : Meta
  enums : List EnumDef
  tables : List TableDef
  interfaces : List InterfaceDef

namespace Listing

/-- **A listing without the definitions whose names fail a test.** -/
def retain (l : Listing) (keep : String → Bool) : Listing :=
  { l with
    enums := l.enums.filter fun d => keep d.name
    tables := l.tables.filter fun d => keep d.name
    interfaces := l.interfaces.filter fun d => keep d.name }

/-- The tree of a listing. -/
def json (l : Listing) : Json :=
  .object
    [("meta", l.info.json),
     ("enums", .array (l.enums.map fun d => .object d.members)),
     ("tables", .array (l.tables.map fun d => .object d.members)),
     ("services", .array (l.interfaces.map fun d => .object d.members))]

end Listing

namespace Catalog

/-- **The document of all definitions**, in the order of the index. -/
def toDocument (c : Catalog) : Document := ⟨c.info, .ofList c.entries⟩

/-- **The listing of the definitions whose names pass a test.** -/
def toListing (c : Catalog) (keep : String → Bool) : Listing where
  info := c.info
  enums := c.enums.filter fun d => keep d.name
  tables := c.tables.filter fun d => keep d.name
  interfaces := c.interfaces.filter fun d => keep d.name

/-- **The tree of a catalog by itself**, without its index and its log. -/
def json (c : Catalog) : Json :=
  .object
    [("meta", c.info.json),
     ("enums", .array (c.enums.map fun d => .object d.members)),
     ("tables", .array (c.tables.map fun d => .object d.members)),
     ("services", .array (c.interfaces.map fun d => .object d.members))]

end Catalog

end InterfaceSchema
