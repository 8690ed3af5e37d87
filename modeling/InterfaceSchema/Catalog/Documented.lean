import InterfaceSchema.Schema.Meaning

/-!
# What a catalog documents

A schema can say more than a catalog tells. The numbers of enum values, whether an enum is a union and what
stores it, the attributes of enums and objects, the defaults of fields and whether they are required or
deprecated, the alignment and the size of objects: **none of it shows in a catalog**.

`SchemaDecl.documented` is the schema that says nothing of all that. `SchemaSpec.documented` is the same of a
description, which has fewer things to say; the schemas of two descriptions can be told apart by a catalog
only if their documented parts differ.
-/

namespace InterfaceSchema

/-! ## Declarations -/

/-- An enum value without its number and its type. -/
def EnumValueDecl.documented (v : EnumValueDecl) : EnumValueDecl := { v with value := 0, unionType := none }

/-- An enum that is no union and has no attributes, its values without numbers. -/
def EnumDecl.documented (e : EnumDecl) : EnumDecl :=
  { e with
    values := e.values.map EnumValueDecl.documented
    isUnion := false
    underlying := none
    attributes := [] }

/-- A field without defaults and marks. -/
def FieldDecl.documented (f : FieldDecl) : FieldDecl :=
  { f with defaultInteger := 0, defaultReal := 0, deprecated := false, required := false, key := false }

/-- An object without alignment, size and attributes, its fields without defaults and marks. -/
def ObjectDecl.documented (o : ObjectDecl) : ObjectDecl :=
  { o with fields := o.fields.map FieldDecl.documented, minAlign := 0, byteSize := 0, attributes := [] }

/-- **A schema that says no more than a catalog tells.** -/
def SchemaDecl.documented (s : SchemaDecl) : SchemaDecl :=
  { s with
    root := s.root.map ObjectDecl.documented
    enums := s.enums.map EnumDecl.documented
    objects := s.objects.map ObjectDecl.documented }

/-! ## Descriptions -/

/-- An enum value without its number. -/
def EnumValueSpec.documented (v : EnumValueSpec) : EnumValueSpec := { v with value := 0 }

/-- An enum that is no union and has no attributes, its values without numbers. -/
def EnumSpec.documented (e : EnumSpec) : EnumSpec :=
  { e with values := e.values.map EnumValueSpec.documented, isUnion := false, attributes := [] }

/-- A field that is neither required nor deprecated. -/
def FieldSpec.documented (f : FieldSpec) : FieldSpec := { f with required := false, deprecated := false }

/-- An object without attributes, its fields neither required nor deprecated. -/
def ObjectSpec.documented (o : ObjectSpec) : ObjectSpec :=
  { o with fields := o.fields.map FieldSpec.documented, attributes := [] }

/-- **A description that says no more than a catalog tells.** -/
def SchemaSpec.documented (s : SchemaSpec) : SchemaSpec :=
  { s with enums := s.enums.map EnumSpec.documented, objects := s.objects.map ObjectSpec.documented }

end InterfaceSchema
