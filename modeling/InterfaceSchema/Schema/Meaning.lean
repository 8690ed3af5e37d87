import InterfaceSchema.Schema.Declaration
import InterfaceSchema.Schema.Spec
import Mathlib.Algebra.Group.Nat.Defs

/-!
# What a description declares

A description says more than it writes down: a field without an id has one, a file without an extension
has the empty one, and a documentation line is read without the white space around it. `SchemaSpec.decl` is
the schema that a description stands for, all of it, told without any bytes.

Two limits come with the format. **Ids stop at 32765**, for the vtable entry of a greater one would lie
beyond what two bytes can say, and **a schema is shorter than four gigabytes**, the reach of an offset. What
`SchemaSpec.WithinLimits` holds of can be stored and read back.
-/

namespace InterfaceSchema

/-- **The attribute of a key and a value.** The value `0` stands for none. -/
def AttributeDecl.ofPair (pair : String × String) : AttributeDecl where
  key := pair.1
  value := if pair.2 = "0" then none else some pair.2

/-- The declaration of an enum value. -/
def EnumValueSpec.decl (v : EnumValueSpec) : EnumValueDecl where
  name := v.name
  value := v.value
  unionType := none
  docs := v.docs.map trim

/-- The declaration of an enum. -/
def EnumSpec.decl (e : EnumSpec) : EnumDecl where
  name := e.name
  values := e.values.map EnumValueSpec.decl
  isUnion := e.isUnion
  underlying := some ⟨e.underlying.code, 0, -1⟩
  attributes := e.attributes.map .ofPair
  docs := e.docs.map trim

/-- **The number of a field at its position**: the id it is given, or else the position itself. -/
def FieldSpec.number (f : FieldSpec) (position : Nat) : Nat := (f.id.map UInt16.toNat).getD position

/-- The declaration of a field at its position. -/
def FieldSpec.decl (f : FieldSpec) (position : Nat) : FieldDecl where
  name := f.name
  type := some ⟨f.base, f.element, f.index⟩
  id := UInt16.ofNat (f.number position)
  offset := f.offset.getD (UInt16.ofNat (4 + 2 * f.number position))
  defaultInteger := 0
  defaultReal := 0
  deprecated := f.deprecated
  required := f.required
  key := false
  attributes := f.attributes.map .ofPair
  docs := f.docs.map trim

/-- The declaration of an object. -/
def ObjectSpec.decl (o : ObjectSpec) : ObjectDecl where
  name := o.name
  fields := o.fields.mapIdx fun position f => f.decl position
  isStruct := o.isStruct
  minAlign := 0
  byteSize := 0
  attributes := o.attributes.map .ofPair
  docs := o.docs.map trim

/-- The declaration of a call. -/
def CallSpec.decl (c : CallSpec) : CallDecl where
  name := c.name
  request := c.request
  response := c.response
  attributes := c.attributes.map .ofPair
  docs := c.docs.map trim

/-- The declaration of a service. -/
def ServiceSpec.decl (s : ServiceSpec) : ServiceDecl where
  name := s.name
  calls := s.calls.map CallSpec.decl
  attributes := s.attributes.map .ofPair
  docs := s.docs.map trim

/-- **The schema that a description stands for.** -/
def SchemaSpec.decl (s : SchemaSpec) : SchemaDecl where
  fileIdent := s.fileIdent.getD ""
  fileExt := s.fileExt.getD ""
  root := s.rootObject.map ObjectSpec.decl
  enums := s.enums.map EnumSpec.decl
  objects := s.objects.map ObjectSpec.decl
  services := s.services.map ServiceSpec.decl

/-- The greatest id of a field. -/
def maxFieldId : Nat := 32765

/-- **The fields of an object have ids in range.** -/
def ObjectSpec.IdsInRange (o : ObjectSpec) : Prop :=
  ∀ position (h : position < o.fields.length), o.fields[position].number position ≤ maxFieldId

instance (o : ObjectSpec) : Decidable o.IdsInRange :=
  inferInstanceAs (Decidable (∀ position (h : position < o.fields.length),
    o.fields[position].number position ≤ maxFieldId))

/-- **A description that the format can store.** -/
structure SchemaSpec.WithinLimits (s : SchemaSpec) : Prop where
  ids : ∀ o ∈ s.objects, o.IdsInRange
  size : s.bytes.length < 2 ^ 32

instance (s : SchemaSpec) : Decidable s.WithinLimits :=
  decidable_of_iff ((∀ o ∈ s.objects, o.IdsInRange) ∧ s.bytes.length < 2 ^ 32)
    ⟨fun h => ⟨h.1, h.2⟩, fun h => ⟨h.ids, h.size⟩⟩

end InterfaceSchema
