import InterfaceSchema.Catalog.Compile

/-!
# Which references lead somewhere

A type index counts positions in one of two lists, and its type says in which: **an object or a vector of
objects counts objects, a scalar or a string counts enums**, and no other type counts anything. The index
leads somewhere when it is the position of a declaration in that list.

Nothing here compiles a field or writes a log. `SchemaDecl.failedReferences` reads off the declarations which
references lead nowhere; what the log of a catalog has to say is the theory of `CheckedObject.anomalies`.
-/

namespace InterfaceSchema

/-- **The list that the index of a type addresses**, by its base type and that of its elements. -/
def BaseType.target? (base : BaseType) (element : Option BaseType) : Option Target :=
  if base = .obj ∨ element = some .obj then some .object
  else if base.isScalarOrString then some .enum
  else Option.none

/-- The list that the index of a declared type addresses. Only a vector has elements. -/
def TypeDecl.target? (t : TypeDecl) : Option Target :=
  (BaseType.ofCode? t.base).bind fun base =>
    base.target? (if base = .vector then BaseType.ofCode? t.element else none)

/-- The list that the index of a field addresses. -/
def FieldDef.target? (f : FieldDef) : Option Target := f.base.target? f.element

/-- The list in which a definition was declared, if an index can address it. -/
def Definition.target? : Definition → Option Target
  | enum _ => some .enum
  | table _ => some .object
  | interface _ => none

/-- The names that the type indices of a schema address, in the order of declaration. -/
def SchemaDecl.typeNames (s : SchemaDecl) : Names := ⟨s.enums.map (·.name), s.objects.map (·.name)⟩

/-- **An index is a position of a list.** -/
def Names.InRange (names : Names) (target : Target) (index : Int32) : Prop :=
  0 ≤ index.toInt ∧ index.toInt < (names.of target).length

instance (names : Names) (target : Target) (index : Int32) : Decidable (names.InRange target index) :=
  inferInstanceAs (Decidable (_ ∧ _))

/-- **The reference of a declared field, if it leads nowhere**: there is an index, and it is no position of
the list that the type addresses. -/
def FieldDecl.failedReference? (names : Names) (object : String) (f : FieldDecl) : Option Anomaly :=
  let t := f.typeOrNone
  t.target?.bind fun target =>
    if t.index = -1 ∨ names.InRange target t.index then none
    else some ⟨object, f.name, target, t.index⟩

/-- The references of an object that lead nowhere, in the order of its fields, the repeated ones
included. -/
def ObjectDecl.failedReferences (names : Names) (o : ObjectDecl) : List Anomaly :=
  o.fields.filterMap (FieldDecl.failedReference? names o.name)

/-- **The references of a schema that lead nowhere**, in the order of declaration. -/
def SchemaDecl.failedReferences (s : SchemaDecl) : List Anomaly :=
  s.objects.flatMap (ObjectDecl.failedReferences s.typeNames)

end InterfaceSchema
