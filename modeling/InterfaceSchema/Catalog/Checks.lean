import InterfaceSchema.Catalog.Compile

/-!
# What a schema must satisfy to compile

The checks of a schema, as a list. A check is a condition on the declarations and the error that reports
its failure; `SchemaDecl.checks` lists all of them **in the order in which they are reported**: enums,
objects and services in turn, of each declaration first its members, in order, and then its name.

Nothing here computes a definition. A condition on a repeated member or attribute is a condition on the
list as declared: every occurrence is checked, and where one value counts it is that of the last
occurrence. `firstFailure` picks the error of the first check that does not hold.
-/

namespace InterfaceSchema

/-- **A check**: whether it holds, and the error if it does not. -/
structure Check where
  holds : Bool
  error : CompileError

/-- **The error of the first check that fails**, if one does. -/
def firstFailure (checks : List Check) : Option CompileError :=
  (checks.find? fun c => !c.holds).map Check.error

/-- **Each element of a list with the elements before it.** -/
def withEarlier {α : Type} (items : List α) : List (List α × α) :=
  items.zipIdx.map fun (item, position) => (items.take position, item)

/-- A name must be none of the names before it. -/
def Check.newName (name : String) (earlier : List String) : Check :=
  ⟨decide (name ∉ earlier), .duplicateDefinition name none⟩

/-! ## Enums -/

/-- **The checks of an enum**: no value has the name of an earlier one. -/
def EnumDecl.checks (e : EnumDecl) : List Check :=
  (withEarlier e.values).map fun (earlier, v) =>
    ⟨decide (v.name ∉ earlier.map (·.name)), .duplicateDefinition v.name (some e.name)⟩

/-! ## Objects -/

/-- The codes of the base types. -/
def baseTypeCodes : List Int8 := BaseType.all.map BaseType.code

/-- **Whether a type index has a list to address**: that of the objects for an object or a vector of
them, that of the enums for a scalar or a string. -/
def TypeDecl.addresses (t : TypeDecl) : Bool :=
  t.base == BaseType.obj.code || (t.base == BaseType.vector.code && t.element == BaseType.obj.code) ||
    ((BaseType.all.filter BaseType.isScalarOrString).map BaseType.code).contains t.base

/-- **The checks of a field**: its base code is that of a type, if it is a vector its element code is,
too, and a type index other than `-1` has a list to address. The element is reported where there is one. -/
def FieldDecl.checks (object : String) (f : FieldDecl) : List Check :=
  let t := f.typeOrNone
  let isVector := t.base == BaseType.vector.code
  let unhandled element := CompileError.unhandledFieldType object f.name t.base element t.index
  [⟨baseTypeCodes.contains t.base, unhandled none⟩,
    ⟨!isVector || baseTypeCodes.contains t.element, unhandled (some t.element)⟩,
    ⟨t.index == -1 || t.addresses,
      unhandled (if isVector ∧ t.element ≠ BaseType.none.code then some t.element else none)⟩]

/-- **The checks of an object** are those of its fields, the repeated ones included. -/
def ObjectDecl.checks (o : ObjectDecl) : List Check := o.fields.flatMap (FieldDecl.checks o.name)

/-! ## Services -/

/-- **The checks of attributes**: every key is allowed. -/
def attributeChecks (entity : String) (allowed : List String) (attributes : List AttributeDecl) :
    List Check :=
  attributes.map fun a => ⟨allowed.contains a.key, .invalidAttribute entity a.key allowed⟩

/-- **The value that counts for a key**: that of its last occurrence, which may have none. -/
def lastValue (attributes : List AttributeDecl) (key : String) : Option String :=
  (attributes.reverse.find? fun a => a.key == key).bind (·.value)

/-- **The checks of a call**: its attributes, then its kind, then its stream modifier if it has one. -/
def CallDecl.checks (service : String) (c : CallDecl) : List Check :=
  let kind := lastValue c.attributes "type"
  attributeChecks (service ++ "." ++ c.name) memberAttributes c.attributes ++
    ⟨[some "procedure", some "topic"].contains kind, .invalidMemberType service c.name kind⟩ ::
      (lastValue c.attributes "stream").toList.map fun value =>
        ⟨(noStream ++ ["in", "out", "inout"]).contains value,
          .invalidStreamModifier service c.name value⟩

/-- **The checks of a service**: its attributes, then its type, then its calls, the repeated ones
included. -/
def ServiceDecl.checks (s : ServiceDecl) : List Check :=
  let type := lastValue s.attributes "type"
  attributeChecks s.name interfaceAttributes s.attributes ++
    ⟨type == some "interface", .invalidServiceType s.name type⟩ ::
      s.calls.flatMap (CallDecl.checks s.name)

/-! ## Schemas -/

/-- **The checks of declarations of one kind**, each followed by that of its name, which must be none of
the names of other kinds before it and none of its own kind. -/
def declarationChecks {α : Type} (checks : α → List Check) (name : α → String) (others : List String)
    (decls : List α) : List Check :=
  (withEarlier decls).flatMap fun (earlier, decl) =>
    checks decl ++ [.newName (name decl) (others ++ earlier.map name)]

/-- **The checks of a schema**, in the order in which they are reported. -/
def SchemaDecl.checks (s : SchemaDecl) : List Check :=
  let enumNames := s.enums.map (·.name)
  let objectNames := s.objects.map (·.name)
  declarationChecks EnumDecl.checks (·.name) [] s.enums ++
    declarationChecks ObjectDecl.checks (·.name) enumNames s.objects ++
    declarationChecks ServiceDecl.checks (·.name) (enumNames ++ objectNames) s.services

/-- **A schema is valid** when all its checks hold. -/
def SchemaDecl.Valid (s : SchemaDecl) : Prop := ∀ c ∈ s.checks, c.holds

instance (s : SchemaDecl) : Decidable s.Valid :=
  inferInstanceAs (Decidable (∀ c ∈ s.checks, c.holds))

end InterfaceSchema
