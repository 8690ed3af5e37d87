import InterfaceSchema.Catalog.References
import InterfaceSchema.Schema.Meaning
import Mathlib.Logic.Equiv.Defs

/-!
# Declaring in another order

The enums, the objects and the services of a description can be declared in another order. **A position is
an address**, so an index has to follow the declaration it counts to: `SchemaSpec.reorder` puts each list
in another order and moves the index of every field, and the position of the root, along. An index that is
none stays, as does one that counts to no declaration, or whose type addresses no list.

Nothing else of a description changes. In particular the fields of an object keep their order, for a field
without an id has that of its position.
-/

namespace InterfaceSchema

variable {α : Type} {n : Nat}

/-! ## Positions -/

/-- **A list in another order**: an element goes where the permutation sends its position. -/
def permute (items : List α) (σ : Equiv.Perm (Fin items.length)) : List α :=
  .ofFn fun position => items[σ.symm position]

/-- **Where the element at a position goes.** What is no position stays. -/
def movePosition (σ : Equiv.Perm (Fin n)) (position : Nat) : Nat :=
  if h : position < n then σ ⟨position, h⟩ else position

/-- **Where the element goes that an index counts to.** An index that counts to none stays. -/
def moveIndex (σ : Equiv.Perm (Fin n)) (index : Int32) : Int32 :=
  if 0 ≤ index.toInt ∧ index.toInt < n then .ofNat (movePosition σ index.toInt.toNat) else index

/-! ## Descriptions -/

/-- The list that the index of a described field addresses. -/
def FieldSpec.target? (f : FieldSpec) : Option Target :=
  (⟨f.base, f.element, f.index⟩ : TypeDecl).target?

/-- **Another order of a description's declarations**, within each kind. -/
structure SchemaSpec.Reordering (s : SchemaSpec) where
  enums : Equiv.Perm (Fin s.enums.length)
  objects : Equiv.Perm (Fin s.objects.length)
  services : Equiv.Perm (Fin s.services.length)

namespace SchemaSpec.Reordering

variable {s : SchemaSpec}

/-- Where the declaration goes that an index into a list counts to. -/
def index (r : s.Reordering) : Target → Int32 → Int32
  | .enum => moveIndex r.enums
  | .object => moveIndex r.objects

/-- **A field whose index follows** what it counts to. -/
def field (r : s.Reordering) (f : FieldSpec) : FieldSpec :=
  match f.target? with
  | none => f
  | some target => { f with index := r.index target f.index }

/-- An object whose fields follow what they refer to. -/
def object (r : s.Reordering) (o : ObjectSpec) : ObjectSpec :=
  { o with fields := o.fields.map r.field }

end SchemaSpec.Reordering

/-- **The description with its declarations in another order.** -/
def SchemaSpec.reorder (s : SchemaSpec) (r : s.Reordering) : SchemaSpec where
  fileIdent := s.fileIdent
  fileExt := s.fileExt
  root := s.root.map (movePosition r.objects)
  enums := permute s.enums r.enums
  objects := (permute s.objects r.objects).map r.object
  services := permute s.services r.services

end InterfaceSchema
