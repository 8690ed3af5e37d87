import InterfaceSchema.Schema.Slots
import InterfaceSchema.Buffer

/-!
# Which buffers have a root

What the gate of a reflection schema asks of the bytes, said of the bytes and in whole numbers: nothing is
read here, no step can fail, and no sum or difference is cut to a word. A buffer that is long enough and
carries the identifier is let in when its root offset is `Buffer.Bindable`, which is four inequalities
between that offset, the signed number that stands where it leads, and the length of the buffer.
-/

namespace InterfaceSchema.Buffer

/-- The four bytes from a position on as an unsigned number, the least significant byte first. -/
def unsignedAt (b : Buffer) (pos : Nat) : Nat := LittleEndian.decode ((b.toList.drop pos).take 4)

/-- The same four bytes as a signed number, in two's complement. -/
def signedAt (b : Buffer) (pos : Nat) : Int := (b.unsignedAt pos : Int).bmod Int32.size

/-- **The root offset**, the number that a buffer starts with. -/
def rootOffset (b : Buffer) : Nat := b.unsignedAt 0

/-- The four bytes behind the root offset are those that identify the format. -/
def Identified (b : Buffer) : Prop := (b.toList.drop 4).take 4 = fileIdentifier

/-- **A position where a table can be bound.** It is not in the header; the signed word that stands there is
inside the buffer; and as far back as that word says, which may be forward, there is room for the two sizes
that a vtable starts with. -/
structure Bindable (b : Buffer) (pos : Nat) : Prop where
  behind_header : headerSize ≤ pos
  word_inside : pos + 4 ≤ b.size
  vtable_nonneg : 0 ≤ pos - b.signedAt pos
  vtable_inside : pos - b.signedAt pos + 4 ≤ b.size

instance (b : Buffer) : Decidable b.Identified := decEq _ _

instance (b : Buffer) (pos : Nat) : Decidable (b.Bindable pos) :=
  decidable_of_iff (headerSize ≤ pos ∧ pos + 4 ≤ b.size ∧ 0 ≤ (pos : Int) - b.signedAt pos ∧
      (pos : Int) - b.signedAt pos + 4 ≤ b.size)
    ⟨fun ⟨h₁, h₂, h₃, h₄⟩ => ⟨h₁, h₂, h₃, h₄⟩, fun ⟨h₁, h₂, h₃, h₄⟩ => ⟨h₁, h₂, h₃, h₄⟩⟩

end InterfaceSchema.Buffer
