import InterfaceSchema.Buffer
import InterfaceSchema.Text

/-!
# Vectors of offsets

A vector in a reflection buffer is a length word followed by that many offset words, each of which leads
to an element – a table or a string. What an element is belongs to the reader that follows its offset, so
a vector here is only where its words stand, and decoding is a function of the position of one word.

**A vector never promises more than the buffer holds.** The declared length is cut down to the number of
whole words that follow the length word, so that every word of every vector can be read, however wild the
length that was declared.
-/

namespace InterfaceSchema

/-- **The offset words of a vector**: where the first stands and how many there are. -/
structure OffsetVector where
  /-- The buffer that holds the words. -/
  buffer : Buffer
  /-- The position of the first word. -/
  start : Nat
  /-- The number of words. -/
  length : Nat

/-- **An index past the end of a vector.** -/
structure IndexOutOfRange where
  /-- The index asked for. -/
  index : Nat
  /-- The length of the vector. -/
  length : Nat
  deriving DecidableEq

/-- The refusal in words. -/
def IndexOutOfRange.message (e : IndexOutOfRange) : String :=
  "index " ++ decimal e.index ++ " out of range for vector of length " ++ decimal e.length

namespace OffsetVector

/-- The vector without elements. -/
def empty (b : Buffer) : OffsetVector := ⟨b, 0, 0⟩

/-- **The vector whose length word sits at `pos`**, its length cut down to what the buffer holds. -/
def atPos (b : Buffer) (pos : Nat) : OffsetVector where
  buffer := b
  start := pos + 4
  length := min ((b.word? 4 pos).getD 0) ((b.size - (pos + 4)) / 4)

variable {α : Type}

/-- Where the offset word of element `i` stands. -/
def wordPos (v : OffsetVector) (i : Nat) : Nat := v.start + 4 * i

/-- **Element `i`**, decoded from its offset word. -/
def get (v : OffsetVector) (decode : Buffer → Nat → α) (i : Nat) : Except IndexOutOfRange α :=
  if i < v.length then .ok (decode v.buffer (v.wordPos i)) else .error ⟨i, v.length⟩

/-- **All elements in order.** -/
def toList (v : OffsetVector) (decode : Buffer → Nat → α) : List α :=
  (List.range v.length).map fun i => decode v.buffer (v.wordPos i)

@[simp] theorem length_toList (v : OffsetVector) (decode : Buffer → Nat → α) :
    (v.toList decode).length = v.length := by
  simp [toList]

/-- **Every word of a vector can be read**: a vector is empty or ends inside its buffer. -/
theorem atPos_inside (b : Buffer) (pos : Nat) :
    (atPos b pos).length = 0 ∨
      (atPos b pos).start + 4 * (atPos b pos).length ≤ b.size := by
  simp only [atPos]
  omega

/-! ## Walking a vector -/

/-- **A walk over a vector**: the elements from `next` on are still to come. -/
structure Cursor where
  /-- The vector that is walked. -/
  vector : OffsetVector
  /-- The index of the next element. -/
  next : Nat := 0

/-- A walk from the first element. -/
def cursor (v : OffsetVector) : Cursor := ⟨v, 0⟩

/-- How many elements are still to come. -/
def Cursor.remaining (c : Cursor) : Nat := c.vector.length - c.next

/-- **The next element and the walk after it**; at the end nothing, now and ever after. -/
def Cursor.step (c : Cursor) (decode : Buffer → Nat → α) : Option α × Cursor :=
  if c.next < c.vector.length then
    (some (decode c.vector.buffer (c.vector.wordPos c.next)), { c with next := c.next + 1 })
  else (none, c)

end OffsetVector

end InterfaceSchema
