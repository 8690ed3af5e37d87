import InterfaceSchema.Bytes.LittleEndian
import InterfaceSchema.Bytes.Utf8

/-!
# Read-only buffers

A reflection schema arrives as one block of bytes in which everything is addressed by position. A
`Buffer` is such a block, and reading it consumes nothing: each read names an absolute position, and the
same bytes may be read in any order, any number of times and at any width.

A position is an arbitrary natural number, so no read can overflow. **Every read is partial**: one that
would cross the end answers `none`, whatever the position. All of them go through `slice?`, which is the
only place where the bound is checked.

Offsets are unsigned words relative to the position they are stored at. Following one (`follow?`) never
leaves the buffer.
-/

namespace InterfaceSchema

/-- **A block of bytes that is read by position.** -/
structure Buffer where
  /-- The bytes. -/
  bytes : Array UInt8
  deriving DecidableEq

namespace Buffer

/-- A buffer with the given bytes. -/
def ofList (bytes : List UInt8) : Buffer := ⟨bytes.toArray⟩

/-- The bytes in order. -/
def toList (b : Buffer) : List UInt8 := b.bytes.toList

/-- The number of bytes. -/
def size (b : Buffer) : Nat := b.bytes.size

@[simp] theorem toList_ofList (bytes : List UInt8) : (ofList bytes).toList = bytes := rfl

@[simp] theorem length_toList (b : Buffer) : b.toList.length = b.size := rfl

/-! ## Slices and words -/

/-- **The `length` bytes from `pos` on**, if the buffer holds them all. -/
def slice? (b : Buffer) (pos length : Nat) : Option (List UInt8) :=
  if pos + length ≤ b.size then some (b.bytes.extract pos (pos + length)).toList else none

/-- A slice is a stretch of the bytes. -/
theorem slice?_eq_some (b : Buffer) {pos length : Nat} (h : pos + length ≤ b.size) :
    b.slice? pos length = some ((b.toList.drop pos).take length) := by
  simp [slice?, h, toList, List.extract_eq_take_drop]

/-- A slice that crosses the end is refused. -/
theorem slice?_eq_none (b : Buffer) {pos length : Nat} (h : b.size < pos + length) :
    b.slice? pos length = none := by
  simp [slice?, Nat.not_le.mpr h]

/-- **The number stored in the `width` bytes from `pos` on.** -/
def word? (b : Buffer) (width pos : Nat) : Option Nat :=
  (b.slice? pos width).map LittleEndian.decode

/-! ## Scalars

A signed number is the unsigned word of its width read in two's complement, and a truth value is any
byte that is not zero. A real is kept as its 64 bits: nothing here computes with it, and not-a-number
payloads survive. -/

/-- An unsigned byte. -/
def uint8? (b : Buffer) (pos : Nat) : Option UInt8 := (b.word? 1 pos).map UInt8.ofNat

/-- A signed byte. -/
def int8? (b : Buffer) (pos : Nat) : Option Int8 := (b.uint8? pos).map UInt8.toInt8

/-- A truth value. -/
def bool? (b : Buffer) (pos : Nat) : Option Bool := (b.uint8? pos).map (· != 0)

/-- An unsigned two-byte word. -/
def uint16? (b : Buffer) (pos : Nat) : Option UInt16 := (b.word? 2 pos).map UInt16.ofNat

/-- An unsigned four-byte word. -/
def uint32? (b : Buffer) (pos : Nat) : Option UInt32 := (b.word? 4 pos).map UInt32.ofNat

/-- A signed four-byte word. -/
def int32? (b : Buffer) (pos : Nat) : Option Int32 := (b.uint32? pos).map UInt32.toInt32

/-- A signed eight-byte word. -/
def int64? (b : Buffer) (pos : Nat) : Option Int64 :=
  (b.word? 8 pos).map fun n => (UInt64.ofNat n).toInt64

/-- The 64 bits of a real. -/
def real? (b : Buffer) (pos : Nat) : Option UInt64 := (b.word? 8 pos).map UInt64.ofNat

/-! ## Offsets and strings -/

/-- **The position an offset leads to**: the word stored at `pos`, counted from `pos`. An offset that
leads to the end or past it leads nowhere. -/
def follow? (b : Buffer) (pos : Nat) : Option Nat :=
  match b.word? 4 pos with
  | none => none
  | some distance => if pos + distance < b.size then some (pos + distance) else none

/-- **The string whose length word sits at `pos`.** Bytes that are not UTF-8 are replaced, not
rejected. -/
def string? (b : Buffer) (pos : Nat) : Option String :=
  match b.word? 4 pos with
  | none => none
  | some length => (b.slice? (pos + 4) length).map Utf8.decode

/-- An offset that is followed stays inside the buffer. -/
theorem follow?_lt {b : Buffer} {pos target : Nat} (h : b.follow? pos = some target) :
    target < b.size := by
  unfold follow? at h
  split at h
  · contradiction
  · split at h
    · injection h with h; omega
    · contradiction

end Buffer

end InterfaceSchema
