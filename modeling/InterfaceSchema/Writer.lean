import InterfaceSchema.Buffer

/-!
# Growing buffers

The writing side of a buffer. A `Writer` holds the bytes written so far; what is written is a `Datum` –
a scalar of some width, raw bytes, or a string – and a datum is nothing but its bytes (`Datum.bytes`), so
that appending and overwriting are one rule each for all kinds of data.

There are two `Edit`s. **Appending always succeeds** and changes no earlier byte. **A patch overwrites**
the bytes from a position on with a datum of the same length, and is refused when they are not all there
yet; a refused patch changes nothing. `Writer.run` performs a sequence of edits up to the first that is
refused.
-/

namespace InterfaceSchema

/-- **What can be written in one piece.** -/
inductive Datum where
  /-- A truth value, one byte. -/
  | bool (value : Bool)
  /-- A signed byte. -/
  | int8 (value : Int8)
  /-- An unsigned byte. -/
  | uint8 (value : UInt8)
  /-- An unsigned two-byte word. -/
  | uint16 (value : UInt16)
  /-- A signed four-byte word. -/
  | int32 (value : Int32)
  /-- An unsigned four-byte word. -/
  | uint32 (value : UInt32)
  /-- A signed eight-byte word. -/
  | int64 (value : Int64)
  /-- A real, by its 64 bits. -/
  | real (bits : UInt64)
  /-- Bytes as they are. -/
  | raw (bytes : List UInt8)
  /-- A string: its length in bytes, its UTF-8 form, and a closing NUL that the length does not count. -/
  | string (text : String)
  deriving DecidableEq

namespace Datum

/-- **The bytes of a datum**: numbers little-endian in their own width, signed ones in two's
complement. -/
def bytes : Datum → List UInt8
  | bool value => [if value then 1 else 0]
  | int8 value => [value.toUInt8]
  | uint8 value => [value]
  | uint16 value => LittleEndian.encode 2 value.toNat
  | int32 value => LittleEndian.encode 4 value.toUInt32.toNat
  | uint32 value => LittleEndian.encode 4 value.toNat
  | int64 value => LittleEndian.encode 8 value.toUInt64.toNat
  | real bits => LittleEndian.encode 8 bits.toNat
  | raw bytes => bytes
  | string text =>
    let body := Utf8.encode text
    LittleEndian.encode 4 body.length ++ body ++ [0]

/-- How many bytes a datum takes. -/
def width (d : Datum) : Nat := d.bytes.length

/-- A string takes its length word, its bytes and the closing NUL. -/
theorem width_string (text : String) : (string text).width = 4 + (Utf8.encode text).length + 1 := by
  simp [width, bytes, Nat.add_assoc]

/-- **How many bytes a datum takes**, kind by kind. A string takes its length word, its bytes and the closing
NUL. -/
def extent : Datum → Nat
  | bool _ => 1
  | int8 _ => 1
  | uint8 _ => 1
  | uint16 _ => 2
  | int32 _ => 4
  | uint32 _ => 4
  | int64 _ => 8
  | real _ => 8
  | raw bytes => bytes.length
  | string text => 4 + (Utf8.encode text).length + 1

/-- A datum has as many bytes as its kind says. -/
theorem width_eq_extent (d : Datum) : d.width = d.extent := by
  cases d with
  | string text => exact width_string text
  | bool _ | int8 _ | uint8 _ | raw _ => rfl
  | uint16 _ | int32 _ | uint32 _ | int64 _ | real _ => exact LittleEndian.length_encode _ _

end Datum

/-- **A buffer that is being written.** -/
structure Writer where
  /-- The bytes written so far. -/
  bytes : Array UInt8 := #[]
  deriving DecidableEq

/-- **One step of writing.** -/
inductive Edit where
  /-- Put a datum at the end. -/
  | append (datum : Datum)
  /-- Overwrite the bytes from a position on with a datum. -/
  | patch (pos : Nat) (datum : Datum)
  deriving DecidableEq

namespace Writer

/-- A writer that has written nothing. -/
def empty : Writer := {}

/-- The number of bytes written so far. -/
def size (w : Writer) : Nat := w.bytes.size

/-- The bytes written so far, in order. -/
def toList (w : Writer) : List UInt8 := w.bytes.toList

/-- The bytes written so far, as a buffer to read. -/
def buffer (w : Writer) : Buffer := ⟨w.bytes⟩

/-- **Bytes put at the end.** -/
def append (w : Writer) (bytes : List UInt8) : Writer := ⟨w.bytes ++ bytes⟩

/-- **The bytes from `pos` on overwritten**, if there are as many as are given. -/
def patch? (w : Writer) (pos : Nat) (bytes : List UInt8) : Option Writer :=
  if pos + bytes.length ≤ w.size then
    some ⟨w.bytes.extract 0 pos ++ bytes ++ w.bytes.extract (pos + bytes.length)⟩
  else none

/-- **One edit.** Only a patch can be refused. -/
def edit? (w : Writer) : Edit → Option Writer
  | .append datum => some (w.append datum.bytes)
  | .patch pos datum => w.patch? pos datum.bytes

/-- **A sequence of edits**, `none` when one of them is refused. -/
def run? (w : Writer) (edits : List Edit) : Option Writer := edits.foldlM edit? w

@[simp] theorem toList_append (w : Writer) (bytes : List UInt8) :
    (w.append bytes).toList = w.toList ++ bytes := by
  simp [append, toList]

/-- A patch that fits replaces exactly the bytes it covers. -/
theorem toList_patch? {w w' : Writer} {pos : Nat} {bytes : List UInt8}
    (h : w.patch? pos bytes = some w') :
    w'.toList = w.toList.take pos ++ bytes ++ w.toList.drop (pos + bytes.length) := by
  unfold patch? at h
  split at h
  · injection h with h
    subst h
    have hrest : (w.bytes.extract (pos + bytes.length)).toList =
        w.bytes.toList.drop (pos + bytes.length) := by
      rw [Array.toList_extract, List.extract_eq_take_drop]
      exact List.take_of_length_le (by simp)
    have hfirst : (w.bytes.extract 0 pos).toList = w.bytes.toList.take pos := by
      rw [Array.toList_extract, List.extract_eq_take_drop, Nat.sub_zero, List.drop_zero]
    have happend : (w.bytes.extract 0 pos ++ bytes).toList =
        (w.bytes.extract 0 pos).toList ++ bytes := Array.toList_appendList
    simp only [toList, Array.toList_append, happend, hfirst, hrest]
  · contradiction

/-- A patch is refused exactly when it would cross the end. -/
theorem patch?_eq_none_iff {w : Writer} {pos : Nat} {bytes : List UInt8} :
    w.patch? pos bytes = none ↔ w.size < pos + bytes.length := by
  simp [patch?]

end Writer

end InterfaceSchema
