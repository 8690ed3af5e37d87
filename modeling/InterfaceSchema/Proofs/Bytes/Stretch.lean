import InterfaceSchema.Proofs.Bytes.Utf8
import InterfaceSchema.Writer
import Mathlib.Algebra.Group.Nat.Defs

/-!
# What stands where

To read back what was laid out is to know which bytes stand at a position. `Buffer.Holds` says it: a
buffer holds some bytes at a position when they are a stretch of it that starts there. Nothing is said of
what stands before or after, so a fact about a stretch is a fact in every buffer that holds it.

A stretch of several parts holds each of them (`Buffer.Holds.left`, `Buffer.Holds.right`), and every reader
of a buffer gives back the datum whose bytes stand where it reads.
-/

namespace InterfaceSchema

namespace Buffer

variable {b : Buffer} {pos : Nat}

/-- **Bytes that stand at a position** of a buffer. -/
def Holds (b : Buffer) (pos : Nat) (bytes : List UInt8) : Prop :=
  ∃ before after, before.length = pos ∧ b.toList = before ++ (bytes ++ after)

namespace Holds

/-- The first part of a stretch stands where the stretch does. -/
theorem left {xs ys : List UInt8} (h : b.Holds pos (xs ++ ys)) : b.Holds pos xs := by
  obtain ⟨before, after, hpos, hb⟩ := h
  exact ⟨before, ys ++ after, hpos, by rw [hb, List.append_assoc]⟩

/-- The second part of a stretch stands after the first. -/
theorem right {xs ys : List UInt8} (h : b.Holds pos (xs ++ ys)) :
    b.Holds (pos + xs.length) ys := by
  obtain ⟨before, after, hpos, hb⟩ := h
  refine ⟨before ++ xs, after, by rw [List.length_append, hpos], ?_⟩
  rw [hb, List.append_assoc, List.append_assoc]

/-- A stretch ends inside its buffer. -/
theorem add_length_le {bytes : List UInt8} (h : b.Holds pos bytes) :
    pos + bytes.length ≤ b.size := by
  obtain ⟨before, after, hpos, hb⟩ := h
  have hsize := congrArg List.length hb
  rw [length_toList, List.length_append, List.length_append] at hsize
  omega

/-- **A slice of a stretch's length is the stretch.** -/
theorem slice? {bytes : List UInt8} (h : b.Holds pos bytes) :
    b.slice? pos bytes.length = some bytes := by
  rw [slice?_eq_some b h.add_length_le]
  obtain ⟨before, after, rfl, hb⟩ := h
  rw [hb, List.drop_left, List.take_left]

/-- A word is read as the number it was written for, cut to its width. -/
theorem word? {width value : Nat} (h : b.Holds pos (LittleEndian.encode width value)) :
    b.word? width pos = some (value % LittleEndian.capacity width) := by
  have hs := h.slice?
  rw [LittleEndian.length_encode] at hs
  rw [Buffer.word?, hs, Option.map_some, LittleEndian.decode_encode]

/-- A number that fits its word is read back. -/
theorem word?_of_lt {width value : Nat} (h : b.Holds pos (LittleEndian.encode width value))
    (hlt : value < LittleEndian.capacity width) : b.word? width pos = some value := by
  rw [h.word?, Nat.mod_eq_of_lt hlt]

/-- **Of words in a row each is read back**, at a multiple of their width. -/
theorem words {width i : Nat} {values : List Nat}
    (h : b.Holds pos (values.flatMap (LittleEndian.encode width))) (hi : i < values.length)
    (hlt : values[i] < LittleEndian.capacity width) :
    b.word? width (pos + width * i) = some values[i] := by
  have hsplit := List.take_append_drop i values
  rw [List.drop_eq_getElem_cons hi] at hsplit
  rw [← hsplit, List.flatMap_append, List.flatMap_cons] at h
  have hrest := h.right.left
  rw [LittleEndian.length_flatMap_encode, List.length_take, Nat.min_eq_left (Nat.le_of_lt hi)]
    at hrest
  exact hrest.word?_of_lt hlt

/-! ## Scalars

A scalar is read at its own width as the value that was written. -/

/-- A byte. -/
theorem uint8? {value : UInt8} (h : b.Holds pos [value]) : b.uint8? pos = some value := by
  have hs : b.slice? pos 1 = some [value] := h.slice?
  rw [Buffer.uint8?, Buffer.word?, hs]
  simp

theorem int8? {value : Int8} (h : b.Holds pos (Datum.int8 value).bytes) :
    b.int8? pos = some value := by
  rw [Buffer.int8?, uint8? h]
  simp

theorem bool? {value : Bool} (h : b.Holds pos (Datum.bool value).bytes) :
    b.bool? pos = some value := by
  rw [Buffer.bool?, uint8? h]
  cases value <;> rfl

theorem uint16? {value : UInt16} (h : b.Holds pos (Datum.uint16 value).bytes) :
    b.uint16? pos = some value := by
  rw [Buffer.uint16?, h.word?_of_lt value.toNat_lt]
  simp

theorem uint32? {value : UInt32} (h : b.Holds pos (Datum.uint32 value).bytes) :
    b.uint32? pos = some value := by
  rw [Buffer.uint32?, h.word?_of_lt value.toNat_lt]
  simp

theorem int32? {value : Int32} (h : b.Holds pos (Datum.int32 value).bytes) :
    b.int32? pos = some value := by
  rw [Buffer.int32?, uint32? h]
  simp

theorem int64? {value : Int64} (h : b.Holds pos (Datum.int64 value).bytes) :
    b.int64? pos = some value := by
  rw [Buffer.int64?, h.word?_of_lt value.toUInt64.toNat_lt, Option.map_some, UInt64.ofNat_toNat,
    Int64.toInt64_toUInt64]

theorem real? {bits : UInt64} (h : b.Holds pos (Datum.real bits).bytes) :
    b.real? pos = some bits := by
  rw [Buffer.real?, h.word?_of_lt bits.toNat_lt, Option.map_some, UInt64.ofNat_toNat]

/-! ## Strings -/

/-- **A string is read back** where its length word stands, if its length fits that word. -/
theorem string? {text : String} (h : b.Holds pos (Datum.string text).bytes)
    (hlt : (Utf8.encode text).length < 2 ^ 32) : b.string? pos = some text := by
  have hword := h.left.left.word?_of_lt hlt
  have hbody := h.left.right.slice?
  rw [LittleEndian.length_encode] at hbody
  rw [Buffer.string?, hword]
  simp only [hbody, Option.map_some, Utf8.decode_encode]

end Holds

end Buffer

end InterfaceSchema
