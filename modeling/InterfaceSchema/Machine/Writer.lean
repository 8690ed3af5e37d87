import InterfaceSchema.Machine.Reader
import InterfaceSchema.Writer

/-!
# Writing in machine words

The writing side of a buffer as a machine has it. Where a patch goes is a word of 64 bits, and any word may
be asked for: its last byte is found by a sum that may be no word, and the stretch up to there may not have
been written yet. Either **stops the program before a byte is changed**.

What a patch writes is a word of two or of four bytes, and nothing else. What is put at the end is any
`Datum`, and cannot fail.
-/

namespace InterfaceSchema.Machine

/-- **What a patch overwrites with.** -/
inductive PatchWord where
  /-- An unsigned two-byte word. -/
  | uint16 (value : UInt16)
  /-- A signed four-byte word. -/
  | int32 (value : Int32)
  /-- An unsigned four-byte word. -/
  | uint32 (value : UInt32)
  deriving DecidableEq

namespace PatchWord

/-- The word as a datum. -/
def datum : PatchWord → Datum
  | uint16 value => .uint16 value
  | int32 value => .int32 value
  | uint32 value => .uint32 value

/-- How many bytes a patch takes. -/
def width : PatchWord → UInt64
  | uint16 _ => 2
  | int32 _ => 4
  | uint32 _ => 4

end PatchWord

/-- **One step of writing.** -/
inductive Edit where
  /-- Put a datum at the end. -/
  | append (datum : Datum)
  /-- Overwrite the bytes from a position on with a word. -/
  | patch (pos : UInt64) (word : PatchWord)
  deriving DecidableEq

/-- **The bytes from a position on overwritten.** The end of the stretch is a sum of words, and the stretch
must have been written. -/
def patch (w : Writer) (pos : UInt64) (word : PatchWord) : Checked Writer := do
  let last ← add pos word.width
  if last.toNat ≤ w.size then
    return ⟨w.bytes.extract 0 pos.toNat ++ word.datum.bytes ++ w.bytes.extract last.toNat⟩
  else throw .index

/-- **One step.** Only a patch can be stopped. -/
def edit (w : Writer) : Edit → Checked Writer
  | .append datum => return w.append datum.bytes
  | .patch pos word => patch w pos word

/-- **A sequence of steps** up to the first that is stopped: what is written by then, and what stopped it. -/
def run (w : Writer) : List Edit → Writer × Option Fault
  | [] => (w, none)
  | e :: rest =>
    match edit w e with
    | .ok w' => run w' rest
    | .error fault => (w, some fault)

namespace Edit

/-- What a step writes. -/
def datum : Edit → Datum
  | append datum => datum
  | patch _ word => word.datum

/-- Where a step writes, when so much is written before it. -/
def pos (w : Writer) : Edit → UInt64
  | append _ => .ofNat w.size
  | patch pos _ => pos

/-- The step with its position as a number. -/
def exact : Edit → InterfaceSchema.Edit
  | append datum => .append datum
  | patch pos word => .patch pos.toNat word.datum

/-- The bytes that a step adds to the length. -/
def added : Edit → Nat
  | append datum => datum.width
  | patch _ _ => 0

/-- **A step that touches none of the bytes** of a stretch. -/
def Spares (pos length : Nat) : Edit → Prop
  | append _ => True
  | patch p word => ∀ i, pos ≤ i → i < pos + length → i < p.toNat ∨ p.toNat + word.datum.width ≤ i

end Edit

/-- The bytes that a sequence of steps adds to the length. -/
def added : List Edit → Nat
  | [] => 0
  | e :: rest => e.added + added rest

/-- **A datum is read at a position**, by the reader of its kind. -/
def ReadAt (b : Buffer) (pos : UInt64) : Datum → Prop
  | .bool value => bool? b pos = some value
  | .int8 value => int8? b pos = some value
  | .uint8 value => uint8? b pos = some value
  | .uint16 value => uint16? b pos = some value
  | .int32 value => int32? b pos = some value
  | .uint32 value => uint32? b pos = some value
  | .int64 value => int64? b pos = some value
  | .real bits => real? b pos = some bits
  | .raw bytes => slice? b pos (.ofNat bytes.length) = some bytes
  | .string text => string? b pos = .ok (some text)

end InterfaceSchema.Machine
