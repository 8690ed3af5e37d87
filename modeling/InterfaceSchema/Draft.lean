import InterfaceSchema.TableTree

/-!
# Writing tables front to back

A tree of tables is written in one pass. What a table refers to is written after it, so the offset words of
its row are left open as **gaps** and filled once their targets are known: a gap is four zero bytes, and
filling it is a patch.

**Three things can go wrong on the way.** A number may be cut when it is stored in a word; a gap may be
filled with a distance that leads back, or where nothing was written; and a value may be asked for at a place
where values of its kind do not stand. The last two stop the writing, and so a `Job` – the writing of one
value – may have no result. The first does not, and neither would a gap that is never filled. A `Draft`
therefore notes, beside the bytes, each number that was put into a word, each gap, and each word that was
filled. No step reads these notes.

`TableTree.write` is the writing of a whole tree. What it writes is the block of the tree, in which every
offset is computed beforehand (`TableTree.block`).
-/

namespace InterfaceSchema

/-- **A number put into a word**, with the least number that is too great for the word. -/
structure Cut where
  /-- The number. -/
  value : Nat
  /-- How many numbers the word holds, counted from zero. -/
  limit : Nat
  deriving DecidableEq

/-- **An offset word that was filled.** -/
structure Link where
  /-- Where the word stands. -/
  word : Nat
  /-- Where it leads. -/
  target : Nat
  deriving DecidableEq

/-- **A buffer that is being laid out**, with the notes that are taken. -/
structure Draft where
  /-- What is written. -/
  writer : Writer
  /-- The numbers that were put into words, in order. -/
  cuts : List Cut := []
  /-- Where the gaps are, in order. -/
  gaps : List Nat := []
  /-- The gaps that were filled, in order. -/
  links : List Link := []
  deriving DecidableEq

namespace Draft

/-- The number of bytes written so far. -/
def size (d : Draft) : Nat := d.writer.size

/-- Bytes put at the end. -/
def put (d : Draft) (bytes : List UInt8) : Draft := { d with writer := d.writer.append bytes }

/-- A note of a number that is put into a word. -/
def cut (d : Draft) (value limit : Nat) : Draft := { d with cuts := d.cuts ++ [⟨value, limit⟩] }

/-- A number put at the end as an unsigned two-byte word. -/
def uint16 (d : Draft) (value : Nat) : Draft :=
  (d.cut value UInt16.size).put (Datum.uint16 (.ofNat value)).bytes

/-- A number put at the end as an unsigned four-byte word. -/
def uint32 (d : Draft) (value : Nat) : Draft :=
  (d.cut value UInt32.size).put (Datum.uint32 (.ofNat value)).bytes

/-- A number put at the end as a signed four-byte word. -/
def int32 (d : Draft) (value : Nat) : Draft :=
  (d.cut value (UInt32.size / 2)).put (Datum.int32 (.ofNat value)).bytes

/-- **An offset word left open.** -/
def gap (d : Draft) : Draft := { d.put (Datum.uint32 0).bytes with gaps := d.gaps ++ [d.size] }

/-- **An offset word filled** with the distance to its target, which must not lead back, if the word has been
written. -/
def fill? (d : Draft) (word target : Nat) : Option Draft :=
  if target < word then none
  else
    (d.writer.patch? word (Datum.uint32 (.ofNat (target - word))).bytes).map fun writer =>
      { d.cut (target - word) UInt32.size with writer, links := d.links ++ [⟨word, target⟩] }

end Draft

/-- **The writing of one value**: the draft afterwards and where an offset to the value leads. -/
abbrev Job := Draft → Option (Draft × Nat)

/-- **Gaps filled one after the other**: the value of each is written, and the gap leads there. -/
def Draft.fillAll? : List (Nat × Job) → Draft → Option Draft
  | [], d => some d
  | (word, job) :: rest, d => do
    let (d, target) ← job d
    let d ← d.fill? word target
    fillAll? rest d

/-- **A field of a table**: its slot, the bytes it takes in the row, those bytes where they are not an offset,
and how to write what it refers to where they are. -/
structure Field where
  /-- The slot. -/
  slot : Nat
  /-- The bytes it takes in the row. -/
  width : Nat
  /-- What stands in the row, unless it is an offset. -/
  inline? : Option (List UInt8)
  /-- The writing of the value. -/
  job : Job

/-- **Where the fields of a table stand**: each goes behind those before it, and the entry of its slot says
so. With the entries comes the size of the table. -/
def Draft.fieldOffsets? : List Field → (here : Nat) → List UInt16 → Draft →
    Option (Draft × List UInt16 × Nat)
  | [], here, offsets, d => some (d, offsets, here)
  | field :: rest, here, offsets, d =>
    if field.slot < offsets.length then
      fieldOffsets? rest (here + field.width) (offsets.set field.slot (.ofNat here))
        (d.cut here UInt16.size)
    else none

/-- **The row of a table**, and the values that are still to be written, each with the gap it is for. -/
def Draft.row : List Field → Draft → Draft × List (Nat × Job)
  | [], d => (d, [])
  | field :: rest, d =>
    match field.inline? with
    | some bytes => row rest (d.put bytes)
    | none =>
      let (d', deferred) := row rest d.gap
      (d', (d.size, field.job) :: deferred)

namespace Job

/-- A string. -/
def string (text : String) : Job := fun d =>
  some ((d.cut (Utf8.encode text).length UInt32.size).put (Datum.string text).bytes, d.size)

/-- **A vector**: its length, a gap for each element, and the elements. -/
def vector (items : List Job) : Job := fun d => do
  let pos := d.size
  let d := d.uint32 items.length
  let elements := d.size
  let d := items.foldl (fun d _ => d.gap) d
  let d ← d.fillAll? (items.zipIdx.map fun (job, i) => (elements + 4 * i, job))
  return (d, pos)

/-- **A table**: its vtable, the way back to it, its row, and what the row refers to. -/
def table (fields : List Field) : Job := fun d => do
  let entries := ((fields.map fun field => field.slot + 1).max?).getD 0
  let (d, offsets, size) ← d.fieldOffsets? fields 4 (List.replicate entries 0)
  let vtable := d.size
  let d := (d.uint16 (4 + 2 * entries)).uint16 size
  let d := d.put (offsets.flatMap fun offset => (Datum.uint16 offset).bytes)
  let pos := d.size
  let d := d.int32 (pos - vtable)
  let (d, deferred) := d.row fields
  let d ← d.fillAll? deferred
  return (d, pos)

end Job

/-- The bytes that what a slot holds takes in the row. -/
def SlotValue.inlineWidth : SlotValue → Nat
  | .scalar datum => datum.extent
  | .string _ | .strings _ | .table _ | .tables _ => 4

/-- What stands in the row, unless it is an offset. -/
def SlotValue.inline? : SlotValue → Option (List UInt8)
  | .scalar datum => some datum.bytes
  | .string _ | .strings _ | .table _ | .tables _ => none

mutual

/-- **The writing of what a slot refers to.** A scalar stands in the row, and nothing else can be written of
it. -/
def SlotValue.job : SlotValue → Job
  | .scalar _ => fun _ => none
  | .string text => .string text
  | .strings texts => .vector (texts.map .string)
  | .table slots => .table (TableTree.fields slots)
  | .tables items => .vector (TableTree.jobs items)

/-- The fields of a table. -/
def TableTree.fields : List (Nat × SlotValue) → List Field
  | [] => []
  | (slot, value) :: rest => ⟨slot, value.inlineWidth, value.inline?, value.job⟩ :: TableTree.fields rest

/-- The writing of each of some tables. -/
def TableTree.jobs : List (List (Nat × SlotValue)) → List Job
  | [] => []
  | slots :: rest => .table (TableTree.fields slots) :: TableTree.jobs rest

end

/-- **The writing of a tree** behind what has been written. -/
def TableTree.write (tree : TableTree) (w : Writer) : Option (Draft × Nat) :=
  Job.table (TableTree.fields tree) ⟨w, [], [], []⟩

end InterfaceSchema
