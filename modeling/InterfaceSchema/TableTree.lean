import InterfaceSchema.Table
import InterfaceSchema.Writer

/-!
# Laying out tables

How a tree of tables becomes bytes. The unit is the `Block`: bytes that mean the same wherever they are
put, because every offset in them is relative and leads forward, into the block itself. A block is
addressed at its `entry`, which for a table is not its first byte – the vtable stands before it.

**One rule lays out everything.** A record (`Block.record`) is a header, then a row of cells, then the
blocks that the cells refer to, one after the other. A cell is either bytes that stand in the row itself
or an offset word to a block; since the lengths of all blocks are known, the word is computed and not
filled in later. A table is such a record whose header is the distance back to its vtable, a vector one
whose header is its length, and a whole file one without a header.

A `SlotValue` says what a slot of a table holds, tables within tables included, and a `TableTree` is a
table as the list of its filled slots: the row of the table holds the fields in the order of that list,
and the vtable says where each slot's field stands.
-/

namespace InterfaceSchema

/-- **Bytes that mean the same at any position**, with the position in them at which they are
addressed. -/
structure Block where
  /-- The bytes. -/
  bytes : List UInt8
  /-- Where an offset to the block leads, counted from its first byte. -/
  entry : Nat
  /-- An offset to the block leads to one of its bytes. -/
  entry_lt : entry < bytes.length
  deriving DecidableEq

/-- **One cell of a record's row.** -/
inductive Cell where
  /-- Bytes that stand in the row. -/
  | inline (bytes : List UInt8)
  /-- An offset word to a block after the row. -/
  | ref (block : Block)
  deriving DecidableEq

namespace Cell

/-- The bytes a cell takes in the row. -/
def width : Cell → Nat
  | inline bytes => bytes.length
  | ref _ => 4

/-- The bytes a cell has after the row. -/
def body : Cell → List UInt8
  | inline _ => []
  | ref block => block.bytes

end Cell

namespace Block

/-- **The row of a record**, whose next byte is byte `here` of the record and whose next block will
start at byte `there` of it. Offset words are cut to four bytes. -/
def row : (here there : Nat) → List Cell → List UInt8
  | _, _, [] => []
  | here, there, .inline bytes :: rest => bytes ++ row (here + bytes.length) there rest
  | here, there, .ref block :: rest =>
    LittleEndian.encode 4 (there + block.entry - here) ++
      row (here + 4) (there + block.bytes.length) rest

/-- The length of a row. -/
def rowWidth : List Cell → Nat
  | [] => 0
  | cell :: rest => cell.width + rowWidth rest

/-- **A record**: a header, a row of cells, and the blocks the cells refer to, in the order of the
cells. -/
def record (header : List UInt8) (cells : List Cell) : List UInt8 :=
  header ++ row header.length (header.length + rowWidth cells) cells ++ cells.flatMap Cell.body

/-- A row is as long as its cells are wide. -/
@[simp] theorem length_row (here there : Nat) (cells : List Cell) :
    (row here there cells).length = rowWidth cells := by
  induction cells generalizing here there with
  | nil => rfl
  | cons cell rest ih =>
    cases cell with
    | inline bytes => simp [row, rowWidth, Cell.width, ih]
    | ref block => simp [row, rowWidth, Cell.width, ih]

/-- The length of a record. -/
theorem length_record (header : List UInt8) (cells : List Cell) :
    (record header cells).length =
      header.length + rowWidth cells + (cells.flatMap Cell.body).length := by
  simp [record, Nat.add_assoc]

/-- **A string**, addressed at its length word. -/
def string (text : String) : Block where
  bytes := (Datum.string text).bytes
  entry := 0
  entry_lt := by
    show 0 < (Datum.string text).width
    rw [Datum.width_string]
    exact Nat.succ_pos _

/-- **A vector of blocks**, addressed at its length word, which is cut to four bytes. -/
def vector (blocks : List Block) : Block where
  bytes := record (LittleEndian.encode 4 blocks.length) (blocks.map .ref)
  entry := 0
  entry_lt := by
    rw [length_record, LittleEndian.length_encode]
    omega

/-! ## Tables -/

/-- The number of vtable entries a table needs: one for each slot up to the highest it fills. -/
def entryCount (slots : List (Nat × Cell)) : Nat :=
  slots.foldl (fun count slot => max count (slot.1 + 1)) 0

/-- Where the field of `slot` stands in the table, counted from its first word, when the fields from
byte `here` on are `slots`. Zero means that the slot is not filled; of a slot that is filled twice the
last field counts. -/
def fieldOffset (slot : Nat) : (here : Nat) → List (Nat × Cell) → Nat
  | _, [] => 0
  | here, (filled, cell) :: rest =>
    let later := fieldOffset slot (here + cell.width) rest
    if later ≠ 0 then later else if filled = slot then here else 0

/-- The size of the vtable of a table. -/
def vtableSize (slots : List (Nat × Cell)) : Nat := 4 + 2 * entryCount slots

/-- **The vtable of a table**: its size, the table's size, and where each slot's field stands. Sizes and
entries are cut to two bytes. -/
def vtable (slots : List (Nat × Cell)) : List UInt8 :=
  LittleEndian.encode 2 (vtableSize slots) ++
    (LittleEndian.encode 2 (4 + rowWidth (slots.map Prod.snd)) ++
      ((List.range (entryCount slots)).map fun slot => fieldOffset slot 4 slots).flatMap
        (LittleEndian.encode 2))

/-- A vtable is as long as it says. -/
@[simp] theorem length_vtable (slots : List (Nat × Cell)) :
    (vtable slots).length = vtableSize slots := by
  simp only [vtable, vtableSize, List.length_append, LittleEndian.length_encode,
    LittleEndian.length_flatMap_encode, List.length_map, List.length_range]
  omega

/-- **A table**, addressed at its first word, which says how far back its vtable begins: the vtable, and
right after it the table. -/
def table (slots : List (Nat × Cell)) : Block where
  bytes :=
    vtable slots ++ record (LittleEndian.encode 4 (vtableSize slots)) (slots.map Prod.snd)
  entry := vtableSize slots
  entry_lt := by
    rw [List.length_append, length_vtable, length_record, LittleEndian.length_encode]
    omega

/-- **A whole file**: the offset of the root table, the four bytes that identify the format, and the
root table. -/
def file (identifier : List UInt8) (root : Block) : List UInt8 :=
  record [] [.ref root, .inline identifier]

end Block

/-! ## Trees -/

/-- **What a slot of a table holds.** -/
inductive SlotValue where
  /-- A scalar, which stands in the table's row. -/
  | scalar (datum : Datum)
  /-- A string. -/
  | string (text : String)
  /-- A vector of strings. -/
  | strings (texts : List String)
  /-- A table, by its filled slots. -/
  | table (slots : List (Nat × SlotValue))
  /-- A vector of tables, each by its filled slots. -/
  | tables (items : List (List (Nat × SlotValue)))

/-- **A table, by the slots it fills.** -/
abbrev TableTree := List (Nat × SlotValue)

mutual

/-- The cell of what a slot holds. -/
def SlotValue.cell : SlotValue → Cell
  | .scalar datum => .inline datum.bytes
  | .string text => .ref (.string text)
  | .strings texts => .ref (.vector (texts.map .string))
  | .table slots => .ref (.table (TableTree.cells slots))
  | .tables items => .ref (.vector (TableTree.blocks items))

/-- The cells of a table's slots. -/
def TableTree.cells : List (Nat × SlotValue) → List (Nat × Cell)
  | [] => []
  | (slot, value) :: rest => (slot, value.cell) :: TableTree.cells rest

/-- The blocks of a vector of tables. -/
def TableTree.blocks : List (List (Nat × SlotValue)) → List Block
  | [] => []
  | slots :: rest => .table (TableTree.cells slots) :: TableTree.blocks rest

end

/-- **The block of a table.** -/
def TableTree.block (t : TableTree) : Block := .table (TableTree.cells t)

/-- **A block put at the end of what has been written**, and the position an offset to it leads to. -/
def Writer.place (w : Writer) (block : Block) : Writer × Nat :=
  (w.append block.bytes, w.size + block.entry)

end InterfaceSchema
