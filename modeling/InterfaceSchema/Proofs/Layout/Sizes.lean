import InterfaceSchema.Proofs.Layout.Trees
import InterfaceSchema.Schema.Spec
import Mathlib.Algebra.Order.BigOperators.Group.List
import Mathlib.Algebra.Order.Ring.Nat

/-!
# How long a layout is

Nothing in a layout is aligned, and no block is stored for two references, so **the length of a record is a
sum over its cells**: each takes its width in the row and, if it is a reference, the bytes of its block after
the row. The length of a table is told by which slots it fills and how many bytes each takes
(`TableTree.sizes`), and that of a vector does not depend on the order of its items.
-/

namespace InterfaceSchema

/-- **The bytes a cell takes**, in the row and after it. -/
def Cell.size (cell : Cell) : Nat := cell.width + cell.body.length

namespace Block

/-- **A record is as long as its header and its cells.** -/
theorem length_record_eq_sum (header : List UInt8) (cells : List Cell) :
    (record header cells).length = header.length + (cells.map Cell.size).sum := by
  have hcells : rowWidth cells + (cells.flatMap Cell.body).length = (cells.map Cell.size).sum := by
    induction cells with
    | nil => rfl
    | cons cell rest ih =>
      rw [rowWidth, List.flatMap_cons, List.length_append, List.map_cons, List.sum_cons, ← ih,
        Cell.size]
      omega
  rw [length_record, ← hcells, Nat.add_assoc]

/-- A vector has a length word, and a word and a block for each element. -/
theorem length_vector (blocks : List Block) :
    (vector blocks).bytes.length = 4 + (blocks.map fun block => 4 + block.bytes.length).sum := by
  rw [vector, length_record_eq_sum, LittleEndian.length_encode, List.map_map]
  rfl

/-- A table has a vtable, a word that leads to it, and its cells. -/
theorem length_table (slots : List (Nat × Cell)) :
    (table slots).bytes.length
      = vtableSize slots + (4 + (slots.map fun slot => slot.2.size).sum) := by
  rw [table, List.length_append, length_vtable, length_record_eq_sum, LittleEndian.length_encode,
    List.map_map]
  rfl

/-- The number of vtable entries depends on which slots are filled, and on nothing else. -/
theorem entryCount_eq_foldl (slots : List (Nat × Cell)) :
    entryCount slots
      = (slots.map Prod.fst).foldl (fun count slot => max count (slot + 1)) 0 := by
  rw [List.foldl_map]
  rfl

end Block

/-! ## Trees -/

/-- The bytes of a table with all that it refers to. -/
def TableTree.size (tree : TableTree) : Nat := tree.block.bytes.length

/-- **The sizes of a table**: each slot that it fills, with the bytes that its value takes. -/
def TableTree.sizes (tree : TableTree) : List (Nat × Nat) :=
  tree.map fun entry => (entry.1, entry.2.cell.size)

/-- A table within a table takes a word and its block. -/
theorem SlotValue.size_table (tree : TableTree) :
    (SlotValue.table tree).cell.size = 4 + tree.size := by
  rw [SlotValue.cell]
  rfl

/-- **A vector of tables takes two words, and a word and a block for each table.** -/
theorem SlotValue.size_tables (items : List TableTree) :
    (SlotValue.tables items).cell.size = 8 + (items.map fun item => 4 + item.size).sum := by
  have hvector := Block.length_vector (items.map TableTree.block)
  rw [List.map_map] at hvector
  rw [SlotValue.cell, TableTree.blocks_eq_map, Cell.size, Cell.width, Cell.body, hvector,
    ← Nat.add_assoc]
  rfl

/-- Vectors of tables of the same lengths are of the same length. -/
theorem SlotValue.size_tables_map_congr {α : Type} {items : List α} {tree tree' : α → TableTree}
    (h : ∀ item ∈ items, (tree' item).size = (tree item).size) :
    (SlotValue.tables (items.map tree')).cell.size = (SlotValue.tables (items.map tree)).cell.size := by
  rw [size_tables, size_tables, List.map_map, List.map_map]
  refine congrArg (fun sizes => 8 + List.sum sizes) (List.map_congr_left fun item hitem => ?_)
  exact congrArg (4 + ·) (h item hitem)

/-- The order of the tables of a vector does not matter for its size. -/
theorem SlotValue.size_tables_eq_of_perm {items items' : List TableTree} (h : items'.Perm items) :
    (SlotValue.tables items').cell.size = (SlotValue.tables items).cell.size := by
  rw [size_tables, size_tables, (h.map _).sum_nat]

/-- A vector takes a word for each of its tables at least. -/
theorem SlotValue.length_le_size_tables (items : List TableTree) :
    4 * items.length ≤ (SlotValue.tables items).cell.size := by
  have hitems : 4 * items.length ≤ (items.map fun item => 4 + item.size).sum := by
    induction items with
    | nil => exact Nat.zero_le _
    | cons item rest ih =>
      rw [List.map_cons, List.sum_cons, List.length_cons]
      omega
  rw [size_tables]
  omega

namespace TableTree

/-- The length of a table, from the sizes of its slots. -/
theorem size_eq (tree : TableTree) :
    tree.size = 4 + 2 * (tree.sizes.map Prod.fst).foldl (fun count slot => max count (slot + 1)) 0
      + (4 + (tree.sizes.map Prod.snd).sum) := by
  have hslots : tree.sizes.map Prod.fst = (TableTree.cells tree).map Prod.fst := by
    rw [map_fst_cells, sizes, List.map_map]
    rfl
  have hcells : tree.sizes.map Prod.snd = (TableTree.cells tree).map fun slot => slot.2.size := by
    rw [cells_eq_map, sizes, List.map_map, List.map_map]
    rfl
  rw [hslots, hcells, ← Block.entryCount_eq_foldl]
  exact Block.length_table (TableTree.cells tree)

/-- **Tables with the same sizes are of the same length.** -/
theorem size_eq_of_sizes {tree tree' : TableTree} (h : tree'.sizes = tree.sizes) :
    tree'.size = tree.size := by
  rw [size_eq, size_eq, h]

/-- What a slot holds is no longer than the table. -/
theorem size_le_of_mem {tree : TableTree} {slot : Nat} {value : SlotValue}
    (h : (slot, value) ∈ tree) : value.cell.size ≤ tree.size := by
  have hsize : value.cell.size ∈ tree.sizes.map Prod.snd := by
    rw [sizes, List.map_map]
    exact List.mem_map_of_mem h
  have hle := List.le_sum_of_mem hsize
  rw [size_eq]
  omega

@[simp] theorem sizes_append (tree tree' : TableTree) :
    sizes (tree ++ tree') = tree.sizes ++ tree'.sizes := List.map_append

@[simp] theorem sizes_slot (n : Nat) (value : SlotValue) :
    (slot n value).sizes = [(n, value.cell.size)] := rfl

@[simp] theorem sizes_slotIf (present : Bool) (n : Nat) (value : SlotValue) :
    (slotIf present n value).sizes = if present then [(n, value.cell.size)] else [] := by
  cases present <;> rfl

@[simp] theorem sizes_tableSlot (n : Nat) (tree : Option TableTree) :
    (tableSlot n tree).sizes = ((tree.map TableTree.size).map fun size => (n, 4 + size)).toList := by
  cases tree with
  | none => rfl
  | some tree =>
    rw [Option.map_some, Option.map_some, Option.toList_some, ← SlotValue.size_table]
    rfl

end TableTree

end InterfaceSchema
