import InterfaceSchema.Proofs.Layout.Blocks

/-!
# Reading trees back

A tree of tables that is laid out in a buffer reads as itself. `Table.Stores` says that a table stands where
a tree was laid out, and the theorems of this module are what each reader of a slot answers there: the
value that fills the slot, or the default when the slot was left empty. A reader of a table within a table
answers a table that stores the inner tree, and a reader of a vector a list of tables that store its items,
in order; so what holds of one table is carried through the whole tree without another induction.

Which trees can be laid out is `SlotValue.Valid`: in each of their tables every slot is filled once, and
vtable and table are not longer than their two-byte sizes can say.
-/

namespace InterfaceSchema

/-! ## Trees as cells -/

/-- The cells of a tree are the cells of its slots. -/
theorem TableTree.cells_eq_map (tree : TableTree) :
    TableTree.cells tree = tree.map fun entry => (entry.1, entry.2.cell) := by
  induction tree with
  | nil => rw [TableTree.cells, List.map_nil]
  | cons entry tree ih => rw [TableTree.cells, ih, List.map_cons]

/-- The blocks of a vector are the blocks of its items. -/
theorem TableTree.blocks_eq_map (items : List TableTree) :
    TableTree.blocks items = items.map TableTree.block := by
  induction items with
  | nil => rw [TableTree.blocks, List.map_nil]
  | cons item items ih => rw [TableTree.blocks, ih, List.map_cons, TableTree.block]

/-- The slots that a tree fills. -/
theorem TableTree.map_fst_cells (tree : TableTree) :
    (TableTree.cells tree).map Prod.fst = tree.map Prod.fst := by
  rw [cells_eq_map, List.map_map]
  rfl

/-- **What can be laid out**: every table in it fits. -/
inductive SlotValue.Valid : SlotValue → Prop where
  | scalar (datum : Datum) : Valid (.scalar datum)
  | string (text : String) : Valid (.string text)
  | strings (texts : List String) : Valid (.strings texts)
  | table {slots : TableTree} (fits : Block.Fits (TableTree.cells slots))
      (values : ∀ entry ∈ slots, entry.2.Valid) : Valid (.table slots)
  | tables {items : List TableTree} (items_valid : ∀ item ∈ items, Valid (.table item)) :
      Valid (.tables items)

/-- **A table that stands where a tree was laid out.** -/
structure Table.Stores (t : Table) (tree : TableTree) : Prop where
  valid : (SlotValue.table tree).Valid
  storedAt : ∃ pos, t.pos = some pos ∧ tree.block.StoredAt t.buffer pos

namespace Table.Stores

variable {t : Table} {tree : TableTree} {slot : Nat}

/-- **A slot that is filled is found**, with its cell. -/
theorem field?_of_lookup (h : t.Stores tree) {value : SlotValue}
    (hlookup : tree.lookup slot = some value) :
    ∃ field, t.field? slot = some field ∧ value.cell.At t.buffer field ∧ value.Valid := by
  obtain ⟨pos, hpos, hstored⟩ := h.storedAt
  cases h.valid with
  | table fits values =>
    have hmem : (slot, value) ∈ tree := by
      obtain ⟨before, after, hsplit, -⟩ := List.lookup_eq_some_iff.mp hlookup
      rw [hsplit]
      exact List.mem_append_right _ List.mem_cons_self
    have hcell : (slot, value.cell) ∈ TableTree.cells tree := by
      rw [TableTree.cells_eq_map]
      exact List.mem_map_of_mem hmem
    obtain ⟨field, hfield, hat⟩ := Block.field?_of_mem hstored fits hcell
    refine ⟨field, ?_, hat, values _ hmem⟩
    rw [← hfield, ← hpos]

/-- **A slot that is not filled is absent.** -/
theorem field?_of_lookup_none (h : t.Stores tree) (hlookup : tree.lookup slot = none) :
    t.field? slot = none := by
  obtain ⟨pos, hpos, hstored⟩ := h.storedAt
  cases h.valid with
  | table fits values =>
    have hslot : slot ∉ (TableTree.cells tree).map Prod.fst := by
      rw [TableTree.map_fst_cells]
      intro hmem
      obtain ⟨entry, hentry, hslot⟩ := List.mem_map.mp hmem
      have hne := List.lookup_eq_none_iff.mp hlookup entry hentry
      simp [hslot] at hne
    rw [← Block.field?_of_not_mem hstored fits hslot, ← hpos]

/-! ## Scalars -/

/-- **A scalar is read back**, and so is one that was left out for being the default. -/
theorem scalar {α : Type} [DecidableEq α] (h : t.Stores tree) {datum : α → Datum}
    {read? : Buffer → Nat → Option α} {value default : α}
    (hread : ∀ {pos}, t.buffer.Holds pos (datum value).bytes → read? t.buffer pos = some value)
    (hlookup : tree.lookup slot
      = if value = default then none else some (.scalar (datum value))) :
    ((t.field? slot).bind (read? t.buffer)).getD default = value := by
  by_cases hdefault : value = default
  · rw [if_pos hdefault] at hlookup
    rw [h.field?_of_lookup_none hlookup, hdefault]
    rfl
  · rw [if_neg hdefault] at hlookup
    obtain ⟨field, hfield, hat, -⟩ := h.field?_of_lookup hlookup
    unfold SlotValue.cell at hat
    rw [hfield, Option.bind_some, hread hat, Option.getD_some]

/-! ## Offsets -/

/-- The offset in a slot leads to the block that was laid out for it. -/
theorem follow?_of_lookup (h : t.Stores tree) {value : SlotValue} {block : Block}
    (hlookup : tree.lookup slot = some value) (hcell : value.cell = .ref block) :
    ∃ target, (t.field? slot).bind t.buffer.follow? = some target ∧
      block.StoredAt t.buffer target ∧ value.Valid := by
  obtain ⟨field, hfield, hat, hvalid⟩ := h.field?_of_lookup hlookup
  rw [hcell] at hat
  obtain ⟨target, hfollow, hstored⟩ := hat
  exact ⟨target, by rw [hfield, Option.bind_some, hfollow], hstored, hvalid⟩

/-- **A string is read back**, one that is missing as missing. -/
theorem string? (h : t.Stores tree) {text : Option String}
    (hlookup : tree.lookup slot = text.map .string) : t.string? slot = text := by
  cases text with
  | none => rw [Table.string?, h.field?_of_lookup_none hlookup]; rfl
  | some text =>
    obtain ⟨target, hfollow, hstored, -⟩ := h.follow?_of_lookup hlookup (by rw [SlotValue.cell])
    rw [Table.string?, hfollow, Option.bind_some, Block.string?_of_storedAt hstored]

/-- **A table is read back** as one that stores the inner tree. -/
theorem table? (h : t.Stores tree) {inner : TableTree}
    (hlookup : tree.lookup slot = some (.table inner)) :
    ∃ t', t.table? slot = some t' ∧ t'.Stores inner := by
  obtain ⟨target, hfollow, hstored, hvalid⟩ := h.follow?_of_lookup hlookup (by rw [SlotValue.cell])
  refine ⟨⟨t.buffer, some target⟩, ?_, hvalid, target, rfl, hstored⟩
  cases hvalid with
  | table fits values =>
    rw [Table.table?, hfollow, Option.bind_some, Block.bind?_table hstored fits]

/-- A table that is missing is read as missing. -/
theorem table?_of_lookup_none (h : t.Stores tree) (hlookup : tree.lookup slot = none) :
    t.table? slot = none := by
  rw [Table.table?, h.field?_of_lookup_none hlookup]
  rfl

/-! ## Vectors -/

/-- **The strings of a vector are read back**, and none where there is no vector. -/
theorem strings (h : t.Stores tree) {texts : List String}
    (hlookup : tree.lookup slot = if texts.isEmpty then none else some (.strings texts)) :
    t.strings slot = texts := by
  cases texts with
  | nil => rw [Table.strings, Table.vector, h.field?_of_lookup_none hlookup]; rfl
  | cons text texts =>
    obtain ⟨target, hfollow, hstored, -⟩ := h.follow?_of_lookup hlookup (by rw [SlotValue.cell])
    rw [Table.strings, Table.vector, hfollow]
    refine List.forall₂_eq_eq_eq ▸ Block.forall₂_toList hstored ?_
    intro item _ word target hword hitem
    rw [Table.followString, hword, Option.bind_some, Block.string?_of_storedAt hitem,
      Option.getD_some]

/-- **The tables of a vector are read back** as tables that store its items. -/
theorem tables (h : t.Stores tree) {items : List TableTree}
    (hlookup : tree.lookup slot = some (.tables items)) :
    List.Forall₂ Table.Stores (t.tables slot) items := by
  obtain ⟨target, hfollow, hstored, hvalid⟩ := h.follow?_of_lookup hlookup (by rw [SlotValue.cell])
  cases hvalid with
  | tables items_valid =>
    rw [TableTree.blocks_eq_map] at hstored
    rw [Table.tables, Table.vector, hfollow]
    refine Block.forall₂_toList hstored ?_
    intro item hmem word target hword hitem
    cases items_valid item hmem with
    | table fits values =>
      rw [Table.follow, hword]
      simp only [Block.bind?_table hitem fits, Option.getD_some]
      exact ⟨.table fits values, target, rfl, hitem⟩

/-- There are no tables where there is no vector. -/
theorem tables_of_lookup_none (h : t.Stores tree) (hlookup : tree.lookup slot = none) :
    t.tables slot = [] := by
  rw [Table.tables, Table.vector, h.field?_of_lookup_none hlookup]
  rfl

end Table.Stores

end InterfaceSchema
