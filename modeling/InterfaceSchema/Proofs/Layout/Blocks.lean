import InterfaceSchema.Proofs.Bytes.Stretch
import InterfaceSchema.Table
import InterfaceSchema.TableTree
import Mathlib.Data.List.Forall2
import Mathlib.Data.List.Nodup

/-!
# Reading blocks back

A block is laid out without knowing where it will stand. This module says what is found when it does
stand somewhere: `Block.StoredAt` places a block in a buffer, at the position that offsets to it lead to,
and `Cell.At` says the same of one cell of a row – the bytes of an inline cell stand there, the offset
word of a reference leads to its block.

Everything follows from one fact about records (`Block.cell_record`): each cell of a stored record is found
where the row puts it. The argument is an induction along the row that carries two positions, that of the
next cell and that of the next block, just as the layout itself does. Vectors are then read element by
element (`Block.forall₂_toList`), and a stored table is bound at its position and answers for each slot
whether its field is there, and where (`Block.field?_table`).
-/

namespace InterfaceSchema

/-- **A block in a buffer**, at the position that offsets to it lead to. A block of four gigabytes or more
is none, for no offset word could lead past it. -/
def Block.StoredAt (block : Block) (b : Buffer) (pos : Nat) : Prop :=
  ∃ start, pos = start + block.entry ∧ b.Holds start block.bytes ∧ block.bytes.length < 2 ^ 32

/-- **A cell in a buffer**: the bytes of an inline cell stand there, and the offset word of a reference
leads to its block. -/
def Cell.At (b : Buffer) (pos : Nat) : Cell → Prop
  | .inline bytes => b.Holds pos bytes
  | .ref block => ∃ target, b.follow? pos = some target ∧ block.StoredAt b target

/-- A stored block is addressed inside its buffer. -/
theorem Block.StoredAt.lt_size {block : Block} {b : Buffer} {pos : Nat}
    (h : block.StoredAt b pos) : pos < b.size := by
  obtain ⟨start, rfl, hb, -⟩ := h
  have hend := hb.add_length_le
  have hentry := block.entry_lt
  omega

namespace Block

variable {b : Buffer} {start pos : Nat}

/-! ## Records -/

/-- **An offset word leads to its block**, which stands behind it. -/
theorem ref_at {here there : Nat} {block : Block} (hle : here ≤ there)
    (hsmall : there + block.bytes.length < 2 ^ 32)
    (hword : b.Holds (start + here) (LittleEndian.encode 4 (there + block.entry - here)))
    (hblock : b.Holds (start + there) block.bytes) : (Cell.ref block).At b (start + here) := by
  have hentry := block.entry_lt
  have hstored : block.StoredAt b (start + there + block.entry) :=
    ⟨start + there, rfl, hblock, by omega⟩
  have htarget : start + here + (there + block.entry - here) = start + there + block.entry := by
    omega
  have hread := hword.word?_of_lt (show there + block.entry - here < 2 ^ 32 by omega)
  refine ⟨start + there + block.entry, ?_, hstored⟩
  rw [Buffer.follow?, hread]
  simp only [htarget, hstored.lt_size, if_true]

/-- **Each cell of a row is found where the row puts it**, when the blocks of the row stand where the row
takes them to be. -/
theorem cell_row {here there : Nat} {before after : List Cell} {cell : Cell}
    (hrow : b.Holds (start + here) (row here there (before ++ cell :: after)))
    (hbodies : b.Holds (start + there) ((before ++ cell :: after).flatMap Cell.body))
    (horder : here + rowWidth (before ++ cell :: after) ≤ there)
    (hsmall : there + ((before ++ cell :: after).flatMap Cell.body).length < 2 ^ 32) :
    cell.At b (start + here + rowWidth before) := by
  -- Each cell before moves the place of the next one, and a reference the place of the next block, too.
  induction before generalizing here there with
  | nil =>
    rw [rowWidth, Nat.add_zero]
    cases cell with
    | inline bytes => exact hrow.left
    | ref block =>
      rw [List.nil_append, List.flatMap_cons] at hbodies hsmall
      rw [List.nil_append, rowWidth, Cell.width] at horder
      rw [Cell.body, List.length_append] at hsmall
      exact ref_at (by omega) (by omega) hrow.left hbodies.left
  | cons first before ih =>
    rw [List.cons_append, List.flatMap_cons] at hbodies hsmall
    rw [List.cons_append, rowWidth] at horder
    rw [List.cons_append] at hrow
    rw [List.length_append] at hsmall
    cases first with
    | inline bytes =>
      have hrest : b.Holds (start + (here + bytes.length))
          (row (here + bytes.length) there (before ++ cell :: after)) := by
        rw [← Nat.add_assoc]
        exact hrow.right
      have hbodies' : b.Holds (start + there) ((before ++ cell :: after).flatMap Cell.body) := by
        simpa [Cell.body] using hbodies
      have hnext := ih hrest hbodies' (by rw [Cell.width] at horder; omega)
        (by rw [Cell.body] at hsmall; simpa using hsmall)
      rw [rowWidth, Cell.width, ← Nat.add_assoc]
      rw [← Nat.add_assoc] at hnext
      exact hnext
    | ref block =>
      have hrest : b.Holds (start + (here + 4))
          (row (here + 4) (there + block.bytes.length) (before ++ cell :: after)) := by
        have hright := hrow.right
        rwa [LittleEndian.length_encode, Nat.add_assoc] at hright
      have hbodies' : b.Holds (start + (there + block.bytes.length))
          ((before ++ cell :: after).flatMap Cell.body) := by
        rw [← Nat.add_assoc]
        exact hbodies.right
      have hnext := ih hrest hbodies' (by rw [Cell.width] at horder; omega)
        (by rw [Cell.body] at hsmall; omega)
      rw [rowWidth, Cell.width, ← Nat.add_assoc]
      rw [← Nat.add_assoc] at hnext
      exact hnext

/-- **Each cell of a record is found** after the header and the cells before it. -/
theorem cell_record {header : List UInt8} {before after : List Cell} {cell : Cell}
    (h : b.Holds start (record header (before ++ cell :: after)))
    (hsmall : (record header (before ++ cell :: after)).length < 2 ^ 32) :
    cell.At b (start + header.length + rowWidth before) := by
  rw [length_record] at hsmall
  have hbodies := h.right
  rw [List.length_append, length_row] at hbodies
  exact cell_row h.left.right hbodies (Nat.le_refl _) hsmall

/-! ## Files -/

/-- A file is its root offset, its identifier and its root block, in this order. -/
theorem file_eq (identifier : List UInt8) (root : Block) :
    file identifier root
      = LittleEndian.encode 4 (4 + identifier.length + root.entry) ++
          (identifier ++ root.bytes) := by
  simp [file, record, row, rowWidth, Cell.width, Cell.body, Nat.add_assoc]

/-! ## Strings -/

/-- A stored string is read back. -/
theorem string?_of_storedAt {text : String} (h : (Block.string text).StoredAt b pos) :
    b.string? pos = some text := by
  obtain ⟨start, rfl, hb, hsmall⟩ := h
  have hwidth : (Block.string text).bytes.length = 4 + (Utf8.encode text).length + 1 :=
    Datum.width_string text
  exact hb.string? (by omega)

/-! ## Vectors -/

/-- The number of references in a row is its width in words. -/
theorem rowWidth_map_ref (blocks : List Block) : rowWidth (blocks.map .ref) = 4 * blocks.length := by
  induction blocks with
  | nil => rfl
  | cons block blocks ih =>
    rw [List.map_cons, rowWidth, ih, Cell.width, List.length_cons]
    omega

variable {blocks : List Block}

/-- A stored vector is a record at its position. -/
theorem StoredAt.vector (h : (vector blocks).StoredAt b pos) :
    b.Holds pos (record (LittleEndian.encode 4 blocks.length) (blocks.map .ref)) ∧
      (record (LittleEndian.encode 4 blocks.length) (blocks.map .ref)).length < 2 ^ 32 := by
  obtain ⟨start, rfl, hb, hsmall⟩ := h
  exact ⟨hb, hsmall⟩

/-- A stored vector holds as many words as it has blocks. -/
theorem length_atPos (h : (Block.vector blocks).StoredAt b pos) :
    (OffsetVector.atPos b pos).length = blocks.length := by
  obtain ⟨hb, hsmall⟩ := h.vector
  have hroom := hb.left.add_length_le
  rw [List.length_append, LittleEndian.length_encode, length_row, rowWidth_map_ref] at hroom
  rw [length_record, LittleEndian.length_encode, rowWidth_map_ref] at hsmall
  have hword := hb.left.left.word?_of_lt (show blocks.length < 2 ^ 32 by omega)
  simp only [OffsetVector.atPos, hword, Option.getD_some]
  omega

/-- **Each word of a stored vector leads to its block.** -/
theorem follow?_wordPos (h : (Block.vector blocks).StoredAt b pos) {i : Nat}
    (hi : i < blocks.length) :
    ∃ target, b.follow? ((OffsetVector.atPos b pos).wordPos i) = some target ∧
      blocks[i].StoredAt b target := by
  obtain ⟨hb, hsmall⟩ := h.vector
  have hsplit : blocks.map Cell.ref
      = (blocks.take i).map .ref ++ .ref blocks[i] :: (blocks.drop (i + 1)).map .ref := by
    rw [← List.map_cons, ← List.map_append, ← List.drop_eq_getElem_cons hi,
      List.take_append_drop]
  rw [hsplit] at hb hsmall
  have hcell := cell_record hb hsmall
  rw [LittleEndian.length_encode, rowWidth_map_ref, List.length_take,
    Nat.min_eq_left (Nat.le_of_lt hi)] at hcell
  exact hcell

/-- **A stored vector is read element by element**: what decoding gives for each of its words is related
to the item that was laid out there, if following an offset to an item's block gives something related to
the item. -/
theorem forall₂_toList {α β : Type} {decode : Buffer → Nat → α} {R : α → β → Prop}
    {items : List β} {block : β → Block} (h : (Block.vector (items.map block)).StoredAt b pos)
    (hR : ∀ item ∈ items, ∀ word target, b.follow? word = some target →
      (block item).StoredAt b target → R (decode b word) item) :
    List.Forall₂ R ((OffsetVector.atPos b pos).toList decode) items := by
  have hlength := length_atPos h
  rw [List.length_map] at hlength
  refine List.forall₂_iff_get.mpr ⟨by rw [OffsetVector.length_toList, hlength], ?_⟩
  intro i h₁ h₂
  obtain ⟨target, hfollow, hstored⟩ := follow?_wordPos h (by rwa [List.length_map])
  rw [List.getElem_map] at hstored
  simp only [OffsetVector.toList, List.get_eq_getElem, List.getElem_map, List.getElem_range]
  exact hR _ (List.getElem_mem h₂) _ target hfollow hstored

/-! ## Tables -/

/-- **What lets a table be laid out**: each slot is filled once, and the sizes of the vtable and of the
table fit their two-byte words. -/
structure Fits (slots : List (Nat × Cell)) : Prop where
  nodup : (slots.map Prod.fst).Nodup
  slot_le : ∀ slot ∈ slots.map Prod.fst, slot ≤ 32764
  width_le : 4 + rowWidth (slots.map Prod.snd) ≤ 65535

variable {slots : List (Nat × Cell)} {slot here : Nat}

/-- The fields of a row stand where the row ends at the latest. -/
theorem fieldOffset_le : fieldOffset slot here slots ≤ here + rowWidth (slots.map Prod.snd) := by
  induction slots generalizing here with
  | nil => exact Nat.zero_le _
  | cons entry slots ih =>
    have hlater : fieldOffset slot (here + entry.2.width) slots
        ≤ here + entry.2.width + rowWidth (slots.map Prod.snd) := ih
    rw [fieldOffset, List.map_cons, rowWidth]
    split
    · omega
    · split <;> omega

/-- A slot that is not filled has no field. -/
theorem fieldOffset_eq_zero (h : slot ∉ slots.map Prod.fst) : fieldOffset slot here slots = 0 := by
  induction slots generalizing here with
  | nil => rfl
  | cons entry slots ih =>
    rw [List.map_cons, List.mem_cons, not_or] at h
    rw [fieldOffset, ih h.2, if_neg (fun hne => hne rfl), if_neg (Ne.symm h.1)]

/-- The field of a slot stands after the fields before it. -/
theorem fieldOffset_append {before after : List (Nat × Cell)} (cell : Cell)
    (hbefore : slot ∉ before.map Prod.fst) (hafter : slot ∉ after.map Prod.fst) (hpos : 0 < here) :
    fieldOffset slot here (before ++ (slot, cell) :: after)
      = here + rowWidth (before.map Prod.snd) := by
  induction before generalizing here with
  | nil =>
    rw [List.nil_append, fieldOffset, fieldOffset_eq_zero hafter, if_neg (fun hne => hne rfl),
      if_pos rfl]
    rfl
  | cons entry before ih =>
    rw [List.map_cons, List.mem_cons, not_or] at hbefore
    rw [List.cons_append, fieldOffset, ih hbefore.2 (by omega), List.map_cons, rowWidth,
      if_pos (by omega)]
    omega

/-- The number of entries is above every slot. -/
theorem lt_entryCount (h : slot ∈ slots.map Prod.fst) : slot < entryCount slots := by
  have hmono : ∀ (slots : List (Nat × Cell)) (count : Nat),
      count ≤ slots.foldl (fun count slot => max count (slot.1 + 1)) count := by
    intro slots
    induction slots with
    | nil => exact fun count => Nat.le_refl count
    | cons entry slots ih => exact fun count => Nat.le_trans (Nat.le_max_left _ _) (ih _)
  suffices hall : ∀ count, slot < slots.foldl (fun count slot => max count (slot.1 + 1)) count from
    hall 0
  induction slots with
  | nil => exact absurd h List.not_mem_nil
  | cons entry slots ih =>
    intro count
    rw [List.map_cons, List.mem_cons] at h
    rw [List.foldl_cons]
    rcases h with rfl | h
    · exact Nat.lt_of_lt_of_le (Nat.lt_of_lt_of_le (Nat.lt_succ_self _) (Nat.le_max_right _ _))
        (hmono _ _)
    · exact ih h _

/-- The number of entries is bounded as the slots are. -/
theorem entryCount_le {bound : Nat} (h : ∀ slot ∈ slots.map Prod.fst, slot < bound) :
    entryCount slots ≤ bound := by
  suffices hall : ∀ count ≤ bound,
      slots.foldl (fun count slot => max count (slot.1 + 1)) count ≤ bound from
    hall 0 (Nat.zero_le _)
  induction slots with
  | nil => exact fun count hcount => hcount
  | cons entry slots ih =>
    intro count hcount
    have hentry := h entry.1 (by rw [List.map_cons]; exact List.mem_cons_self)
    exact ih (fun slot hslot => h slot (by rw [List.map_cons]; exact List.mem_cons_of_mem _ hslot))
      _ (Nat.max_le.mpr ⟨hcount, hentry⟩)

/-- A stored table is a record after its vtable. -/
theorem StoredAt.table (h : (table slots).StoredAt b pos) :
    ∃ start, pos = start + vtableSize slots ∧ b.Holds start (vtable slots) ∧
      b.Holds pos (record (LittleEndian.encode 4 (vtableSize slots)) (slots.map Prod.snd)) ∧
      (record (LittleEndian.encode 4 (vtableSize slots)) (slots.map Prod.snd)).length < 2 ^ 32 := by
  obtain ⟨start, rfl, hb, hsmall⟩ := h
  have hrecord := hb.right
  rw [length_vtable] at hrecord
  refine ⟨start, rfl, hb.left, hrecord, ?_⟩
  rw [Block.table, List.length_append] at hsmall
  omega

/-- The size of the vtable of a table that fits. -/
theorem Fits.vtableSize_le (h : Fits slots) : vtableSize slots ≤ 65534 := by
  have hcount : entryCount slots ≤ 32765 :=
    entryCount_le fun slot hslot => Nat.lt_succ_of_le (h.slot_le slot hslot)
  unfold vtableSize
  omega

/-- The vtable of a stored table is found from the word at its position. -/
theorem vtable?_of_int32? {back : Nat} (h : b.word? 4 (start + back) = some back)
    (hback : back < 2 ^ 31) : (⟨b, some (start + back)⟩ : Table).vtable? = some start := by
  have hint : (UInt32.ofNat back).toInt32.toInt = back := by
    simp [Int32.toInt_ofNat_of_lt hback]
  simp only [Table.vtable?, Buffer.int32?, Buffer.uint32?, h, Option.map_some, hint]
  rw [if_pos (by omega)]
  congr 1
  omega

/-- **A stored table is bound at its position.** -/
theorem bind?_table (h : (Block.table slots).StoredAt b pos) (hfits : Fits slots) :
    Table.bind? b pos = some ⟨b, some pos⟩ := by
  obtain ⟨start, rfl, hvtable, hrecord, -⟩ := h.table
  have hsize := hfits.vtableSize_le
  have hback := hrecord.left.left.word?_of_lt (show vtableSize slots < 2 ^ 32 by omega)
  have hword := hvtable.right.left.word?
  rw [LittleEndian.length_encode] at hword
  simp only [Table.bind?, vtable?_of_int32? hback (by omega), Buffer.uint16?, hword,
    Option.map_some, Option.isSome_some, if_true]

/-- **Where the field of a slot of a stored table is**: at the distance that its vtable entry says, and
nowhere if the entry is zero or past the end of the vtable. -/
theorem field?_table (h : (Block.table slots).StoredAt b pos) (hfits : Fits slots) (slot : Nat) :
    (⟨b, some pos⟩ : Table).field? slot =
      if fieldOffset slot 4 slots = 0 then none else some (pos + fieldOffset slot 4 slots) := by
  obtain ⟨start, rfl, hvtable, hrecord, -⟩ := h.table
  have hsize := hfits.vtableSize_le
  have hback := hrecord.left.left.word?_of_lt (show vtableSize slots < 2 ^ 32 by omega)
  have hword := hvtable.left.word?_of_lt (show vtableSize slots < 65536 by omega)
  have hsize' : (UInt16.ofNat (vtableSize slots)).toNat = vtableSize slots := by
    rw [UInt16.toNat_ofNat', Nat.mod_eq_of_lt (by omega)]
  simp only [Table.field?, vtable?_of_int32? hback (by omega), Buffer.uint16?, hword,
    Option.map_some, hsize']
  by_cases hslot : slot < entryCount slots
  · have hoffset : fieldOffset slot 4 slots < 65536 :=
      Nat.lt_succ_of_le (Nat.le_trans fieldOffset_le hfits.width_le)
    have hentries := hvtable.right.right
    rw [LittleEndian.length_encode, LittleEndian.length_encode] at hentries
    have hentry := hentries.words (i := slot) (by simpa using hslot)
      (by rw [List.getElem_map, List.getElem_range]; exact hoffset)
    rw [List.getElem_map, List.getElem_range] at hentry
    rw [if_neg (by rw [vtableSize]; omega), ← Nat.add_assoc, hentry]
    have hzero : UInt16.ofNat (fieldOffset slot 4 slots) = 0 ↔ fieldOffset slot 4 slots = 0 := by
      rw [← UInt16.toNat_inj, UInt16.toNat_ofNat', Nat.mod_eq_of_lt hoffset]
      rfl
    simp only [Option.map_some, hzero, UInt16.toNat_ofNat', Nat.mod_eq_of_lt hoffset]
  · have habsent : slot ∉ slots.map Prod.fst := fun hmem => hslot (lt_entryCount hmem)
    rw [if_pos (by rw [vtableSize]; omega), fieldOffset_eq_zero habsent, if_pos rfl]

/-- **A slot that is filled is found** in a stored table, with its cell. -/
theorem field?_of_mem (h : (Block.table slots).StoredAt b pos) (hfits : Fits slots) {cell : Cell}
    (hmem : (slot, cell) ∈ slots) :
    ∃ field, (⟨b, some pos⟩ : Table).field? slot = some field ∧ cell.At b field := by
  obtain ⟨before, after, hsplit⟩ := List.append_of_mem hmem
  have hnodup := hfits.nodup
  rw [hsplit, List.map_append, List.map_cons, List.nodup_middle, List.nodup_cons,
    List.mem_append, not_or] at hnodup
  have hoffset := fieldOffset_append cell hnodup.1.1 hnodup.1.2 (Nat.succ_pos 3)
  obtain ⟨start, -, -, hrecord, hsmall⟩ := h.table
  have hcells : slots.map Prod.snd
      = before.map Prod.snd ++ cell :: after.map Prod.snd := by
    rw [hsplit, List.map_append, List.map_cons]
  rw [hcells] at hrecord hsmall
  have hcell := cell_record hrecord hsmall
  rw [LittleEndian.length_encode, Nat.add_assoc] at hcell
  refine ⟨pos + fieldOffset slot 4 slots, ?_, ?_⟩
  · rw [field?_table h hfits, if_neg]
    rw [hsplit, hoffset]
    omega
  · rwa [hsplit, hoffset]

/-- **A slot that is not filled is absent** from a stored table. -/
theorem field?_of_not_mem (h : (Block.table slots).StoredAt b pos) (hfits : Fits slots)
    (hmem : slot ∉ slots.map Prod.fst) : (⟨b, some pos⟩ : Table).field? slot = none := by
  rw [field?_table h hfits, fieldOffset_eq_zero hmem, if_pos rfl]

end Block

end InterfaceSchema
