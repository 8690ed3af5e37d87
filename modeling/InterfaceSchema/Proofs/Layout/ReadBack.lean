import InterfaceSchema.Proofs.Layout.Drafts

/-!
# Reading drafts back

A tree that was written is a table that reads as the tree (`Table.ReadsAs`): each slot that the tree fills
reads its value, exactly and down to the last table, and every other slot reads as absent. It does so with
**anything written before it and anything written behind it**.

`TableTree.write_readable` puts this together with what the writing itself is: it comes to an end, it cuts no
number, and it leaves no gap open (`Draft.Readable`).
-/

namespace InterfaceSchema

namespace Table

/-! ## What a table reads as -/

/-- **A scalar that a slot holds**, by the reader of its kind. A kind that no slot has a reader for stands in
the row with its bytes. -/
def ReadsScalar (t : Table) (slot : Nat) : Datum → Prop
  | .bool value => ∀ default, t.bool slot default = value
  | .int8 value => ∀ default, t.int8 slot default = value
  | .uint16 value => ∀ default, t.uint16 slot default = value
  | .int32 value => ∀ default, t.int32 slot default = value
  | .int64 value => ∀ default, t.int64 slot default = value
  | .real bits => ∀ default, t.real slot default = bits
  | .uint8 value => ∃ pos, t.field? slot = some pos ∧ t.buffer.uint8? pos = some value
  | .uint32 value => ∃ pos, t.field? slot = some pos ∧ t.buffer.uint32? pos = some value
  | .raw bytes => ∃ pos, t.field? slot = some pos ∧ t.buffer.Holds pos bytes
  | .string text => ∃ pos, t.field? slot = some pos ∧ t.buffer.Holds pos (Datum.string text).bytes

/-- **A slot that reads as absent**: every reader gives what it gives where there is nothing. -/
structure Lacks (t : Table) (slot : Nat) : Prop where
  field? : t.field? slot = none
  bool : ∀ default, t.bool slot default = default
  int8 : ∀ default, t.int8 slot default = default
  uint16 : ∀ default, t.uint16 slot default = default
  int32 : ∀ default, t.int32 slot default = default
  int64 : ∀ default, t.int64 slot default = default
  real : ∀ default, t.real slot default = default
  string? : t.string? slot = none
  table? : t.table? slot = none
  length_vector : (t.vector slot).length = 0

mutual

/-- **A table that reads as a tree.** -/
inductive ReadsAs : Table → TableTree → Prop where
  | intro {t : Table} {tree : TableTree} (bound : ∃ pos, t.pos = some pos ∧ bind? t.buffer pos = some t)
      (filled : ∀ entry ∈ tree, t.ReadsSlot entry.1 entry.2)
      (absent : ∀ slot ∉ tree.map Prod.fst, t.Lacks slot) : t.ReadsAs tree

/-- **A slot of a table that reads as a value.** A vector is as long as it was written, and not cut down. -/
inductive ReadsSlot : Table → Nat → SlotValue → Prop where
  | scalar {t : Table} {slot : Nat} {datum : Datum} (read : t.ReadsScalar slot datum) :
      t.ReadsSlot slot (.scalar datum)
  | string {t : Table} {slot : Nat} {text : String} (read : t.string? slot = some text) :
      t.ReadsSlot slot (.string text)
  | strings {t : Table} {slot : Nat} {texts : List String} (length : (t.vector slot).length = texts.length)
      (read : t.strings slot = texts) : t.ReadsSlot slot (.strings texts)
  | table {t inner : Table} {slot : Nat} {tree : TableTree} (read : t.table? slot = some inner)
      (reads : inner.ReadsAs tree) : t.ReadsSlot slot (.table tree)
  | tables {t : Table} {slot : Nat} {items : List TableTree} (length : (t.vector slot).length = items.length)
      (reads : List.Forall₂ ReadsAs (t.tables slot) items) : t.ReadsSlot slot (.tables items)

end

/-! ## Stored trees -/

variable {t : Table} {tree : TableTree} {slot : Nat}

/-- A slot without a field reads as absent. -/
theorem lacks_of_field? (h : t.field? slot = none) : t.Lacks slot where
  field? := h
  bool default := by rw [Table.bool, h]; rfl
  int8 default := by rw [Table.int8, h]; rfl
  uint16 default := by rw [Table.uint16, h]; rfl
  int32 default := by rw [Table.int32, h]; rfl
  int64 default := by rw [Table.int64, h]; rfl
  real default := by rw [Table.real, h]; rfl
  string? := by rw [Table.string?, h]; rfl
  table? := by rw [Table.table?, h]; rfl
  length_vector := by rw [Table.vector, h]; rfl

namespace Stores

/-- A table that stores a tree is bound. -/
theorem bound (h : t.Stores tree) : ∃ pos, t.pos = some pos ∧ bind? t.buffer pos = some t := by
  obtain ⟨buffer, _⟩ := t
  obtain ⟨pos, rfl, hstored⟩ := h.storedAt
  cases h.valid with
  | table fits values => exact ⟨pos, rfl, Block.bind?_table hstored fits⟩

/-- What a tree fills is found in it, for no slot is filled twice. -/
theorem lookup_of_mem (h : t.Stores tree) {entry : Nat × SlotValue} (hentry : entry ∈ tree) :
    tree.lookup entry.1 = some entry.2 := by
  cases h.valid with
  | table fits values =>
    have hnodup := fits.nodup
    rw [TableTree.map_fst_cells] at hnodup
    obtain ⟨before, after, rfl⟩ := List.append_of_mem hentry
    rw [List.map_append, List.map_cons, List.nodup_middle, List.nodup_cons, List.mem_append, not_or] at hnodup
    refine List.lookup_eq_some_iff.mpr ⟨before, after, rfl, fun earlier hearlier => ?_⟩
    have hne : entry.1 ≠ earlier.1 := fun heq =>
      hnodup.1.1 (heq ▸ List.mem_map_of_mem hearlier)
    simpa using hne

/-- A slot that the tree does not fill reads as absent. -/
theorem lacks (h : t.Stores tree) (hslot : slot ∉ tree.map Prod.fst) : t.Lacks slot := by
  refine lacks_of_field? (h.field?_of_lookup_none (List.lookup_eq_none_iff.mpr fun entry hentry => ?_))
  have hne : slot ≠ entry.1 := fun heq => hslot (heq ▸ List.mem_map_of_mem hentry)
  simpa using hne

/-- **A scalar is read back**, by whatever reads its kind. -/
theorem readsScalar (h : t.Stores tree) {datum : Datum} (hlookup : tree.lookup slot = some (.scalar datum)) :
    t.ReadsScalar slot datum := by
  obtain ⟨pos, hfield, hat, -⟩ := h.field?_of_lookup hlookup
  unfold SlotValue.cell at hat
  cases datum with
  | bool value =>
    intro default
    rw [Table.bool, hfield, Option.bind_some, Buffer.Holds.bool? hat, Option.getD_some]
  | int8 value =>
    intro default
    rw [Table.int8, hfield, Option.bind_some, Buffer.Holds.int8? hat, Option.getD_some]
  | uint16 value =>
    intro default
    rw [Table.uint16, hfield, Option.bind_some, Buffer.Holds.uint16? hat, Option.getD_some]
  | int32 value =>
    intro default
    rw [Table.int32, hfield, Option.bind_some, Buffer.Holds.int32? hat, Option.getD_some]
  | int64 value =>
    intro default
    rw [Table.int64, hfield, Option.bind_some, Buffer.Holds.int64? hat, Option.getD_some]
  | real bits =>
    intro default
    rw [Table.real, hfield, Option.bind_some, Buffer.Holds.real? hat, Option.getD_some]
  | uint8 value => exact ⟨pos, hfield, Buffer.Holds.uint8? hat⟩
  | uint32 value => exact ⟨pos, hfield, Buffer.Holds.uint32? hat⟩
  | raw bytes => exact ⟨pos, hfield, hat⟩
  | string text => exact ⟨pos, hfield, hat⟩

/-- A vector that is stored is found. -/
theorem vector_of_lookup (h : t.Stores tree) {value : SlotValue} {blocks : List Block}
    (hlookup : tree.lookup slot = some value) (hcell : value.cell = .ref (.vector blocks)) :
    ∃ target, t.vector slot = .atPos t.buffer target ∧ (Block.vector blocks).StoredAt t.buffer target := by
  obtain ⟨target, hfollow, hstored, -⟩ := h.follow?_of_lookup hlookup hcell
  exact ⟨target, by rw [Table.vector, hfollow], hstored⟩

/-- A vector that is stored is as long as it was written. -/
theorem length_vector (h : t.Stores tree) {value : SlotValue} {blocks : List Block}
    (hlookup : tree.lookup slot = some value) (hcell : value.cell = .ref (.vector blocks)) :
    (t.vector slot).length = blocks.length := by
  obtain ⟨target, hvector, hstored⟩ := h.vector_of_lookup hlookup hcell
  rw [hvector, Block.length_atPos hstored]

/-- **The strings of a vector are read back**, also of one that has none. -/
theorem strings_of_lookup (h : t.Stores tree) {texts : List String}
    (hlookup : tree.lookup slot = some (.strings texts)) : t.strings slot = texts := by
  obtain ⟨target, hvector, hstored⟩ := h.vector_of_lookup hlookup (by rw [SlotValue.cell])
  rw [Table.strings, hvector]
  refine List.forall₂_eq_eq_eq ▸ Block.forall₂_toList hstored ?_
  intro item _ word target hword hitem
  rw [Table.followString, hword, Option.bind_some, Block.string?_of_storedAt hitem, Option.getD_some]

end Stores

/-- **What is stored reads as what was written**, table within table. -/
theorem readsSlot_of_valid {value : SlotValue} (hvalid : value.Valid) :
    (∀ {t : Table} {tree : TableTree} {slot : Nat}, t.Stores tree → tree.lookup slot = some value →
      t.ReadsSlot slot value) ∧
      ∀ {t : Table} {slots : TableTree}, value = .table slots → t.Stores slots → t.ReadsAs slots := by
  -- A table is read in a slot and as an element of a vector, so both are carried along.
  induction hvalid with
  | scalar datum => exact ⟨fun h hlookup => .scalar (h.readsScalar hlookup), nofun⟩
  | string text =>
    exact ⟨fun h hlookup => .string (h.string? (show _ = (some text).map _ from hlookup)), nofun⟩
  | strings texts =>
    refine ⟨fun h hlookup => .strings ?_ (h.strings_of_lookup hlookup), nofun⟩
    rw [h.length_vector hlookup (by rw [SlotValue.cell]), List.length_map]
  | @table slots fits values ih =>
    have hreads : ∀ {t : Table}, t.Stores slots → t.ReadsAs slots := fun h =>
      .intro h.bound (fun entry hentry => (ih entry hentry).1 h (h.lookup_of_mem hentry)) fun _ => h.lacks
    refine ⟨fun h hlookup => ?_, ?_⟩
    · obtain ⟨inner, hinner, hstores⟩ := h.table? hlookup
      exact .table hinner (hreads hstores)
    · rintro t _ ⟨⟩ h
      exact hreads h
  | @tables items items_valid ih =>
    refine ⟨fun h hlookup => .tables ?_ ?_, nofun⟩
    · rw [h.length_vector hlookup (by rw [SlotValue.cell]), TableTree.blocks_eq_map, List.length_map]
    · have hitems := h.tables hlookup
      refine List.forall₂_iff_get.mpr ⟨hitems.length_eq, fun i h₁ h₂ => ?_⟩
      exact (ih _ (List.getElem_mem h₂)).2 rfl (hitems.get h₁ h₂)

/-- **A table that stores a tree reads as it.** -/
theorem Stores.readsAs (h : t.Stores tree) : t.ReadsAs tree := (readsSlot_of_valid h.valid).2 rfl h

end Table

/-! ## Written trees -/

/-- **What it is that a tree was written** behind the bytes of `w`, with its table at `pos`. -/
structure Draft.Readable (d : Draft) (w : Writer) (tree : TableTree) (pos : Nat) : Prop where
  /-- No number was cut when it was put into a word. -/
  uncut : d.Exact
  /-- Each gap was filled once, and nothing else was patched. -/
  filled : (d.links.map Link.word).Perm d.gaps
  /-- No two gaps share a byte. -/
  apart : d.gaps.Pairwise fun gap later => gap + 4 ≤ later
  /-- The words lead forward, from bytes that were added to bytes that were added. -/
  forward : ∀ link ∈ d.links, w.size ≤ link.word ∧ link.word < link.target ∧ link.target < d.size
  /-- They go on leading there, whatever is written behind. -/
  leads : ∀ suffix, ∀ link ∈ d.links,
    (d.writer.append suffix).buffer.follow? link.word = some link.target
  /-- The tree is read at its position, whatever is written behind. -/
  reads : ∀ suffix, ∃ t, Table.bind? (d.writer.append suffix).buffer pos = some t ∧ t.ReadsAs tree

/-- A word that was filled is followed to its target. -/
theorem Draft.Pending.follow? {d : Draft} {start : Nat} {words : List Nat} (h : d.Pending start words)
    (hsize : d.size < 2 ^ 32) {link : Link} (hlink : link ∈ d.links) (suffix : List UInt8) :
    (d.writer.append suffix).buffer.follow? link.word = some link.target := by
  obtain ⟨hword, htarget⟩ := h.forward link hlink
  have hread := ((h.holds link hlink).append suffix).word?_of_lt
    (show link.target - link.word < 2 ^ 32 by omega)
  have hinside : link.target < (d.writer.append suffix).buffer.size := by
    rw [Writer.size_buffer, Writer.size_append]
    exact htarget.trans_le (Nat.le_add_right _ _)
  have hsum : link.word + (link.target - link.word) = link.target := by omega
  rw [Buffer.follow?, hread]
  simp only [hsum, if_pos hinside]

/-- **A tree that was written is read back.** Writing comes to an end for every tree and adds the same bytes
everywhere. If the tree can be laid out and the whole is below four gigabytes, no number is cut, all offsets
lead forward, and the tree is read at the position that is returned. -/
theorem TableTree.write_readable (tree : TableTree) (hvalid : (SlotValue.table tree).Valid) (w : Writer) :
    ∃ d pos, tree.write w = some (d, pos) ∧ d.writer.toList = w.toList ++ tree.block.bytes ∧
      pos = w.size + tree.block.entry ∧ (d.size < 2 ^ 32 → d.Readable w tree pos) := by
  obtain ⟨d, hwrite, hwriter, hadds⟩ := tree.write_eq_place w
  have hpending := hadds.pending (Draft.pending_nil w)
  have hperm := hpending.perm
  rw [List.append_nil, List.append_nil] at hperm
  refine ⟨d, _, hwrite, hadds.toList_eq, rfl, fun hsize => ?_⟩
  have hlength : tree.block.bytes.length < 2 ^ 32 := by
    rw [hadds.size_eq] at hsize
    exact Nat.lt_of_le_of_lt (Nat.le_add_left _ _) hsize
  constructor
  case uncut => exact hadds.keepsExact ⟨hvalid, hsize⟩ nofun
  case filled => exact hperm.symm
  case apart => exact hpending.apart
  case forward =>
    intro link hlink
    have hgap : link.word ∈ d.gaps := hperm.mem_iff.mpr (List.mem_map_of_mem hlink)
    exact ⟨(hpending.inside _ hgap).1, hpending.forward link hlink⟩
  case leads => exact fun suffix link hlink => hpending.follow? hsize hlink suffix
  case reads =>
    intro suffix
    have hstored : tree.block.StoredAt (d.writer.append suffix).buffer (w.size + tree.block.entry) := by
      refine ⟨w.size, rfl, Buffer.Holds.append ?_ suffix, hlength⟩
      rw [hwriter]
      exact Writer.holds_append w tree.block.bytes
    have hstores : Table.Stores ⟨(d.writer.append suffix).buffer, some (w.size + tree.block.entry)⟩ tree :=
      ⟨hvalid, _, rfl, hstored⟩
    cases hvalid with
    | table fits values => exact ⟨_, Block.bind?_table hstored fits, hstores.readsAs⟩

/-- A text and a vector of two tables, one of them empty, written behind a byte. -/
theorem TableTree.write_readable_nested :
    let tree : TableTree := [(1, .string "ab"), (0, .tables [[(2, .scalar (.int32 (-7)))], []])]
    (SlotValue.table tree).Valid ∧
      ∃ d pos, tree.write (Writer.empty.append [7]) = some (d, pos) ∧
        d.Readable (Writer.empty.append [7]) tree pos := by
  intro tree
  have hvalid : (SlotValue.table tree).Valid := by
    refine .table ⟨by decide, by decide, by decide⟩ ?_
    simp only [tree, List.forall_mem_cons, List.not_mem_nil, false_implies, implies_true, and_true]
    refine ⟨.string "ab", .tables ?_⟩
    simp only [List.forall_mem_cons, List.not_mem_nil, false_implies, implies_true, and_true]
    refine ⟨.table ⟨by decide, by decide, by decide⟩ ?_, .table ⟨by decide, by decide, by decide⟩ (by simp)⟩
    simpa using SlotValue.Valid.scalar _
  obtain ⟨d, pos, hwrite, hbytes, -, hreadable⟩ :=
    TableTree.write_readable tree hvalid (Writer.empty.append [7])
  refine ⟨hvalid, d, pos, hwrite, hreadable ?_⟩
  rw [Draft.size, ← Writer.length_toList, hbytes]
  decide

end InterfaceSchema
