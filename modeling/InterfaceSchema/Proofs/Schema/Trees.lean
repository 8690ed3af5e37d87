import InterfaceSchema.Proofs.Layout.Trees
import InterfaceSchema.Schema.Meaning

/-!
# The trees of descriptions

A declaration is laid out as a tree that is put together from slots, some of which are left out. Two things
have to be known of such a tree before it can be read back: what stands in a slot, and that the tree can be
laid out at all. Both go piece by piece. Looking up a slot in a piece gives its value under the condition of
the piece and nothing in the others; and a tree fills the slots of its pieces in their order
(`TableTree.Fills`), which for every declaration is a part of a short list without repetitions.
-/

namespace InterfaceSchema

namespace TableTree

/-! ## Looking up slots -/

@[simp] theorem lookup_slot (k : Nat) (value : SlotValue) (j : Nat) :
    (slot k value).lookup j = if j = k then some value else none := by
  by_cases h : j = k
  · rw [slot, h, List.lookup_cons_self, if_pos rfl]
  · rw [slot, List.lookup_cons, beq_false_of_ne h, if_neg h, List.lookup_nil]

@[simp] theorem lookup_slotIf (present : Bool) (k : Nat) (value : SlotValue) (j : Nat) :
    (slotIf present k value).lookup j
      = if j = k then (if present then some value else none) else none := by
  cases present with
  | false => simp [slotIf]
  | true => exact lookup_slot k value j

@[simp] theorem lookup_stringSlot (k : Nat) (text : Option String) (j : Nat) :
    (stringSlot k text).lookup j = if j = k then text.map .string else none := by
  cases text with
  | none => simp [stringSlot]
  | some text => exact lookup_slot k (.string text) j

@[simp] theorem lookup_tableSlot (k : Nat) (tree : Option TableTree) (j : Nat) :
    (tableSlot k tree).lookup j = if j = k then tree.map .table else none := by
  cases tree with
  | none => simp [tableSlot]
  | some tree => exact lookup_slot k (.table tree) j

@[simp] theorem lookup_docsSlot (k : Nat) (docs : List String) (j : Nat) :
    (docsSlot k docs).lookup j
      = if j = k then (if docs.isEmpty then none else some (.strings docs)) else none := by
  rw [docsSlot, lookup_slotIf]
  cases docs <;> rfl

@[simp] theorem lookup_attributesSlot (k : Nat) (attributes : List (String × String)) (j : Nat) :
    (attributesSlot k attributes).lookup j
      = if j = k then
          (if attributes.isEmpty then none else some (.tables (attributes.map attributePair)))
        else none := by
  rw [attributesSlot, lookup_slotIf]
  cases attributes <;> rfl

/-! ## Filling slots -/

/-- **A value that may fill a slot**: it can be laid out, and takes at most eight bytes of its table. -/
structure Fillable (value : SlotValue) : Prop where
  valid : value.Valid
  narrow : value.cell.width ≤ 8

theorem fillable_scalar {datum : Datum} (h : datum.width ≤ 8) : Fillable (.scalar datum) :=
  ⟨.scalar datum, by rw [SlotValue.cell]; exact h⟩

theorem fillable_string (text : String) : Fillable (.string text) :=
  ⟨.string text, by rw [SlotValue.cell, Cell.width]; decide⟩

theorem fillable_strings (texts : List String) : Fillable (.strings texts) :=
  ⟨.strings texts, by rw [SlotValue.cell, Cell.width]; decide⟩

theorem fillable_table {tree : TableTree} (h : (SlotValue.table tree).Valid) :
    Fillable (.table tree) :=
  ⟨h, by rw [SlotValue.cell, Cell.width]; decide⟩

theorem fillable_tables {α : Type} {items : List α} {tree : α → TableTree}
    (h : ∀ item ∈ items, (SlotValue.table (tree item)).Valid) :
    Fillable (.tables (items.map tree)) := by
  refine ⟨.tables fun slots hslots => ?_, by rw [SlotValue.cell, Cell.width]; decide⟩
  obtain ⟨item, hitem, rfl⟩ := List.mem_map.mp hslots
  exact h item hitem

/-- **A tree that fills slots of a list**, in its order, some of them perhaps not. -/
structure Fills (tree : TableTree) (slots : List Nat) : Prop where
  sublist : (tree.map Prod.fst).Sublist slots
  fillable : ∀ entry ∈ tree, Fillable entry.2

theorem fills_slot {k : Nat} {value : SlotValue} (h : Fillable value) : Fills (slot k value) [k] where
  sublist := List.Sublist.refl _
  fillable entry hentry := by rw [List.mem_singleton.mp hentry]; exact h

theorem fills_slotIf {present : Bool} {k : Nat} {value : SlotValue} (h : Fillable value) :
    Fills (slotIf present k value) [k] := by
  cases present with
  | false => exact ⟨List.nil_sublist _, fun entry hentry => absurd hentry List.not_mem_nil⟩
  | true => exact fills_slot h

theorem fills_nil (slots : List Nat) : Fills [] slots :=
  ⟨List.nil_sublist _, fun _ hentry => absurd hentry List.not_mem_nil⟩

theorem fills_stringSlot (k : Nat) (text : Option String) : Fills (stringSlot k text) [k] := by
  cases text with
  | none => exact fills_nil _
  | some text => exact fills_slot (fillable_string text)

theorem fills_tableSlot {α : Type} (k : Nat) (item : Option α) {tree : α → TableTree}
    (h : ∀ item, (SlotValue.table (tree item)).Valid) :
    Fills (tableSlot k (item.map tree)) [k] := by
  cases item with
  | none => exact fills_nil _
  | some item => exact fills_slot (fillable_table (h item))

theorem Fills.append {a b : TableTree} {slots slots' : List Nat} (ha : Fills a slots)
    (hb : Fills b slots') : Fills (a ++ b) (slots ++ slots') where
  sublist := by
    rw [List.map_append]
    exact ha.sublist.append hb.sublist
  fillable entry hentry := (List.mem_append.mp hentry).elim (ha.fillable entry) (hb.fillable entry)

/-- A row of narrow cells is at most eight times as wide as it is long. -/
theorem rowWidth_le {tree : TableTree} (h : ∀ entry ∈ tree, Fillable entry.2) :
    Block.rowWidth ((cells tree).map Prod.snd) ≤ 8 * tree.length := by
  rw [cells_eq_map, List.map_map]
  induction tree with
  | nil => exact Nat.le_refl _
  | cons entry tree ih =>
    have hentry := (h entry List.mem_cons_self).narrow
    have htree := ih fun entry hentry => h entry (List.mem_cons_of_mem _ hentry)
    rw [List.map_cons, Block.rowWidth, List.length_cons]
    exact Nat.add_comm _ _ ▸ Nat.add_le_add htree hentry

/-- **A tree that fills some of the first eleven slots can be laid out.** -/
theorem Fills.valid {tree : TableTree} {slots : List Nat} (h : Fills tree slots)
    (hslots : slots.Sublist (List.range 11)) : (SlotValue.table tree).Valid := by
  have hsublist := h.sublist.trans hslots
  have hlength := hsublist.length_le
  rw [List.length_map, List.length_range] at hlength
  refine .table ⟨?_, ?_, ?_⟩ fun entry hentry => (h.fillable entry hentry).valid
  · rw [map_fst_cells]
    exact hsublist.nodup List.nodup_range
  · rw [map_fst_cells]
    intro slot hslot
    have hlt := List.mem_range.mp (hsublist.subset hslot)
    omega
  · have hwidth := rowWidth_le h.fillable
    omega

theorem fills_docsSlot (k : Nat) (docs : List String) : Fills (docsSlot k docs) [k] :=
  fills_slotIf (fillable_strings docs)

theorem valid_attributePair (pair : String × String) : (SlotValue.table (attributePair pair)).Valid :=
  ((fills_slot (k := AttributeSlot.key) (fillable_string pair.1)).append
    (fills_slot (k := AttributeSlot.value) (fillable_string pair.2))).valid (by decide)

theorem fills_attributesSlot (k : Nat) (attributes : List (String × String)) :
    Fills (attributesSlot k attributes) [k] :=
  fills_slotIf (fillable_tables fun pair _ => valid_attributePair pair)

theorem valid_typeOf (base element : Int8) (index : Int32) :
    (SlotValue.table (typeOf base element index)).Valid :=
  (((fills_slotIf (fillable_scalar (by simp [Datum.width, Datum.bytes]))).append
    (fills_slotIf (fillable_scalar (by simp [Datum.width, Datum.bytes])))).append
    (fills_slotIf (fillable_scalar (by simp [Datum.width, Datum.bytes])))).valid (by decide)

theorem valid_namedObject (name : String) : (SlotValue.table (namedObject name)).Valid := by
  have hfields : Fillable (.tables []) :=
    ⟨.tables fun _ h => absurd h List.not_mem_nil, by rw [SlotValue.cell, Cell.width]; decide⟩
  exact ((fills_slot (k := ObjectSlot.name) (fillable_string name)).append
    (fills_slot (k := ObjectSlot.fields) hfields)).valid (by decide)

end TableTree

/-! ## Declarations can be laid out -/

open TableTree

theorem EnumValueSpec.valid_tree (v : EnumValueSpec) : (SlotValue.table v.tree).Valid :=
  (((fills_slot (fillable_string v.name)).append
    (fills_slotIf (fillable_scalar (by simp [Datum.width, Datum.bytes])))).append
    (fills_docsSlot _ v.docs)).valid (by decide)

theorem EnumSpec.valid_tree (e : EnumSpec) : (SlotValue.table e.tree).Valid :=
  ((((((fills_slot (fillable_string e.name)).append
    (fills_slot (fillable_tables fun v _ => v.valid_tree))).append
    (fills_slotIf (fillable_scalar (by simp [Datum.width, Datum.bytes])))).append
    (fills_slot (fillable_table (valid_typeOf _ _ _)))).append
    (fills_attributesSlot _ e.attributes)).append
    (fills_docsSlot _ e.docs)).valid (by decide)

theorem FieldSpec.valid_tree (f : FieldSpec) (position : Nat) :
    (SlotValue.table (f.tree position)).Valid :=
  ((((((((fills_slot (fillable_string f.name)).append
    (fills_slot (fillable_table (valid_typeOf _ _ _)))).append
    (fills_slotIf (fillable_scalar (by simp [Datum.width, Datum.bytes])))).append
    (fills_slotIf (fillable_scalar (by simp [Datum.width, Datum.bytes])))).append
    (fills_slotIf (fillable_scalar (by simp [Datum.width, Datum.bytes])))).append
    (fills_slotIf (fillable_scalar (by simp [Datum.width, Datum.bytes])))).append
    (fills_attributesSlot _ f.attributes)).append
    (fills_docsSlot _ f.docs)).valid (by decide)

/-- The fields of an object as trees, each with its position. -/
theorem ObjectSpec.mapIdx_tree (o : ObjectSpec) :
    (o.fields.mapIdx fun position f => f.tree position)
      = o.fields.zipIdx.map fun entry => entry.1.tree entry.2 :=
  List.mapIdx_eq_zipIdx_map

theorem ObjectSpec.valid_tree (o : ObjectSpec) : (SlotValue.table o.tree).Valid := by
  rw [ObjectSpec.tree, o.mapIdx_tree]
  exact (((((fills_slot (fillable_string o.name)).append
    (fills_slot (fillable_tables fun entry _ => entry.1.valid_tree entry.2))).append
    (fills_slotIf (fillable_scalar (by simp [Datum.width, Datum.bytes])))).append
    (fills_attributesSlot _ o.attributes)).append
    (fills_docsSlot _ o.docs)).valid (by decide)

theorem CallSpec.valid_tree (c : CallSpec) : (SlotValue.table c.tree).Valid :=
  (((((fills_slot (fillable_string c.name)).append
    (fills_tableSlot _ c.request valid_namedObject)).append
    (fills_tableSlot _ c.response valid_namedObject)).append
    (fills_attributesSlot _ c.attributes)).append
    (fills_docsSlot _ c.docs)).valid (by decide)

theorem ServiceSpec.valid_tree (s : ServiceSpec) : (SlotValue.table s.tree).Valid :=
  ((((fills_slot (fillable_string s.name)).append
    (fills_slotIf (fillable_tables fun c _ => c.valid_tree))).append
    (fills_attributesSlot _ s.attributes)).append
    (fills_docsSlot _ s.docs)).valid (by decide)

/-- **The tree of a schema can be laid out.** -/
theorem SchemaSpec.valid_tree (s : SchemaSpec) : (SlotValue.table s.tree).Valid :=
  ((((((fills_slot (fillable_tables fun o _ => o.valid_tree)).append
    (fills_slot (fillable_tables fun e _ => e.valid_tree))).append
    (fills_stringSlot _ s.fileIdent)).append
    (fills_stringSlot _ s.fileExt)).append
    (fills_tableSlot _ s.rootObject ObjectSpec.valid_tree)).append
    (fills_slotIf (fillable_tables fun service _ => service.valid_tree))).valid (by decide)

end InterfaceSchema
