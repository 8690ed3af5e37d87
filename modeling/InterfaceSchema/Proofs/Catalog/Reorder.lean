import InterfaceSchema.Catalog.Reorder
import InterfaceSchema.Proofs.Catalog.Order
import InterfaceSchema.Proofs.Layout.Sizes
import Mathlib.Data.List.OfFn
import Mathlib.Data.List.FinRange

/-!
# Compiling a description in another order

The bytes of a description in another order differ everywhere: each block stands elsewhere and the indices
count differently. Its catalog does not (`compile_reorder`).

Three facts carry this. An index that is moved leads to the same name in the list that was put in another
order, and one that leads nowhere still does (`SchemaSpec.Reordering.resolve`), so every field means the
same. A description in another order has **as many bytes**, so it is within the limits of the format when the
other is. And the rest is said of declarations alone, by `SchemaDecl.Reordered.compile`.
-/

namespace InterfaceSchema

/-! ## Positions -/

section Positions

variable {α : Type} {n : Nat} {σ : Equiv.Perm (Fin n)}

/-- A list in another order has the same elements. -/
theorem permute_perm (items : List α) (σ : Equiv.Perm (Fin items.length)) :
    (permute items σ).Perm items := by
  have hperm := Equiv.Perm.ofFn_comp_perm σ.symm fun position => items[position]
  rwa [show List.ofFn (fun position : Fin items.length => items[position]) = items from
    List.ofFn_getElem] at hperm

/-- **Where a position goes there stands what stood at it.** -/
theorem getElem?_permute (items : List α) (σ : Equiv.Perm (Fin items.length)) (position : Nat) :
    (permute items σ)[movePosition σ position]? = items[position]? := by
  unfold permute movePosition
  rw [List.getElem?_ofFn]
  by_cases h : position < items.length
  · simp [h]
  · simp [h]

theorem movePosition_lt {position : Nat} (h : position < n) : movePosition σ position < n := by
  rw [movePosition, dif_pos h]
  exact Fin.isLt _

/-- An index in range goes where the position goes that it is. -/
theorem toInt_moveIndex (hn : n < 2 ^ 31) {index : Int32} (h : 0 ≤ index.toInt ∧ index.toInt < n) :
    (moveIndex σ index).toInt = movePosition σ index.toInt.toNat := by
  have hlt : movePosition σ index.toInt.toNat < n := movePosition_lt (by omega)
  rw [moveIndex, if_pos h, Int32.toInt_ofNat_of_lt (by omega)]

/-- Moving makes no index the one that is none. -/
theorem moveIndex_eq_neg_one_iff (hn : n < 2 ^ 31) {index : Int32} :
    moveIndex σ index = -1 ↔ index = -1 := by
  by_cases h : 0 ≤ index.toInt ∧ index.toInt < n
  · have hnone : (-1 : Int32).toInt = -1 := rfl
    have hmoved := toInt_moveIndex (σ := σ) hn h
    constructor
    · intro heq
      rw [heq] at hmoved
      omega
    · rintro rfl
      omega
  · rw [moveIndex, if_neg h]

/-- **A moved index leads to the same name** among names that were moved along. -/
theorem Names.resolve_moveIndex {names names' : Names} {target : Target}
    (hlength : (names.of target).length = n) (hn : n < 2 ^ 31)
    (hmove : ∀ position, (names'.of target)[movePosition σ position]? = (names.of target)[position]?)
    (index : Int32) : names'.resolve target (moveIndex σ index) = names.resolve target index := by
  by_cases h : 0 ≤ index.toInt ∧ index.toInt < n
  · have hlt : index.toInt.toNat < (names.of target).length := by omega
    unfold Names.resolve
    rw [toInt_moveIndex hn h, if_pos (Int.natCast_nonneg _), Int.toNat_natCast, hmove, if_pos h.1,
      List.getElem?_eq_getElem hlt]
  · rw [moveIndex, if_neg h]
    unfold Names.resolve
    by_cases hnonneg : 0 ≤ index.toInt
    · have hstays := hmove index.toInt.toNat
      rw [movePosition, dif_neg (by omega)] at hstays
      rw [hstays]
    · rw [if_neg hnonneg, if_neg hnonneg]

end Positions

/-! ## Limits -/

/-- A type that has an index is longer than one that has none, and that is all the difference. -/
theorem TableTree.size_typeOf (base element : Int8) {index index' : Int32}
    (h : index' = -1 ↔ index = -1) :
    (typeOf base element index').size = (typeOf base element index).size := by
  have hword : ∀ index : Int32, (SlotValue.scalar (.int32 index)).cell.size = 4 := by
    intro index
    rw [SlotValue.cell]
    exact LittleEndian.length_encode 4 _
  refine size_eq_of_sizes ?_
  simp only [typeOf, sizes_append, sizes_slotIf, hword, bne, show (index' == -1) = (index == -1) by
    rw [Bool.eq_iff_iff, beq_iff_eq, beq_iff_eq, h]]

/-- A file is its header and its root table. -/
theorem SchemaSpec.length_bytes (s : SchemaSpec) : s.bytes.length = 8 + s.tree.size := by
  rw [SchemaSpec.bytes, Block.file_eq, List.length_append, List.length_append,
    LittleEndian.length_encode, ← Nat.add_assoc]
  rfl

/-- There are fewer declarations than an index can count. -/
theorem SchemaSpec.WithinLimits.length_lt {s : SchemaSpec} (h : s.WithinLimits) :
    s.enums.length < 2 ^ 31 ∧ s.objects.length < 2 ^ 31 := by
  have hobjects : (SchemaSlot.objects, .tables (s.objects.map ObjectSpec.tree)) ∈ s.tree := by
    simp [SchemaSpec.tree, TableTree.slot]
  have henums : (SchemaSlot.enums, .tables (s.enums.map EnumSpec.tree)) ∈ s.tree := by
    simp [SchemaSpec.tree, TableTree.slot]
  have hsize := h.size
  have hle := TableTree.size_le_of_mem hobjects
  have hle' := TableTree.size_le_of_mem henums
  have hlength := SlotValue.length_le_size_tables (s.objects.map ObjectSpec.tree)
  have hlength' := SlotValue.length_le_size_tables (s.enums.map EnumSpec.tree)
  rw [s.length_bytes] at hsize
  rw [List.length_map] at hlength hlength'
  omega

/-- The names that the type indices of a description address. -/
theorem SchemaSpec.typeNames_decl (s : SchemaSpec) :
    s.decl.typeNames = ⟨s.enums.map (·.name), s.objects.map (·.name)⟩ := by
  rw [SchemaDecl.typeNames, SchemaSpec.decl, List.map_map, List.map_map]
  rfl

namespace SchemaSpec.Reordering

variable {s : SchemaSpec}

/-- Objects keep their names. -/
theorem map_name_object (r : s.Reordering) (objects : List ObjectSpec) :
    (objects.map r.object).map (·.name) = objects.map (·.name) := by
  rw [List.map_map]
  rfl

/-- **A moved index leads to the same name** in the schema that was put in another order. -/
theorem resolve (r : s.Reordering) (h : s.WithinLimits) (target : Target) (index : Int32) :
    (s.reorder r).decl.typeNames.resolve target (r.index target index)
      = s.decl.typeNames.resolve target index := by
  obtain ⟨henums, hobjects⟩ := h.length_lt
  rw [s.typeNames_decl, (s.reorder r).typeNames_decl, SchemaSpec.reorder, r.map_name_object]
  cases target with
  | enum =>
    refine Names.resolve_moveIndex ?_ henums (fun position => ?_) index
    · exact List.length_map _
    · rw [Names.of, Names.of, List.getElem?_map, List.getElem?_map, getElem?_permute]
  | object =>
    refine Names.resolve_moveIndex ?_ hobjects (fun position => ?_) index
    · exact List.length_map _
    · rw [Names.of, Names.of, List.getElem?_map, List.getElem?_map, getElem?_permute]

theorem index_eq_neg_one_iff (r : s.Reordering) (h : s.WithinLimits) (target : Target) (index : Int32) :
    r.index target index = -1 ↔ index = -1 := by
  cases target with
  | enum => exact moveIndex_eq_neg_one_iff h.length_lt.1
  | object => exact moveIndex_eq_neg_one_iff h.length_lt.2

/-- **A field means the same** when its index has followed what it leads to. -/
theorem alike_field (r : s.Reordering) (h : s.WithinLimits) (f : FieldSpec) (position : Nat)
    (object : String) :
    (f.decl position).Alike s.decl.typeNames (s.reorder r).decl.typeNames object
      ((r.field f).decl position) := by
  unfold SchemaSpec.Reordering.field
  split
  · rename_i htarget
    exact FieldDecl.alike_of_target_eq_none htarget
  · rename_i target htarget
    have htype : (f.decl position).typeOrNone.target? = some target := htarget
    exact FieldDecl.alike_of_resolve_eq htype (r.index_eq_neg_one_iff h target f.index)
      (r.resolve h target f.index)

/-- A field keeps its id. -/
theorem number_field (r : s.Reordering) (f : FieldSpec) (position : Nat) :
    (r.field f).number position = f.number position := by
  unfold SchemaSpec.Reordering.field
  split <;> rfl

/-- **An object means the same** when its fields have followed. -/
theorem alike_object (r : s.Reordering) (h : s.WithinLimits) (o : ObjectSpec) :
    o.decl.Alike s.decl.typeNames (s.reorder r).decl.typeNames (r.object o).decl where
  name := rfl
  docs := rfl
  isStruct := rfl
  fields := by
    rw [ObjectSpec.decl, ObjectSpec.decl, SchemaSpec.Reordering.object, List.mapIdx_eq_zipIdx_map,
      List.mapIdx_eq_zipIdx_map, List.zipIdx_map, List.map_map]
    exact List.forall₂_map_left_iff.mpr (List.forall₂_map_right_iff.mpr
      (List.forall₂_same.mpr fun entry _ => r.alike_field h entry.1 entry.2 o.name))

/-- The root of the schema in another order is the same object. -/
theorem rootObject (r : s.Reordering) : (s.reorder r).rootObject = s.rootObject.map r.object := by
  rw [SchemaSpec.rootObject, SchemaSpec.rootObject, SchemaSpec.reorder]
  cases s.root with
  | none => rfl
  | some position =>
    rw [Option.map_some, Option.bind_some, Option.bind_some, List.getElem?_map, getElem?_permute]

/-- **The description in another order declares a schema in another order.** -/
theorem reordered_decl (r : s.Reordering) (h : s.WithinLimits) : s.decl.Reordered (s.reorder r).decl where
  info source := by
    have hroot : (s.reorder r).decl.root.map (·.name) = s.decl.root.map (·.name) := by
      rw [SchemaSpec.decl, SchemaSpec.decl, r.rootObject, Option.map_map, Option.map_map, Option.map_map]
      rfl
    rw [SchemaDecl.info, SchemaDecl.info, hroot]
    rfl
  enums := (permute_perm s.enums r.enums).map _
  services := (permute_perm s.services r.services).map _
  objects := by
    refine ⟨(permute s.objects r.objects).map ObjectSpec.decl, (permute_perm _ _).map _, ?_⟩
    show List.Forall₂ _ _ (((permute s.objects r.objects).map r.object).map ObjectSpec.decl)
    rw [List.map_map]
    exact List.forall₂_map_left_iff.mpr (List.forall₂_map_right_iff.mpr
      (List.forall₂_same.mpr fun o _ => r.alike_object h o))

/-! ## Lengths -/

theorem size_field (r : s.Reordering) (h : s.WithinLimits) (f : FieldSpec) (position : Nat) :
    ((r.field f).tree position).size = (f.tree position).size := by
  unfold SchemaSpec.Reordering.field
  split
  · rfl
  · rename_i target htarget
    have htype := TableTree.size_typeOf f.base f.element (r.index_eq_neg_one_iff h target f.index)
    refine TableTree.size_eq_of_sizes ?_
    simp only [FieldSpec.tree, TableTree.sizes_append, TableTree.sizes_slot, SlotValue.size_table, htype]
    rfl

theorem size_object (r : s.Reordering) (h : s.WithinLimits) (o : ObjectSpec) :
    (r.object o).tree.size = o.tree.size := by
  have hfields : (SlotValue.tables ((r.object o).fields.mapIdx fun position f => f.tree position)).cell.size
      = (SlotValue.tables (o.fields.mapIdx fun position f => f.tree position)).cell.size := by
    rw [SchemaSpec.Reordering.object, List.mapIdx_eq_zipIdx_map, List.mapIdx_eq_zipIdx_map,
      List.zipIdx_map, List.map_map]
    exact SlotValue.size_tables_map_congr fun entry _ => r.size_field h entry.1 entry.2
  refine TableTree.size_eq_of_sizes ?_
  simp only [ObjectSpec.tree, TableTree.sizes_append, TableTree.sizes_slot, hfields]
  rfl

/-- **A description in another order has as many bytes.** -/
theorem length_bytes (r : s.Reordering) (h : s.WithinLimits) :
    (s.reorder r).bytes.length = s.bytes.length := by
  have hobjects : (SlotValue.tables ((s.reorder r).objects.map ObjectSpec.tree)).cell.size
      = (SlotValue.tables (s.objects.map ObjectSpec.tree)).cell.size := by
    rw [SchemaSpec.reorder, List.map_map]
    exact (SlotValue.size_tables_map_congr fun o _ => r.size_object h o).trans
      (SlotValue.size_tables_eq_of_perm ((permute_perm _ _).map _))
  have henums : (SlotValue.tables ((s.reorder r).enums.map EnumSpec.tree)).cell.size
      = (SlotValue.tables (s.enums.map EnumSpec.tree)).cell.size :=
    SlotValue.size_tables_eq_of_perm ((permute_perm _ _).map _)
  have hservices : (SlotValue.tables ((s.reorder r).services.map ServiceSpec.tree)).cell.size
      = (SlotValue.tables (s.services.map ServiceSpec.tree)).cell.size :=
    SlotValue.size_tables_eq_of_perm ((permute_perm _ _).map _)
  have hroot : ((s.reorder r).rootObject.map ObjectSpec.tree).map TableTree.size
      = (s.rootObject.map ObjectSpec.tree).map TableTree.size := by
    rw [r.rootObject, Option.map_map, Option.map_map, Option.map_map]
    exact congrArg (Option.map · s.rootObject) (funext fun o => r.size_object h o)
  have hempty : (s.reorder r).services.isEmpty = s.services.isEmpty :=
    (permute_perm s.services r.services).isEmpty_eq
  rw [SchemaSpec.length_bytes, SchemaSpec.length_bytes, TableTree.size_eq_of_sizes]
  simp only [SchemaSpec.tree, TableTree.sizes_append, TableTree.sizes_slot, TableTree.sizes_slotIf,
    TableTree.sizes_tableSlot, hobjects, henums, hservices, hroot, hempty]
  rfl

/-- **A description in another order is within the limits.** -/
theorem withinLimits (r : s.Reordering) (h : s.WithinLimits) : (s.reorder r).WithinLimits where
  ids := by
    intro o' ho'
    obtain ⟨o, ho, rfl⟩ := List.mem_map.mp ho'
    have hids := h.ids o ((permute_perm _ _).mem_iff.mp ho)
    intro position hposition
    have hlt : position < o.fields.length := List.length_map r.field ▸ hposition
    have hfield : (r.object o).fields[position] = r.field o.fields[position] := List.getElem_map _
    rw [hfield, r.number_field]
    exact hids position hlt
  size := (r.length_bytes h).trans_lt h.size

end SchemaSpec.Reordering

/-! ## Compiling -/

/-- **The order in which a description declares does not matter.** Put its enums, its objects and its
services in another order each, and let indices and root follow: the bytes compile just when they did
before, and to a catalog that agrees in everything but the raw indices of fields and the order of the
log. -/
theorem compile_reorder (s : SchemaSpec) (h : s.WithinLimits) (r : s.Reordering) (source : Source) :
    ((∃ c, compile (.ofList s.bytes) source = .ok c) ↔
      ∃ c, compile (.ofList (s.reorder r).bytes) source = .ok c) ∧
      ∀ c c', compile (.ofList s.bytes) source = .ok c →
        compile (.ofList (s.reorder r).bytes) source = .ok c' → c.Agrees c' := by
  have hreordered := r.reordered_decl h
  rw [s.compile_bytes h, (s.reorder r).compile_bytes (r.withinLimits h)]
  refine ⟨⟨?_, ?_⟩, ?_⟩
  · rintro ⟨c, hc⟩
    obtain ⟨c', hc', -⟩ := hreordered.compile hc
    exact ⟨c', hc'⟩
  · rintro ⟨c', hc'⟩
    obtain ⟨c, hc, -⟩ := hreordered.symm.compile hc'
    exact ⟨c, hc⟩
  · intro c c' hc hc'
    obtain ⟨c'', hc'', hagrees⟩ := hreordered.compile hc
    rw [hc'] at hc''
    cases hc''
    exact hagrees

/-- **The tail and the head of the chain change places**, and so do its enums. -/
def chainReversed : chain.Reordering where
  enums := Equiv.swap ⟨0, by decide⟩ ⟨1, by decide⟩
  objects := Equiv.swap ⟨0, by decide⟩ ⟨1, by decide⟩
  services := .refl _

example : (chain.reorder chainReversed).objects.flatMap (fun o => o.fields.map (·.index))
    = [1, 0, 1, 0, 2, -2, -1] := by decide +kernel

theorem compile_reorder_chain :
    ∃ c c', compile (.ofList chain.bytes) {} = .ok c ∧
      compile (.ofList (chain.reorder chainReversed).bytes) {} = .ok c' ∧ c.Agrees c' := by
  obtain ⟨c, hc, -⟩ := exists_compile_chain
  obtain ⟨hiff, hagrees⟩ := compile_reorder chain chain_withinLimits chainReversed {}
  obtain ⟨c', hc'⟩ := hiff.mp ⟨c, hc⟩
  exact ⟨c, c', hc, hc', hagrees c c' hc hc'⟩

end InterfaceSchema
