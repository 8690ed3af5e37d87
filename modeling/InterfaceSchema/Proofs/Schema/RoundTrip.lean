import InterfaceSchema.Proofs.Schema.Trees

/-!
# Reading undoes writing

The bytes of a description, with anything after them, are read as the schema the description stands for
(`readSchema_bytes`). Nothing is lost: every name, code, index, id, offset, mark, attribute and
documentation line comes back, in order, whether it was stored or left out for being the default.

The proof goes down the tree of declarations once. For each kind of declaration one theorem says what is
read from a table that stores its tree; the tables within it store the trees of its parts
(`Table.Stores.map_tables`), and so the theorem for the parts applies. At the top, the header leads to a
root table that stores the tree of the whole schema.
-/

namespace InterfaceSchema

open TableTree

namespace Table.Stores

variable {t : Table} {tree : TableTree} {slot : Nat}

/-- **Reading the tables of a vector is reading each item's tree.** -/
theorem map_tables {α β : Type} (h : t.Stores tree) {items : List α} {itemTree : α → TableTree}
    {read : Table → β} {decl : α → β}
    (hlookup : tree.lookup slot = some (.tables (items.map itemTree)))
    (hread : ∀ item ∈ items, ∀ t : Table, t.Stores (itemTree item) → read t = decl item) :
    (t.tables slot).map read = items.map decl := by
  have hall := List.forall₂_map_right_iff.mp (h.tables hlookup)
  clear hlookup
  generalize t.tables slot = ts at hall ⊢
  induction hall with
  | nil => rfl
  | cons hitem _ ih =>
    rw [List.map_cons, List.map_cons, hread _ List.mem_cons_self _ hitem,
      ih fun item hmem => hread item (List.mem_cons_of_mem _ hmem)]

/-- The same of a vector that is left out when it has no items. -/
theorem map_tables_of_isEmpty {α β : Type} (h : t.Stores tree) {items : List α}
    {itemTree : α → TableTree} {read : Table → β} {decl : α → β}
    (hlookup : tree.lookup slot
      = if items.isEmpty then none else some (.tables (items.map itemTree)))
    (hread : ∀ item ∈ items, ∀ t : Table, t.Stores (itemTree item) → read t = decl item) :
    (t.tables slot).map read = items.map decl := by
  cases items with
  | nil => rw [h.tables_of_lookup_none hlookup]; rfl
  | cons item items => exact h.map_tables hlookup hread

/-- **Reading a table in a slot is reading the tree that was laid out for it**, if any was. -/
theorem map_table? {α β : Type} (h : t.Stores tree) (item : Option α) (itemTree : α → TableTree)
    {read : Table → β} {decl : α → β}
    (hlookup : tree.lookup slot = (item.map itemTree).map .table)
    (hread : ∀ item, ∀ t : Table, t.Stores (itemTree item) → read t = decl item) :
    (t.table? slot).map read = item.map decl := by
  cases item with
  | none => rw [h.table?_of_lookup_none hlookup]; rfl
  | some item =>
    obtain ⟨t', ht', hstores⟩ := h.table? hlookup
    rw [ht', Option.map_some, hread item t' hstores, Option.map_some]

/-- A string that is always stored. -/
theorem string (h : t.Stores tree) {text : String} (hlookup : tree.lookup slot = some (.string text)) :
    t.string slot = text := by
  have htext : t.string? slot = some text := h.string? hlookup
  rw [Table.string, htext, Option.getD_some]

/-- **The documentation is read back trimmed.** -/
theorem docs (h : t.Stores tree) {texts : List String}
    (hlookup : tree.lookup slot = if texts.isEmpty then none else some (.strings texts)) :
    t.docs slot = texts.map trim := by
  rw [Table.docs, h.strings hlookup]

/-- A mark is read back. -/
theorem bool (h : t.Stores tree) {mark : Bool}
    (hlookup : tree.lookup slot = if mark then some (.scalar (.bool true)) else none) :
    t.bool slot false = mark := by
  refine h.scalar Buffer.Holds.bool? ?_
  cases mark <;> exact hlookup

end Table.Stores

/-! ## Attributes and types -/

/-- **An attribute is read back.** -/
theorem AttributeDecl.ofTable_of_stores {t : Table} {pair : String × String}
    (h : t.Stores (attributePair pair)) : AttributeDecl.ofTable t = .ofPair pair := by
  have hkey : t.string AttributeSlot.key = pair.1 := h.string rfl
  have hvalue : t.string AttributeSlot.value = pair.2 := h.string rfl
  rw [AttributeDecl.ofTable, AttributeDecl.ofPair, hkey, hvalue]

/-- The attributes of a declaration are read back, in order. -/
theorem Table.Stores.attributes {t : Table} {tree : TableTree} {slot : Nat} (h : t.Stores tree)
    {pairs : List (String × String)}
    (hlookup : tree.lookup slot
      = if pairs.isEmpty then none else some (.tables (pairs.map attributePair))) :
    t.attributes slot = pairs.map .ofPair :=
  h.map_tables_of_isEmpty hlookup fun _ _ _ => AttributeDecl.ofTable_of_stores

/-- **A type is read back.** -/
theorem TypeDecl.ofTable_of_stores {t : Table} {base element : Int8} {index : Int32}
    (h : t.Stores (typeOf base element index)) : TypeDecl.ofTable t = ⟨base, element, index⟩ := by
  have hbase : t.int8 TypeSlot.base 0 = base :=
    h.scalar Buffer.Holds.int8? (by simp +decide [typeOf, List.lookup_append])
  have helement : t.int8 TypeSlot.element 0 = element :=
    h.scalar Buffer.Holds.int8? (by simp +decide [typeOf, List.lookup_append])
  have hindex : t.int32 TypeSlot.index (-1) = index :=
    h.scalar Buffer.Holds.int32? (by simp +decide [typeOf, List.lookup_append])
  rw [TypeDecl.ofTable, hbase, helement, hindex]

/-! ## Enums -/

theorem EnumValueDecl.ofTable_of_stores {t : Table} {v : EnumValueSpec} (h : t.Stores v.tree) :
    EnumValueDecl.ofTable t = v.decl := by
  have hname : t.string EnumValueSlot.name = v.name :=
    h.string (by simp +decide [EnumValueSpec.tree, List.lookup_append])
  have hvalue : t.int64 EnumValueSlot.value 0 = v.value :=
    h.scalar Buffer.Holds.int64?
      (by simp +decide [EnumValueSpec.tree, List.lookup_append])
  have htype : t.table? EnumValueSlot.unionType = none :=
    h.table?_of_lookup_none (by simp +decide [EnumValueSpec.tree, List.lookup_append])
  have hdocs : t.docs EnumValueSlot.docs = v.docs.map trim :=
    h.docs (by simp +decide [EnumValueSpec.tree, List.lookup_append])
  rw [EnumValueDecl.ofTable, hname, hvalue, htype, hdocs]
  rfl

theorem EnumDecl.ofTable_of_stores {t : Table} {e : EnumSpec} (h : t.Stores e.tree) :
    EnumDecl.ofTable t = e.decl := by
  have hname : t.string EnumSlot.name = e.name :=
    h.string (by simp +decide [EnumSpec.tree, List.lookup_append])
  have hvalues : (t.tables EnumSlot.values).map EnumValueDecl.ofTable
      = e.values.map EnumValueSpec.decl :=
    h.map_tables (by simp +decide [EnumSpec.tree, List.lookup_append])
      fun _ _ _ => EnumValueDecl.ofTable_of_stores
  have hunion : t.bool EnumSlot.isUnion false = e.isUnion :=
    h.bool (by simp +decide [EnumSpec.tree, List.lookup_append])
  have htype : (t.table? EnumSlot.underlying).map TypeDecl.ofTable
      = some ⟨e.underlying.code, 0, -1⟩ :=
    h.map_table? (some e) (fun e => typeOf e.underlying.code 0 (-1))
      (by simp +decide [EnumSpec.tree, List.lookup_append]) fun _ _ => TypeDecl.ofTable_of_stores
  have hattributes : t.attributes EnumSlot.attributes = e.attributes.map .ofPair :=
    h.attributes (by simp +decide [EnumSpec.tree, List.lookup_append])
  have hdocs : t.docs EnumSlot.docs = e.docs.map trim :=
    h.docs (by simp +decide [EnumSpec.tree, List.lookup_append])
  rw [EnumDecl.ofTable, hname, hvalues, hunion, htype, hattributes, hdocs]
  rfl

/-! ## Objects -/

/-- Within the limits a field has the id and the offset that its number says. -/
theorem FieldSpec.effectiveId_eq (f : FieldSpec) (position : Nat) :
    f.effectiveId position = UInt16.ofNat (f.number position) := by
  unfold FieldSpec.effectiveId FieldSpec.number
  cases f.id with
  | none => rfl
  | some id => simp

theorem FieldSpec.effectiveOffset_eq (f : FieldSpec) (position : Nat) :
    f.effectiveOffset position
      = f.offset.getD (UInt16.ofNat (4 + 2 * f.number position)) := by
  rw [FieldSpec.effectiveOffset, FieldSpec.effectiveId_eq]
  congr 1
  simp

theorem FieldDecl.ofTable_of_stores {t : Table} {f : FieldSpec} {position : Nat}
    (h : t.Stores (f.tree position)) : FieldDecl.ofTable t = f.decl position := by
  have hname : t.string FieldSlot.name = f.name :=
    h.string (by simp +decide [FieldSpec.tree, List.lookup_append])
  have htype : (t.table? FieldSlot.type).map TypeDecl.ofTable
      = some ⟨f.base, f.element, f.index⟩ :=
    h.map_table? (some f) (fun f => typeOf f.base f.element f.index)
      (by simp +decide [FieldSpec.tree, List.lookup_append]) fun _ _ => TypeDecl.ofTable_of_stores
  have hid : t.uint16 FieldSlot.id 0 = f.effectiveId position :=
    h.scalar Buffer.Holds.uint16? (by simp +decide [FieldSpec.tree, List.lookup_append])
  have hoffset : t.uint16 FieldSlot.offset 0 = f.effectiveOffset position :=
    h.scalar Buffer.Holds.uint16? (by simp +decide [FieldSpec.tree, List.lookup_append])
  have hinteger : t.field? FieldSlot.defaultInteger = none :=
    h.field?_of_lookup_none (by simp +decide [FieldSpec.tree, List.lookup_append])
  have hreal : t.field? FieldSlot.defaultReal = none :=
    h.field?_of_lookup_none (by simp +decide [FieldSpec.tree, List.lookup_append])
  have hdeprecated : t.bool FieldSlot.deprecated false = f.deprecated :=
    h.bool (by simp +decide [FieldSpec.tree, List.lookup_append])
  have hrequired : t.bool FieldSlot.required false = f.required :=
    h.bool (by simp +decide [FieldSpec.tree, List.lookup_append])
  have hkey : t.field? FieldSlot.key = none :=
    h.field?_of_lookup_none (by simp +decide [FieldSpec.tree, List.lookup_append])
  have hattributes : t.attributes FieldSlot.attributes = f.attributes.map .ofPair :=
    h.attributes (by simp +decide [FieldSpec.tree, List.lookup_append])
  have hdocs : t.docs FieldSlot.docs = f.docs.map trim :=
    h.docs (by simp +decide [FieldSpec.tree, List.lookup_append])
  rw [FieldDecl.ofTable, hname, htype, hid, hoffset, hdeprecated, hrequired, hattributes, hdocs,
    Table.int64, hinteger, Table.real, hreal, Table.bool, hkey, f.effectiveId_eq,
    f.effectiveOffset_eq]
  rfl

theorem ObjectDecl.ofTable_of_stores {t : Table} {o : ObjectSpec} (h : t.Stores o.tree) :
    ObjectDecl.ofTable t = o.decl := by
  have hname : t.string ObjectSlot.name = o.name :=
    h.string (by simp +decide [ObjectSpec.tree, List.lookup_append])
  have hfields : (t.tables ObjectSlot.fields).map FieldDecl.ofTable
      = o.fields.mapIdx fun position f => f.decl position := by
    rw [List.mapIdx_eq_zipIdx_map]
    exact h.map_tables (by simp +decide [ObjectSpec.tree, List.lookup_append, o.mapIdx_tree])
      fun _ _ _ => FieldDecl.ofTable_of_stores
  have hstruct : t.bool ObjectSlot.isStruct false = o.isStruct :=
    h.bool (by simp +decide [ObjectSpec.tree, List.lookup_append])
  have halign : t.field? ObjectSlot.minAlign = none :=
    h.field?_of_lookup_none (by simp +decide [ObjectSpec.tree, List.lookup_append])
  have hsize : t.field? ObjectSlot.byteSize = none :=
    h.field?_of_lookup_none (by simp +decide [ObjectSpec.tree, List.lookup_append])
  have hattributes : t.attributes ObjectSlot.attributes = o.attributes.map .ofPair :=
    h.attributes (by simp +decide [ObjectSpec.tree, List.lookup_append])
  have hdocs : t.docs ObjectSlot.docs = o.docs.map trim :=
    h.docs (by simp +decide [ObjectSpec.tree, List.lookup_append])
  rw [ObjectDecl.ofTable, hname, hfields, hstruct, hattributes, hdocs, Table.int32, halign,
    Table.int32, hsize]
  rfl

/-! ## Services -/

/-- The name of an object that is only a name is read back. -/
theorem Table.Stores.objectName? {t : Table} {tree : TableTree} {slot : Nat} (h : t.Stores tree)
    {name : Option String} (hlookup : tree.lookup slot = (name.map namedObject).map .table) :
    t.objectName? slot = name := by
  have hname : ∀ name (t : Table), t.Stores (namedObject name) → t.string ObjectSlot.name = name :=
    fun _ _ hstores => hstores.string rfl
  rw [Table.objectName?, h.map_table? _ _ hlookup hname, Option.map_id']

theorem CallDecl.ofTable_of_stores {t : Table} {c : CallSpec} (h : t.Stores c.tree) :
    CallDecl.ofTable t = c.decl := by
  have hname : t.string CallSlot.name = c.name :=
    h.string (by simp +decide [CallSpec.tree, List.lookup_append])
  have hrequest : t.objectName? CallSlot.request = c.request :=
    h.objectName? (by simp +decide [CallSpec.tree, List.lookup_append])
  have hresponse : t.objectName? CallSlot.response = c.response :=
    h.objectName? (by simp +decide [CallSpec.tree, List.lookup_append])
  have hattributes : t.attributes CallSlot.attributes = c.attributes.map .ofPair :=
    h.attributes (by simp +decide [CallSpec.tree, List.lookup_append])
  have hdocs : t.docs CallSlot.docs = c.docs.map trim :=
    h.docs (by simp +decide [CallSpec.tree, List.lookup_append])
  rw [CallDecl.ofTable, hname, hrequest, hresponse, hattributes, hdocs]
  rfl

theorem ServiceDecl.ofTable_of_stores {t : Table} {s : ServiceSpec} (h : t.Stores s.tree) :
    ServiceDecl.ofTable t = s.decl := by
  have hname : t.string ServiceSlot.name = s.name :=
    h.string (by simp +decide [ServiceSpec.tree, List.lookup_append])
  have hcalls : (t.tables ServiceSlot.calls).map CallDecl.ofTable = s.calls.map CallSpec.decl :=
    h.map_tables_of_isEmpty (by simp +decide [ServiceSpec.tree, List.lookup_append])
      fun _ _ _ => CallDecl.ofTable_of_stores
  have hattributes : t.attributes ServiceSlot.attributes = s.attributes.map .ofPair :=
    h.attributes (by simp +decide [ServiceSpec.tree, List.lookup_append])
  have hdocs : t.docs ServiceSlot.docs = s.docs.map trim :=
    h.docs (by simp +decide [ServiceSpec.tree, List.lookup_append])
  rw [ServiceDecl.ofTable, hname, hcalls, hattributes, hdocs]
  rfl

/-! ## Schemas -/

theorem SchemaDecl.ofTable_of_stores {t : Table} {s : SchemaSpec} (h : t.Stores s.tree) :
    SchemaDecl.ofTable t = s.decl := by
  have hroot : (t.table? SchemaSlot.root).map ObjectDecl.ofTable
      = s.rootObject.map ObjectSpec.decl :=
    h.map_table? _ _ (by simp +decide [SchemaSpec.tree, List.lookup_append])
      fun _ _ => ObjectDecl.ofTable_of_stores
  have hobjects : (t.tables SchemaSlot.objects).map ObjectDecl.ofTable
      = s.objects.map ObjectSpec.decl :=
    h.map_tables (by simp +decide [SchemaSpec.tree, List.lookup_append])
      fun _ _ _ => ObjectDecl.ofTable_of_stores
  have henums : (t.tables SchemaSlot.enums).map EnumDecl.ofTable = s.enums.map EnumSpec.decl :=
    h.map_tables (by simp +decide [SchemaSpec.tree, List.lookup_append])
      fun _ _ _ => EnumDecl.ofTable_of_stores
  have hservices : (t.tables SchemaSlot.services).map ServiceDecl.ofTable
      = s.services.map ServiceSpec.decl :=
    h.map_tables_of_isEmpty (by simp +decide [SchemaSpec.tree, List.lookup_append])
      fun _ _ _ => ServiceDecl.ofTable_of_stores
  have hident : t.string? SchemaSlot.fileIdent = s.fileIdent :=
    h.string? (by simp +decide [SchemaSpec.tree, List.lookup_append])
  have hext : t.string? SchemaSlot.fileExt = s.fileExt :=
    h.string? (by simp +decide [SchemaSpec.tree, List.lookup_append])
  rw [SchemaDecl.ofTable, Table.string, hident, Table.string, hext, hroot, henums, hobjects,
    hservices]
  rfl

/-- **The header of a file leads to its root table.** -/
theorem rootTable_file {tree : TableTree} (hvalid : (SlotValue.table tree).Valid)
    (hsize : (Block.file fileIdentifier tree.block).length < 2 ^ 32) (tail : List UInt8) :
    ∃ t, rootTable (.ofList (Block.file fileIdentifier tree.block ++ tail)) = .ok t ∧
      t.Stores tree := by
  have hb : (Buffer.ofList (Block.file fileIdentifier tree.block ++ tail)).Holds 0
      (Block.file fileIdentifier tree.block) := ⟨[], tail, rfl, rfl⟩
  generalize Buffer.ofList (Block.file fileIdentifier tree.block ++ tail) = b at hb ⊢
  rw [Block.file_eq] at hb hsize
  have hident : b.slice? 4 4 = some fileIdentifier := by
    have hs := hb.right.left.slice?
    rwa [LittleEndian.length_encode] at hs
  have hroot := hb.right.right
  rw [LittleEndian.length_encode, Nat.zero_add, show 4 + fileIdentifier.length = 8 from rfl] at hroot
  rw [List.length_append, LittleEndian.length_encode, List.length_append] at hsize
  have hstored : tree.block.StoredAt b (8 + tree.block.entry) := ⟨8, rfl, hroot, by omega⟩
  have hentry := tree.block.entry_lt
  have hword := hb.left.word?_of_lt
    (show 4 + fileIdentifier.length + tree.block.entry < 2 ^ 32 by omega)
  have hend := hstored.lt_size
  refine ⟨⟨b, some (8 + tree.block.entry)⟩, ?_, hvalid, 8 + tree.block.entry, rfl, hstored⟩
  cases hvalid with
  | table fits values =>
    rw [rootTable, if_neg (by rw [headerSize]; omega), if_neg (fun hne => hne hident), hword]
    simp only [Option.getD_some, show 4 + fileIdentifier.length = 8 from rfl,
      Block.bind?_table hstored fits]
    rw [if_neg (by rw [headerSize]; omega)]

/-- Within the limits neither the id nor the offset of a field is cut to its word. -/
theorem FieldSpec.toNat_decl {f : FieldSpec} {position : Nat}
    (h : f.number position ≤ maxFieldId) :
    (f.decl position).id.toNat = f.number position ∧
      (f.offset = none → (f.decl position).offset.toNat = 4 + 2 * f.number position) := by
  unfold maxFieldId at h
  refine ⟨?_, fun hoffset => ?_⟩
  · rw [FieldSpec.decl, UInt16.toNat_ofNat', Nat.mod_eq_of_lt (by omega)]
  · rw [FieldSpec.decl, hoffset, Option.getD_none, UInt16.toNat_ofNat',
      Nat.mod_eq_of_lt (by omega)]

/-- Behind the header of a description stands the schema it declares. -/
theorem SchemaSpec.readSchema_append (s : SchemaSpec) (h : s.WithinLimits) (tail : List UInt8) :
    readSchema (.ofList (s.bytes ++ tail)) = .ok s.decl := by
  obtain ⟨t, ht, hstores⟩ := rootTable_file s.valid_tree h.size tail
  rw [readSchema, SchemaSpec.bytes, ht, Except.map, SchemaDecl.ofTable_of_stores hstores]

/-- **Reading the bytes of a description gives the schema it stands for**, whatever follows them; and each
field is read with its number as its id and, unless it was given another, the offset that its number
says. -/
theorem readSchema_bytes (s : SchemaSpec) (h : s.WithinLimits) (tail : List UInt8) :
    readSchema (.ofList (s.bytes ++ tail)) = .ok s.decl ∧
      ∀ o ∈ s.objects, ∀ position (hp : position < o.fields.length),
        (o.fields[position].decl position).id.toNat = o.fields[position].number position ∧
        (o.fields[position].offset = none →
          (o.fields[position].decl position).offset.toNat
            = 4 + 2 * o.fields[position].number position) :=
  ⟨s.readSchema_append h tail,
    fun o ho position hp => FieldSpec.toNat_decl (h.ids o ho position hp)⟩

/-- A description that leaves out and fills in a little of everything: an empty name, a type that means
nothing, a greatest id, a line with white space around it. -/
def geometry : SchemaSpec where
  fileIdent := some "GEOM"
  root := some 0
  enums := [{ name := "Color", isUnion := true, values := [
    { name := "RED", value := (-1), docs := [" é "] }] }]
  objects := [
    { name := "Point"
      isStruct := true
      attributes := [("private", "0")]
      fields := [
        { name := "x", base := 7, index := 5 },
        { name := "", base := 99, id := some 32765, required := true }] }]
  services := [
    { name := "S"
      calls := [{ name := "c", request := some "Point", attributes := [("type", "topic")] }] }]

theorem readSchema_bytes_geometry :
    geometry.WithinLimits ∧
      readSchema (.ofList (geometry.bytes ++ [0xFF])) = .ok geometry.decl :=
  have h : geometry.WithinLimits := by decide +kernel
  ⟨h, (readSchema_bytes geometry h [0xFF]).1⟩

end InterfaceSchema
