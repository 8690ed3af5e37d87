import InterfaceSchema.Proofs.Catalog.Interfaces

/-!
# Where the definitions of a catalog come from

Every definition of a catalog was made from one table of the buffer, and every such table has its definition
(`Catalog.MadeFrom`). What is in a definition was read from that table: its name and its documentation, and of
its members those that the maps keep. **A repeated name keeps the place of its first member and the content of
its last**, for attributes, fields and calls alike; nothing else is lost. An enum cannot repeat a name, so it
keeps all of its values.
-/

namespace InterfaceSchema

/-! ## Fields -/

/-- The type of a vector's elements as it is declared. Other types have none. -/
def TypeDecl.element? (t : TypeDecl) : Option BaseType :=
  (BaseType.ofCode? t.base).bind fun base =>
    if base = .vector then (BaseType.ofCode? t.element).filter (· ≠ .none) else none

theorem TypeDecl.element_of_meaning {t : TypeDecl} {object field : String} {m : FieldType}
    (h : t.meaning object field = .ok m) : m.element = t.element? := by
  unfold TypeDecl.meaning at h
  unfold TypeDecl.element?
  cases hbase : BaseType.ofCode? t.base with
  | none =>
    rw [hbase] at h
    cases h
  | some base =>
    rw [hbase] at h
    cases base with
    | vector =>
      cases helement : BaseType.ofCode? t.element with
      | none =>
        rw [helement] at h
        cases h
      | some element =>
        rw [helement] at h
        cases element with
        | _ => exact congrArg FieldType.element (target_eq_ok_iff.mp h).1
    | _ => exact congrArg FieldType.element (target_eq_ok_iff.mp h).1

/-- **A field is made from the table of a declared one.** -/
structure FieldDef.MadeFrom (d : FieldDef) (names : Names) (t : Table) : Prop where
  name : d.name = t.string FieldSlot.name
  id : d.id = t.uint16 FieldSlot.id 0
  offset : d.offset = t.uint16 FieldSlot.offset 0
  /-- Base type, index and reference are those of the declared type. -/
  type : d.ReadFrom names (.ofTable t)
  element : d.element = (FieldDecl.ofTable t).typeOrNone.element?
  docs : d.docs = (t.strings FieldSlot.docs).map trim
  attributes_eq_none_iff : d.attributes = none ↔ t.tables FieldSlot.attributes = []
  attributes : ∀ attributes, d.attributes = some attributes → attributes.MergedFrom (t.tables FieldSlot.attributes)

theorem FieldDecl.madeFrom_of_define {names : Names} {object : String} {t : Table} {d : FieldDef}
    (h : (FieldDecl.ofTable t).define names object = .ok d) : d.MadeFrom names t := by
  have hread := FieldDecl.readFrom_of_define h
  have hmerged := t.mergedFrom_attributes FieldSlot.attributes
  obtain ⟨m, hmeaning, h⟩ := of_bind_eq_ok h
  cases h
  constructor
  case name => rfl
  case id => rfl
  case offset => rfl
  case type => exact hread
  case element => exact TypeDecl.element_of_meaning hmeaning
  case docs => rfl
  case attributes_eq_none_iff =>
    rw [← hmerged.isEmpty_iff]
    show (if (attributeMap (t.attributes FieldSlot.attributes)).isEmpty then none else _) = none ↔ _
    simp
  case attributes =>
    intro attributes hattributes
    obtain ⟨-, hattributes⟩ := Option.ite_none_left_eq_some.mp hattributes
    exact Option.some.inj hattributes ▸ hmerged

/-! ## Tables -/

/-- **A table is made from that of an object.** -/
structure TableDef.MadeFrom (d : TableDef) (names : Names) (t : Table) : Prop where
  name : d.name = t.string ObjectSlot.name
  docs : d.docs = (t.strings ObjectSlot.docs).map trim
  isStruct : d.isStruct = t.bool ObjectSlot.isStruct false
  fields : d.fields.Merges (Table.string · FieldSlot.name) (fun field f => f.MadeFrom names field)
    (t.tables ObjectSlot.fields)

theorem ObjectDecl.madeFrom_of_check {names : Names} {t : Table} {checked : CheckedObject}
    (h : (ObjectDecl.ofTable t).check names = .ok checked) : checked.define.MadeFrom names t := by
  obtain ⟨fields, hfields, h⟩ := of_bind_eq_ok h
  cases h
  have hdefined := List.forall₂_map_left_iff.mp (mapM_eq_ok_iff.mp hfields)
  constructor
  case name => rfl
  case docs => rfl
  case isStruct => rfl
  case fields =>
    exact Dict.merges_ofList_map (fun _ _ hmade => hmade.name)
      (hdefined.imp fun _ _ hdefine => FieldDecl.madeFrom_of_define hdefine)

/-! ## Enums -/

/-- **No name is repeated** when all are new and different. -/
theorem firstRepeated_eq_none_iff {seen names : List String} :
    firstRepeated seen names = none ↔ names.Nodup ∧ ∀ n ∈ names, n ∉ seen := by
  induction names generalizing seen with
  | nil => simp [firstRepeated]
  | cons name rest ih =>
    rw [firstRepeated]
    split
    · rename_i hseen
      simp [hseen]
    · rename_i hnew
      rw [ih, List.nodup_cons, List.forall_mem_cons]
      simp only [List.mem_cons, not_or, forall_and]
      constructor
      · rintro ⟨hnodup, hname, hrest⟩
        exact ⟨⟨fun hmem => hname _ hmem rfl, hnodup⟩, hnew, hrest⟩
      · rintro ⟨⟨hname, hnodup⟩, -, hrest⟩
        exact ⟨hnodup, fun n hn heq => hname (heq ▸ hn), hrest⟩

/-- **An enum is made from the table of a declared one.** Nothing is merged: it has every value that is
declared, and puts them in the order of their names. -/
structure EnumDef.MadeFrom (d : EnumDef) (t : Table) : Prop where
  name : d.name = t.string EnumSlot.name
  docs : d.docs = (t.strings EnumSlot.docs).map trim
  nodup : ((t.tables EnumSlot.values).map (Table.string · EnumValueSlot.name)).Nodup
  keys_perm : d.values.keys.Perm ((t.tables EnumSlot.values).map (Table.string · EnumValueSlot.name))
  sorted : d.values.keys.Pairwise fun a b => Utf8.encode a < Utf8.encode b
  values : ∀ v ∈ t.tables EnumSlot.values, d.values.get? (v.string EnumValueSlot.name) =
    some ⟨v.string EnumValueSlot.name, (v.strings EnumValueSlot.docs).map trim⟩

/-- Sorting the keys of a map keeps its entries. -/
theorem Dict.entries_sortKeys_perm {α : Type} (d : Dict α) : d.sortKeys.entries.Perm d.entries :=
  sortByName_perm Prod.fst d.entries

theorem EnumDecl.madeFrom_of_define {t : Table} {d : EnumDef} (h : (EnumDecl.ofTable t).define = .ok d) :
    d.MadeFrom t := by
  unfold EnumDecl.define at h
  split at h
  · cases h
  · rename_i hnone
    cases h
    -- The entries are those of the list of values: no two have a name in common.
    set entries : List (String × EnumValueDef) :=
      (EnumDecl.ofTable t).values.map fun v => (v.name, ⟨v.name, v.docs⟩) with hentries
    have hnames : entries.map Prod.fst =
        (t.tables EnumSlot.values).map (Table.string · EnumValueSlot.name) := by
      simp [hentries, EnumDecl.ofTable, EnumValueDecl.ofTable, Function.comp_def]
    have hnodup : (entries.map Prod.fst).Nodup := by
      have hdiffer := (firstRepeated_eq_none_iff.mp hnone).1
      rwa [hentries, List.map_map]
    have hperm : (Dict.ofList entries).sortKeys.entries.Perm entries := by
      have hperm := Dict.entries_sortKeys_perm (Dict.ofList entries)
      rwa [Dict.entries_ofList entries hnodup] at hperm
    constructor
    case name => rfl
    case docs => rfl
    case nodup => exact hnames ▸ hnodup
    case keys_perm => exact hnames ▸ hperm.map Prod.fst
    case sorted =>
      refine List.pairwise_map.mpr (sortByName_pairwise_encode ?_)
      exact (Dict.ofList entries).nodup
    case values =>
      intro v hv
      refine (Dict.get?_eq_some_iff _).mpr (hperm.mem_iff.mpr ?_)
      exact List.mem_map_of_mem (List.mem_map_of_mem hv)

/-! ## Catalogs -/

/-- **A catalog is made from a root table**: each of its lists holds one definition for each table of a kind,
made from it, and every member stands under its own name. -/
structure Catalog.MadeFrom (c : Catalog) (root : Table) : Prop where
  enums : ∃ ds, c.enums.Perm ds ∧
    List.Forall₂ (fun t d => EnumDef.MadeFrom d t) (root.tables SchemaSlot.enums) ds
  tables : ∃ ds, c.tables.Perm ds ∧
    List.Forall₂ (fun t d => TableDef.MadeFrom d (SchemaDecl.ofTable root).typeNames t)
      (root.tables SchemaSlot.objects) ds
  interfaces : ∃ ds, c.interfaces.Perm ds ∧
    List.Forall₂ (fun t d => InterfaceDef.MadeFrom d t) (root.tables SchemaSlot.services) ds
  valueNames : ∀ d ∈ c.enums, ∀ key value, (key, value) ∈ d.values.entries → value.name = key
  fieldNames : ∀ d ∈ c.tables, ∀ key field, (key, field) ∈ d.fields.entries → field.name = key
  slotNames : ∀ d ∈ c.interfaces, ∀ key slot, (key, slot) ∈ d.slots.entries → slot.name = key

theorem EnumDef.MadeFrom.name_eq {d : EnumDef} {t : Table} (h : d.MadeFrom t) {key : String}
    {value : EnumValueDef} (hmem : (key, value) ∈ d.values.entries) : value.name = key := by
  have hkey := h.keys_perm.mem_iff.mp (List.mem_map_of_mem hmem)
  obtain ⟨v, hv, rfl⟩ := List.mem_map.mp hkey
  have hget := h.values v hv
  rw [(Dict.get?_eq_some_iff _).mpr hmem, Option.some_inj] at hget
  rw [hget]

/-- **The catalog of an accepted schema is made from its root table.** -/
theorem SchemaDecl.Accepts.madeFrom_catalog {root : Table} {enums : List EnumDef} {objects : List CheckedObject}
    {interfaces : List InterfaceDef} (h : (SchemaDecl.ofTable root).Accepts enums objects interfaces)
    (source : Source) :
    ((SchemaDecl.ofTable root).catalog source enums objects interfaces).MadeFrom root := by
  have henums : List.Forall₂ (fun t d => EnumDef.MadeFrom d t) (root.tables SchemaSlot.enums) enums :=
    (List.forall₂_map_left_iff.mp h.enums).imp fun _ _ => EnumDecl.madeFrom_of_define
  have htables : List.Forall₂ (fun t d => TableDef.MadeFrom d (SchemaDecl.ofTable root).typeNames t)
      (root.tables SchemaSlot.objects) (objects.map CheckedObject.define) :=
    List.forall₂_map_right_iff.mpr
      ((List.forall₂_map_left_iff.mp h.objects).imp fun _ _ => ObjectDecl.madeFrom_of_check)
  have hinterfaces : List.Forall₂ (fun t d => InterfaceDef.MadeFrom d t) (root.tables SchemaSlot.services)
      interfaces := (List.forall₂_map_left_iff.mp h.interfaces).imp fun _ _ => ServiceDecl.madeFrom_of_define
  have henumsPerm := sortByName_perm EnumDef.name enums
  have htablesPerm := sortByName_perm TableDef.name (objects.map CheckedObject.define)
  have hinterfacesPerm := sortByName_perm InterfaceDef.name interfaces
  constructor
  case enums => exact ⟨enums, henumsPerm, henums⟩
  case tables => exact ⟨_, htablesPerm, htables⟩
  case interfaces => exact ⟨interfaces, hinterfacesPerm, hinterfaces⟩
  case valueNames =>
    intro d hd key value hmem
    obtain ⟨t, -, hmade⟩ := exists_of_forall₂ henums (henumsPerm.mem_iff.mp hd)
    exact hmade.name_eq hmem
  case fieldNames =>
    intro d hd key field hmem
    obtain ⟨t, -, hmade⟩ := exists_of_forall₂ htables (htablesPerm.mem_iff.mp hd)
    obtain ⟨_, -, rfl, hfield⟩ := hmade.fields.exists_last hmem
    exact hfield.name
  case slotNames =>
    intro d hd key slot hmem
    obtain ⟨t, -, hmade⟩ := exists_of_forall₂ hinterfaces (hinterfacesPerm.mem_iff.mp hd)
    obtain ⟨_, -, rfl, hslot⟩ := hmade.slots.exists_last hmem
    exact hslot.name

/-- **A catalog that compiles is made from the root table of its buffer.** Attributes are merged by the same
law in every table of it, those of enums and objects included, which no definition keeps. -/
theorem compile_madeFrom {b : Buffer} {source : Source} {c : Catalog} (h : compile b source = .ok c) :
    ∃ root, rootTable b = .ok root ∧ c.MadeFrom root ∧
      ∀ (t : Table) (slot : Nat), Attributes.MergedFrom (attributeMap (t.attributes slot)) (t.tables slot) := by
  obtain ⟨root, enums, objects, interfaces, hroot, haccepts, rfl⟩ := exists_root_of_compile h
  exact ⟨root, hroot, haccepts.madeFrom_catalog source, Table.mergedFrom_attributes⟩

/-- **A schema in which every kind of member is repeated**, between others, but for the values of the enum. A
value that stands for none replaces one that does not. -/
def repeats : SchemaSpec where
  enums := [{ name := "Kind", values := [{ name := "b" }, { name := "a", docs := [" first by name "] }] }]
  objects := [{
    name := "Box"
    fields := [
      { name := "x", base := 7 },
      { name := "y", base := 7, attributes := [("k", "1"), ("l", "2"), ("k", "3"), ("k", "0")] },
      { name := "x", base := 8 },
      { name := "x", base := 9, docs := ["the last"] }] }]
  services := relay.services

theorem compile_madeFrom_repeats :
    ∃ c root, compile (.ofList repeats.bytes) {} = .ok c ∧ rootTable (.ofList repeats.bytes) = .ok root ∧
      c.tables.map (·.fields.keys) = [["x", "y"]] ∧ c.interfaces.map (·.slots.keys) = [["pull", "push"]] ∧
        c.MadeFrom root ∧
        ∀ (t : Table) (slot : Nat), Attributes.MergedFrom (attributeMap (t.attributes slot)) (t.tables slot) := by
  obtain ⟨c, hc, hfields, hslots⟩ : ∃ c, compile (.ofList repeats.bytes) {} = .ok c ∧
      c.tables.map (·.fields.keys) = [["x", "y"]] ∧ c.interfaces.map (·.slots.keys) = [["pull", "push"]] :=
    SchemaSpec.exists_compile (by decide +kernel) (by decide +kernel)
  obtain ⟨root, hroot, hmade, hattributes⟩ := compile_madeFrom hc
  exact ⟨c, root, hc, hroot, hfields, hslots, hmade, hattributes⟩

end InterfaceSchema
