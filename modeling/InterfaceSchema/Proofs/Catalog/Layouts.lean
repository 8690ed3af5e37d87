import InterfaceSchema.Catalog.Layouts
import InterfaceSchema.Proofs.Catalog.Index

/-!
# Every layout shows the same definitions

A document by name is filled through the index, a listing from the sorted lists, and they are filtered at
different moments. **They show the same definitions**, each with the same members: the listing in three
arrays sorted by name, the document in the order of the index and with the kind in front
(`Catalog.LaysOut`). What carries this is that the index drops no name and repeats none, so the document is
a list of all definitions in another order.
-/

namespace InterfaceSchema

/-- **A catalog lays definitions out**, the same in both layouts. -/
structure Catalog.LaysOut (c : Catalog) (keep : String → Bool) (shown : List Definition)
    (enums : List EnumDef) (tables : List TableDef) (interfaces : List InterfaceDef) : Prop where
  /-- By name a definition is laid out under its name, its kind in front of its members. -/
  byName : c.document .byName keep = .object
    [("meta", c.info.json),
     ("uri", .object (shown.map fun d => (d.name, .object (("type", .string d.kindText) :: d.members))))]
  /-- In the listing it is laid out in the array of its kind, with the same members. -/
  listing : c.document .listing keep = .object
    [("meta", c.info.json),
     ("enums", .array (enums.map fun d => .object (Definition.enum d).members)),
     ("tables", .array (tables.map fun d => .object (Definition.table d).members)),
     ("services", .array (interfaces.map fun d => .object (Definition.interface d).members))]
  /-- The names shown are those of the index that pass the filter, in the order of the index. -/
  keys : shown.map Definition.name = c.index.keys.filter keep
  /-- The arrays hold the definitions shown by name, none lost and none twice. -/
  same : (allDefinitions enums tables interfaces).Perm shown
  /-- What stands in front by name tells in which array a definition is. -/
  kinds : ∀ d ∈ shown,
    (d.kindText = "enum" ∧ ∃ e ∈ enums, d = .enum e) ∨ (d.kindText = "table" ∧ ∃ t ∈ tables, d = .table t) ∨
      (d.kindText = "interface" ∧ ∃ i ∈ interfaces, d = .interface i)
  /-- Each array increases strictly in the order of the bytes of names. -/
  enums_sorted : enums.Pairwise fun a b => Utf8.encode a.name < Utf8.encode b.name
  tables_sorted : tables.Pairwise fun a b => Utf8.encode a.name < Utf8.encode b.name
  interfaces_sorted : interfaces.Pairwise fun a b => Utf8.encode a.name < Utf8.encode b.name

/-! ## Documents and listings -/

namespace Catalog

/-- The names of the entries are among those of the index, in their order. -/
theorem map_fst_entries_sublist (c : Catalog) : (c.entries.map Prod.fst).Sublist c.index.keys := by
  rw [entries, List.map_filterMap, Dict.keys]
  induction c.index.entries with
  | nil => exact .slnil
  | cons entry rest ih =>
    rw [List.filterMap_cons]
    split
    · exact ih.cons _
    · rename_i name hname
      obtain ⟨_, hentry, rfl⟩ := Option.map_eq_some_iff.mp hname
      obtain ⟨d, -, rfl⟩ := Option.map_eq_some_iff.mp hentry
      exact ih.cons_cons _

/-- A document holds the entries of its catalog. -/
theorem entries_toDocument (c : Catalog) : c.toDocument.definitions.entries = c.entries :=
  Dict.entries_ofList _ (c.map_fst_entries_sublist.nodup c.index.nodup)

/-- **The tree by name is that of the filtered document.** -/
theorem document_byName_eq (c : Catalog) (keep : String → Bool) :
    c.document .byName keep = (c.toDocument.retain keep).json := by
  rw [Document.json]
  show _ = Json.object [_, ("uri", .object ((c.toDocument.definitions.entries.filter _).map _))]
  rw [c.entries_toDocument]
  rfl

/-- **The tree in three arrays is that of the listing.** -/
theorem document_listing_eq (c : Catalog) (keep : String → Bool) :
    c.document .listing keep = (c.toListing keep).json := rfl

/-- **The listing of all definitions is the tree of the catalog by itself.** -/
theorem document_listing_all (c : Catalog) : c.document .listing (fun _ => true) = c.json := by
  simp only [document_listing_eq, toListing, List.filter_true]
  rfl

end Catalog

/-- **Filtering twice is filtering with both tests.** -/
theorem Document.retain_retain (d : Document) (p q : String → Bool) :
    (d.retain p).retain q = d.retain fun n => p n && q n := by
  have hentries : (d.definitions.filterKeys p).filterKeys q = d.definitions.filterKeys fun n => p n && q n := by
    refine Dict.ext ?_
    show ((d.definitions.entries.filter _).filter _) = d.definitions.entries.filter _
    simp only [List.filter_filter, Bool.and_comm]
  rw [retain, retain, retain, hentries]

theorem Listing.retain_toListing (c : Catalog) (p q : String → Bool) :
    (c.toListing p).retain q = c.toListing fun n => p n && q n := by
  simp only [Catalog.toListing, retain, List.filter_filter, Bool.and_comm]

/-! ## The definitions that are shown -/

/-- Filtering definitions of all kinds is filtering each kind. -/
theorem filter_allDefinitions (keep : String → Bool) (enums : List EnumDef) (tables : List TableDef)
    (interfaces : List InterfaceDef) :
    ((allDefinitions enums tables interfaces).filter fun d => keep d.name) =
      allDefinitions (enums.filter fun d => keep d.name) (tables.filter fun d => keep d.name)
        (interfaces.filter fun d => keep d.name) := by
  simp only [allDefinitions, List.filter_append, List.filter_map]
  rfl

/-- A definition is one of the lists, and its kind tells of which. -/
theorem kindText_of_mem_allDefinitions {enums : List EnumDef} {tables : List TableDef}
    {interfaces : List InterfaceDef} {d : Definition} (h : d ∈ allDefinitions enums tables interfaces) :
    (d.kindText = "enum" ∧ ∃ e ∈ enums, d = .enum e) ∨ (d.kindText = "table" ∧ ∃ t ∈ tables, d = .table t) ∨
      (d.kindText = "interface" ∧ ∃ i ∈ interfaces, d = .interface i) := by
  rw [allDefinitions, List.mem_append, List.mem_append, List.mem_map, List.mem_map, List.mem_map] at h
  obtain (⟨e, he, rfl⟩ | ⟨t, ht, rfl⟩) | ⟨i, hi, rfl⟩ := h
  · exact .inl ⟨rfl, e, he, rfl⟩
  · exact .inr (.inl ⟨rfl, t, ht, rfl⟩)
  · exact .inr (.inr ⟨rfl, i, hi, rfl⟩)

/-- Definitions in another order, each kind for itself. -/
theorem allDefinitions_perm {enums enums' : List EnumDef} {tables tables' : List TableDef}
    {interfaces interfaces' : List InterfaceDef} (henums : enums.Perm enums') (htables : tables.Perm tables')
    (hinterfaces : interfaces.Perm interfaces') :
    (allDefinitions enums tables interfaces).Perm (allDefinitions enums' tables' interfaces') :=
  ((henums.map _).append (htables.map _)).append (hinterfaces.map _)

namespace Catalog.MadeOf

variable {c : Catalog} {enums : List EnumDef} {tables : List TableDef} {interfaces : List InterfaceDef}

/-- The lists of a catalog hold the definitions it is made of, also when both are filtered. -/
theorem perm_filter (h : c.MadeOf enums tables interfaces) (keep : String → Bool) :
    (allDefinitions (c.enums.filter fun d => keep d.name) (c.tables.filter fun d => keep d.name)
      (c.interfaces.filter fun d => keep d.name)).Perm
      ((allDefinitions enums tables interfaces).filter fun d => keep d.name) := by
  rw [filter_allDefinitions, h.enums_eq, h.tables_eq, h.interfaces_eq]
  exact allDefinitions_perm ((sortByName_perm _ _).filter _) ((sortByName_perm _ _).filter _)
    ((sortByName_perm _ _).filter _)

/-- **A catalog lays out the definitions it is made of** whose names pass the filter. -/
theorem laysOut (h : c.MadeOf enums tables interfaces) (keep : String → Bool) :
    c.LaysOut keep ((allDefinitions enums tables interfaces).filter fun d => keep d.name)
      (c.enums.filter fun d => keep d.name) (c.tables.filter fun d => keep d.name)
      (c.interfaces.filter fun d => keep d.name) where
  byName := by
    show c.byName keep = _
    rw [Catalog.byName, h.entries_eq, List.filter_map, List.map_map]
    rfl
  listing := rfl
  keys := by
    rw [h.entries_index.2, ← map_name_allDefinitions, List.filter_map]
    rfl
  same := h.perm_filter keep
  kinds := fun d hd => kindText_of_mem_allDefinitions ((h.perm_filter keep).mem_iff.mpr hd)
  enums_sorted := (h.enums_eq ▸ sortByName_pairwise_encode h.nodup_kinds.1).filter _
  tables_sorted := (h.tables_eq ▸ sortByName_pairwise_encode h.nodup_kinds.2.1).filter _
  interfaces_sorted := (h.interfaces_eq ▸ sortByName_pairwise_encode h.nodup_kinds.2.2).filter _

end Catalog.MadeOf

/-- **The layouts of a catalog show the same definitions under every filter.** Filtering once more is
filtering with both tests, and the whole listing is the tree of the catalog by itself. -/
theorem compile_layouts {b : Buffer} {source : Source} {c : Catalog} (h : compile b source = .ok c) :
    (∀ keep, ∃ shown enums tables interfaces, c.LaysOut keep shown enums tables interfaces) ∧
      (∀ p q,
        ((c.toDocument.retain p).retain q).json = c.document .byName (fun n => p n && q n) ∧
          ((c.toListing p).retain q).json = c.document .listing fun n => p n && q n) ∧
      c.render .listing false (fun _ => true) = c.json.compact := by
  obtain ⟨s, enums, objects, interfaces, -, haccepts, rfl⟩ := accepts_of_compile h
  refine ⟨fun keep => ⟨_, _, _, _, (haccepts.madeOf_catalog source).laysOut keep⟩, fun p q => ⟨?_, ?_⟩, ?_⟩
  · rw [Document.retain_retain, Catalog.document_byName_eq]
  · rw [Listing.retain_toListing, Catalog.document_listing_eq]
  · rw [Catalog.render, Catalog.document_listing_all]
    rfl

theorem compile_layouts_shapes :
    ∃ c, compile (.ofList shapes.bytes) {} = .ok c ∧
      (∀ keep, ∃ shown enums tables interfaces, c.LaysOut keep shown enums tables interfaces) ∧
      (∀ p q,
        ((c.toDocument.retain p).retain q).json = c.document .byName (fun n => p n && q n) ∧
          ((c.toListing p).retain q).json = c.document .listing fun n => p n && q n) ∧
      c.render .listing false (fun _ => true) = c.json.compact := by
  obtain ⟨c, hc, -⟩ : ∃ c, compile (.ofList shapes.bytes) {} = .ok c ∧ c.anomalies = [] :=
    SchemaSpec.exists_compile (by decide +kernel) (by decide +kernel)
  exact ⟨c, hc, compile_layouts hc⟩

end InterfaceSchema
