import InterfaceSchema.Catalog.Document
import InterfaceSchema.Proofs.Bytes.Utf8
import InterfaceSchema.Proofs.Catalog.Definitions
import InterfaceSchema.Proofs.Catalog.Search
import InterfaceSchema.Proofs.Schema.RoundTrip

/-!
# The index of a catalog is complete, unique and right

A catalog is found through its index: looking a name up, listing the definitions and laying out the
document all follow it. The index is made last, by searching the sorted lists for names in the order of
declaration, and a search that missed would silently drop a name.

None does. **Every declared name leads to the definition that was made of its declaration**, in the list of
its kind, and the definitions come in the order of declaration. That is `Catalog.Indexes`, and
`compile_indexes` says that every catalog that compiles has it.
-/

namespace InterfaceSchema

/-- **An entry of the index points where it should**: its name was declared with its kind, and stands at
its position in the sorted list of that kind. -/
def Catalog.Points (c : Catalog) (s : SchemaDecl) (n : String) : DefinitionRef → Prop
  | .enum i => n ∈ s.enums.map (·.name) ∧ ∃ h : i < c.enums.length, c.enums[i].name = n
  | .table i => n ∈ s.objects.map (·.name) ∧ ∃ h : i < c.tables.length, c.tables[i].name = n
  | .interface i =>
    n ∈ s.services.map (·.name) ∧ ∃ h : i < c.interfaces.length, c.interfaces[i].name = n

/-- **Definitions in the order of declaration**, of all kinds. -/
def allDefinitions (enums : List EnumDef) (tables : List TableDef) (interfaces : List InterfaceDef) :
    List Definition :=
  enums.map .enum ++ tables.map .table ++ interfaces.map .interface

/-- **A catalog indexes the definitions of a schema.** -/
structure Catalog.Indexes (c : Catalog) (s : SchemaDecl) (enums : List EnumDef) (tables : List TableDef)
    (interfaces : List InterfaceDef) : Prop where
  /-- Each list increases strictly in the order of the bytes of names. -/
  enums_sorted : c.enums.Pairwise fun a b => Utf8.encode a.name < Utf8.encode b.name
  tables_sorted : c.tables.Pairwise fun a b => Utf8.encode a.name < Utf8.encode b.name
  interfaces_sorted : c.interfaces.Pairwise fun a b => Utf8.encode a.name < Utf8.encode b.name
  /-- Each list holds the definitions of its kind, none lost and none twice. -/
  enums_perm : c.enums.Perm enums
  tables_perm : c.tables.Perm tables
  interfaces_perm : c.interfaces.Perm interfaces
  /-- No name occurs twice, in one list or in two. -/
  names_nodup :
    (c.enums.map (·.name) ++ c.tables.map (·.name) ++ c.interfaces.map (·.name)).Nodup
  /-- The keys of the index are the names declared, in the order of declaration. -/
  keys : c.index.keys = s.names
  size : c.index.entries.length = c.enums.length + c.tables.length + c.interfaces.length
  /-- Each entry points at the definition of its name. -/
  points : ∀ n ref, (n, ref) ∈ c.index.entries → c.Points s n ref
  resolves : ∀ n ref, (n, ref) ∈ c.index.entries → ∃ d, c.resolve? ref = some d ∧ d.name = n
  /-- The definitions are listed in the order of declaration, and laid out under the same names. -/
  definitions : c.definitions = allDefinitions enums tables interfaces
  document_keys : ∃ members, c.document .byName (fun _ => true) =
    .object [("meta", c.info.json), ("uri", .object members)] ∧ members.map Prod.fst = c.index.keys
  /-- A name is found just when it was declared, and leads to the definition of that name. -/
  get?_isSome : ∀ n, (c.get? n).isSome ↔ n ∈ s.names
  get?_eq_some_iff : ∀ n d,
    c.get? n = some d ↔ d ∈ allDefinitions enums tables interfaces ∧ d.name = n

/-! ## Lists -/

/-- Sorting by name is sorting by the bytes of names. -/
theorem sortByName_pairwise_encode {α : Type} {name : α → String} {items : List α}
    (h : (items.map name).Nodup) :
    (sortByName name items).Pairwise fun a b => Utf8.encode (name a) < Utf8.encode (name b) :=
  (sortByName_pairwise h).imp Utf8.encode_lt_encode

namespace Catalog

/-- The definition an entry points at is found. -/
theorem Points.resolve? {c : Catalog} {s : SchemaDecl} {n : String} {ref : DefinitionRef}
    (h : c.Points s n ref) : ∃ d, c.resolve? ref = some d ∧ d.name = n := by
  cases ref with
  | enum i =>
    obtain ⟨-, hi, hname⟩ := h
    exact ⟨.enum c.enums[i], by rw [Catalog.resolve?, List.getElem?_eq_getElem hi]; rfl, hname⟩
  | table i =>
    obtain ⟨-, hi, hname⟩ := h
    exact ⟨.table c.tables[i], by rw [Catalog.resolve?, List.getElem?_eq_getElem hi]; rfl, hname⟩
  | interface i =>
    obtain ⟨-, hi, hname⟩ := h
    exact ⟨.interface c.interfaces[i], by rw [Catalog.resolve?, List.getElem?_eq_getElem hi]; rfl,
      hname⟩

namespace MadeOf

variable {c : Catalog} {enums : List EnumDef} {tables : List TableDef} {interfaces : List InterfaceDef}

/-- The names of each kind differ. -/
theorem nodup_kinds (h : c.MadeOf enums tables interfaces) :
    (enums.map EnumDef.name).Nodup ∧ (tables.map TableDef.name).Nodup ∧
      (interfaces.map InterfaceDef.name).Nodup := by
  obtain ⟨hnodup, hinterfaces, -⟩ := List.nodup_append.mp h.nodup
  obtain ⟨henums, htables, -⟩ := List.nodup_append.mp hnodup
  exact ⟨henums, htables, hinterfaces⟩

/-- **The entries of the index**, with nothing merged and nothing dropped. -/
theorem entries_index (h : c.MadeOf enums tables interfaces) :
    c.index.entries =
        indexEntries EnumDef.name .enum (sortByName EnumDef.name enums) (enums.map (·.name)) ++
          indexEntries TableDef.name .table (sortByName TableDef.name tables) (tables.map (·.name)) ++
          indexEntries InterfaceDef.name .interface (sortByName InterfaceDef.name interfaces)
            (interfaces.map (·.name)) ∧
      c.index.keys = definitionNames enums tables interfaces := by
  obtain ⟨henums, htables, hinterfaces⟩ := h.nodup_kinds
  have hkeys := congrArg₂ (· ++ ·)
    (congrArg₂ (· ++ ·) (keys_indexEntries henums .enum) (keys_indexEntries htables .table))
    (keys_indexEntries hinterfaces .interface)
  simp only [← List.map_append] at hkeys
  have hentries := congrArg Dict.entries h.index_eq
  rw [Dict.entries_ofList _ (by rw [hkeys]; exact h.nodup)] at hentries
  exact ⟨hentries, by rw [Dict.keys, hentries, hkeys]; rfl⟩

/-- **The entries of the catalog are its definitions**, in the order given, each under its name. -/
theorem entries_eq (h : c.MadeOf enums tables interfaces) :
    c.entries = (allDefinitions enums tables interfaces).map fun d => (d.name, d) := by
  obtain ⟨henums, htables, hinterfaces⟩ := h.nodup_kinds
  rw [Catalog.entries, h.entries_index.1, List.filterMap_append, List.filterMap_append,
    resolve_indexEntries henums Definition.enum fun i => by rw [← h.enums_eq]; rfl,
    resolve_indexEntries htables Definition.table fun i => by rw [← h.tables_eq]; rfl,
    resolve_indexEntries hinterfaces Definition.interface fun i => by rw [← h.interfaces_eq]; rfl]
  simp only [allDefinitions, List.map_append, List.map_map]
  rfl

/-- **Each entry of the index points at the definition of its name.** -/
theorem points (h : c.MadeOf enums tables interfaces) {s : SchemaDecl}
    (hs : s.Defines enums tables interfaces) {n : String} {ref : DefinitionRef}
    (hmem : (n, ref) ∈ c.index.entries) : c.Points s n ref := by
  obtain ⟨henums, htables, hinterfaces⟩ := h.nodup_kinds
  rw [h.entries_index.1, List.mem_append, List.mem_append] at hmem
  rcases hmem with (hmem | hmem) | hmem
  · obtain ⟨hn, i, rfl, hi⟩ := of_mem_indexEntries henums hmem
    rw [← h.enums_eq] at hi
    exact ⟨hs.enumNames ▸ hn, hi⟩
  · obtain ⟨hn, i, rfl, hi⟩ := of_mem_indexEntries htables hmem
    rw [← h.tables_eq] at hi
    exact ⟨hs.tableNames ▸ hn, hi⟩
  · obtain ⟨hn, i, rfl, hi⟩ := of_mem_indexEntries hinterfaces hmem
    rw [← h.interfaces_eq] at hi
    exact ⟨hs.interfaceNames ▸ hn, hi⟩

/-- The names of all definitions, in order. -/
theorem map_name_allDefinitions (enums : List EnumDef) (tables : List TableDef)
    (interfaces : List InterfaceDef) :
    (allDefinitions enums tables interfaces).map Definition.name =
      definitionNames enums tables interfaces := by
  simp only [allDefinitions, definitionNames, List.map_append, List.map_map]
  rfl

/-- **Looking a name up finds the definition of that name.** -/
theorem get?_eq_some_iff (h : c.MadeOf enums tables interfaces) {n : String} {d : Definition} :
    c.get? n = some d ↔ d ∈ allDefinitions enums tables interfaces ∧ d.name = n := by
  have hentries : c.get? n = some d ↔ (n, d) ∈ c.entries := by
    simp only [Catalog.get?, Catalog.entries, Option.bind_eq_some_iff, Dict.get?_eq_some_iff,
      List.mem_filterMap, Option.map_eq_some_iff, Prod.exists, Prod.mk.injEq]
    constructor
    · rintro ⟨ref, hmem, hresolve⟩
      exact ⟨n, ref, hmem, d, hresolve, rfl, rfl⟩
    · rintro ⟨n', ref, hmem, d', hresolve, rfl, rfl⟩
      exact ⟨ref, hmem, hresolve⟩
  rw [hentries, h.entries_eq, List.mem_map]
  constructor
  · rintro ⟨d', hmem, heq⟩
    cases heq
    exact ⟨hmem, rfl⟩
  · rintro ⟨hmem, rfl⟩
    exact ⟨d, hmem, rfl⟩

/-- **A name is found just when it is that of a definition.** -/
theorem isSome_get?_iff (h : c.MadeOf enums tables interfaces) {n : String} :
    (c.get? n).isSome ↔ n ∈ definitionNames enums tables interfaces := by
  rw [Option.isSome_iff_exists, ← map_name_allDefinitions, List.mem_map]
  simp only [h.get?_eq_some_iff]

/-- **The document lays the definitions out under the keys of the index.** -/
theorem document_byName (h : c.MadeOf enums tables interfaces) :
    ∃ members, c.document .byName (fun _ => true) =
      .object [("meta", c.info.json), ("uri", .object members)] ∧
        members.map Prod.fst = c.index.keys := by
  refine ⟨_, rfl, ?_⟩
  rw [List.filter_eq_self.mpr fun _ _ => rfl, List.map_map, h.entries_eq, List.map_map,
    h.entries_index.2, ← map_name_allDefinitions]
  rfl

/-- **A catalog indexes the definitions it is made of.** -/
theorem indexes (h : c.MadeOf enums tables interfaces) {s : SchemaDecl}
    (hs : s.Defines enums tables interfaces) : c.Indexes s enums tables interfaces where
  enums_sorted := h.enums_eq ▸ sortByName_pairwise_encode h.nodup_kinds.1
  tables_sorted := h.tables_eq ▸ sortByName_pairwise_encode h.nodup_kinds.2.1
  interfaces_sorted := h.interfaces_eq ▸ sortByName_pairwise_encode h.nodup_kinds.2.2
  enums_perm := h.enums_eq ▸ sortByName_perm _ enums
  tables_perm := h.tables_eq ▸ sortByName_perm _ tables
  interfaces_perm := h.interfaces_eq ▸ sortByName_perm _ interfaces
  names_nodup := by
    have hperm := (((sortByName_perm EnumDef.name enums).map EnumDef.name).append
      ((sortByName_perm TableDef.name tables).map TableDef.name)).append
      ((sortByName_perm InterfaceDef.name interfaces).map InterfaceDef.name)
    rw [h.enums_eq, h.tables_eq, h.interfaces_eq]
    exact hperm.nodup_iff.mpr h.nodup
  keys := by rw [h.entries_index.2, hs.names]
  size := by
    have hlength := congrArg List.length h.entries_index.2
    rw [Dict.keys, List.length_map] at hlength
    rw [hlength, h.enums_eq, h.tables_eq, h.interfaces_eq]
    simp only [definitionNames, List.length_append, List.length_map, sortByName,
      List.length_mergeSort]
  points := fun _ _ => h.points hs
  resolves := fun _ _ hmem => (h.points hs hmem).resolve?
  definitions := by
    rw [Catalog.definitions, h.entries_eq, List.map_map]
    exact List.map_id _
  document_keys := h.document_byName
  get?_isSome := fun n => by rw [h.isSome_get?_iff, hs.names]
  get?_eq_some_iff := fun _ _ => h.get?_eq_some_iff

end MadeOf

end Catalog

/-- **Every catalog that compiles indexes the definitions of its schema.** Its lists are sorted and hold
the definitions of the declarations, its index has the names declared, in the order of declaration, and
each leads to the definition of that name. -/
theorem compile_indexes {b : Buffer} {source : Source} {c : Catalog} (h : compile b source = .ok c) :
    ∃ s enums tables interfaces, readSchema b = .ok s ∧ s.Defines enums tables interfaces ∧
      c.Indexes s enums tables interfaces := by
  unfold compile at h
  split at h
  · cases h
  · rename_i s hs
    obtain ⟨enums, tables, interfaces, hdefines, hmade⟩ := SchemaDecl.madeOf_of_compile h
    exact ⟨s, enums, tables, interfaces, hs, hdefines, hmade.indexes hdefines⟩

/-- **A schema whose declarations are not in the order of their names**, the services without calls. -/
def shapes : SchemaSpec where
  enums := [{ name := "Tint" }, { name := "Hue" }]
  objects := [{ name := "Round", fields := [{ name := "x", base := 7, index := 1 }] }, { name := "Flat" }]
  services := [
    { name := "b", attributes := [("type", "interface")] },
    { name := "a", attributes := [("type", "interface")] }]

theorem compile_indexes_shapes :
    ∃ c, compile (.ofList shapes.bytes) {} = .ok c ∧
      ∃ s enums tables interfaces, readSchema (.ofList shapes.bytes) = .ok s ∧
        s.Defines enums tables interfaces ∧ c.Indexes s enums tables interfaces := by
  have hread : readSchema (.ofList shapes.bytes) = .ok shapes.decl := by
    have h := shapes.readSchema_append (by decide +kernel) []
    rwa [List.append_nil] at h
  have hok : (shapes.decl.compile {}).toOption.isSome := by decide +kernel
  cases hc : shapes.decl.compile {} with
  | error e =>
    rw [hc] at hok
    cases hok
  | ok c =>
    have hcompile : compile (.ofList shapes.bytes) {} = .ok c := by
      rw [compile, hread]
      exact hc
    exact ⟨c, hcompile, compile_indexes hcompile⟩

end InterfaceSchema
