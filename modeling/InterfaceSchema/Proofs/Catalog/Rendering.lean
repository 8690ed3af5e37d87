import InterfaceSchema.Proofs.Catalog.Decoding
import InterfaceSchema.Proofs.Catalog.Layouts
import InterfaceSchema.Proofs.Json.Dense

/-!
# A rendered catalog is faithful

The text of a catalog is JSON for one value and for no other, whether it is compact or pretty, and that value
is the tree of the definitions made of the schema (`documentOf`). **The tree tells the definitions**: reading it
gives them back with all their strings, whatever characters these hold (`ofJson?_documentOf_byName`, and for the
three arrays `Listing.ofJson?_json`).

The grammar alone would let an object repeat the name of a member. **No object of a document does**: the
members of a definition are fixed, the kind in front of them is not one of them, and every other object is
made of a map, or of the definitions by their names.
-/

namespace InterfaceSchema

/-! ## Objects without repeated names -/

namespace Json

@[simp] theorem namesDiffer_string (text : String) : NamesDiffer (string text) := .string

@[simp] theorem namesDiffer_number (n : Int) : NamesDiffer (number n) := .number

@[simp] theorem namesDiffer_bool (value : Bool) : NamesDiffer (bool value) := .bool

@[simp] theorem namesDiffer_ofString? (text : Option String) : NamesDiffer (ofString? text) := by
  cases text with
  | none => exact .null
  | some text => exact .string

@[simp] theorem namesDiffer_array_iff {items : List Json} :
    NamesDiffer (array items) ↔ ∀ item ∈ items, NamesDiffer item := by
  refine ⟨fun h => ?_, .array⟩
  cases h with
  | array h => exact h

@[simp] theorem namesDiffer_object_iff {members : List (String × Json)} :
    NamesDiffer (object members) ↔
      (members.map Prod.fst).Nodup ∧ ∀ member ∈ members, NamesDiffer member.2 := by
  refine ⟨fun h => ?_, fun ⟨hnodup, h⟩ => .object hnodup h⟩
  cases h with
  | object hnodup h => exact ⟨hnodup, h⟩

@[simp] theorem namesDiffer_strings (texts : List String) : NamesDiffer (strings texts) := by
  simp [strings]

/-- **A map is laid out without repeated names**, if its values are. -/
theorem namesDiffer_dict {α : Type} (d : Dict α) {f : α → Json} (h : ∀ a, NamesDiffer (f a)) :
    NamesDiffer (object (d.entries.map fun entry => (entry.1, f entry.2))) := by
  refine .object ?_ (List.forall_mem_map.mpr fun entry _ => h entry.2)
  rw [List.map_map]
  exact d.nodup

end Json

@[simp] theorem Attributes.namesDiffer_json (attributes : Attributes) : attributes.json.NamesDiffer :=
  Json.namesDiffer_dict attributes Json.namesDiffer_ofString?

theorem EnumValueDef.namesDiffer_json (v : EnumValueDef) : v.json.NamesDiffer := by
  simp [EnumValueDef.json]

theorem FieldDef.namesDiffer_json (f : FieldDef) : f.json.NamesDiffer := by
  unfold FieldDef.json
  cases f.attributes <;> simp

theorem SlotDef.namesDiffer_json (s : SlotDef) : s.json.NamesDiffer := by
  simp [SlotDef.json]

@[simp] theorem Meta.namesDiffer_json (m : Meta) : m.json.NamesDiffer := by
  simp [Meta.json]

/-- **The kind of a definition is not the name of one of its members**, and these differ. -/
theorem Definition.namesDiffer_json (d : Definition) : d.json.NamesDiffer := by
  cases d with
  | enum e =>
    have hvalues := Json.namesDiffer_dict e.values EnumValueDef.namesDiffer_json
    simpa [Definition.json, Definition.members, EnumDef.members] using hvalues
  | table t =>
    have hfields := Json.namesDiffer_dict t.fields FieldDef.namesDiffer_json
    simpa [Definition.json, Definition.members, TableDef.members] using hfields
  | interface i =>
    have hslots := Json.namesDiffer_dict i.slots SlotDef.namesDiffer_json
    simpa [Definition.json, Definition.members, InterfaceDef.members] using hslots

/-- A definition without its kind has fewer members. -/
theorem Definition.namesDiffer_members (d : Definition) : (Json.object d.members).NamesDiffer := by
  obtain ⟨hnodup, hmembers⟩ := Json.namesDiffer_object_iff.mp d.namesDiffer_json
  rw [List.map_cons, List.nodup_cons] at hnodup
  exact .object hnodup.2 fun member hmember => hmembers member (List.mem_cons_of_mem _ hmember)

/-! ## The tree of the definitions -/

/-- **The tree of definitions** in a layout, of those whose names pass a filter: by name in the order of
declaration, or in three arrays, each in the order of names. -/
def documentOf (info : Meta) (enums : List EnumDef) (tables : List TableDef) (interfaces : List InterfaceDef)
    (layout : Layout) (keep : String → Bool) : Json :=
  match layout with
  | .byName =>
    .object
      [("meta", info.json),
       ("uri", .object <|
          ((allDefinitions enums tables interfaces).filter fun d => keep d.name).map fun d => (d.name, d.json))]
  | .listing =>
    Listing.json
      { info := info
        enums := (sortByName EnumDef.name enums).filter fun d => keep d.name
        tables := (sortByName TableDef.name tables).filter fun d => keep d.name
        interfaces := (sortByName InterfaceDef.name interfaces).filter fun d => keep d.name }

/-- **The document of a catalog is the tree of the definitions it is made of.** -/
theorem Catalog.MadeOf.document_eq {c : Catalog} {enums : List EnumDef} {tables : List TableDef}
    {interfaces : List InterfaceDef} (h : c.MadeOf enums tables interfaces) (layout : Layout)
    (keep : String → Bool) :
    c.document layout keep = documentOf c.info enums tables interfaces layout keep := by
  cases layout with
  | byName => exact (h.laysOut keep).byName
  | listing =>
    rw [documentOf, ← h.enums_eq, ← h.tables_eq, ← h.interfaces_eq]
    rfl

/-- Definitions whose names differ are shown under names that differ. -/
theorem nodup_map_fst_shown {enums : List EnumDef} {tables : List TableDef} {interfaces : List InterfaceDef}
    (hnodup : (definitionNames enums tables interfaces).Nodup) (keep : String → Bool) {α : Type}
    (f : Definition → α) :
    ((((allDefinitions enums tables interfaces).filter fun d => keep d.name).map fun d =>
      (d.name, f d)).map Prod.fst).Nodup := by
  rw [← Catalog.MadeOf.map_name_allDefinitions] at hnodup
  rw [List.map_map]
  exact (List.filter_sublist.map _).nodup hnodup

/-- **No object of a tree of definitions repeats the name of a member**, when the names of the definitions
differ. -/
theorem namesDiffer_documentOf {enums : List EnumDef} {tables : List TableDef}
    {interfaces : List InterfaceDef} (hnodup : (definitionNames enums tables interfaces).Nodup) (info : Meta)
    (layout : Layout) (keep : String → Bool) :
    (documentOf info enums tables interfaces layout keep).NamesDiffer := by
  cases layout with
  | byName =>
    have huri : (Json.object (((allDefinitions enums tables interfaces).filter fun d => keep d.name).map
        fun d => (d.name, d.json))).NamesDiffer :=
      .object (nodup_map_fst_shown hnodup keep _) (List.forall_mem_map.mpr fun d _ => d.namesDiffer_json)
    simpa [documentOf] using huri
  | listing =>
    have henums := fun e => (Definition.enum e).namesDiffer_members
    have htables := fun t => (Definition.table t).namesDiffer_members
    have hinterfaces := fun i => (Definition.interface i).namesDiffer_members
    have harray : ∀ {α : Type} {f : α → Json} (items : List α), (∀ a, (f a).NamesDiffer) →
        (Json.array (items.map f)).NamesDiffer :=
      fun items h => .array (List.forall_mem_map.mpr fun a _ => h a)
    refine .object (by simp) ?_
    simp only [List.forall_mem_cons, List.not_mem_nil, false_imp_iff, implies_true, and_true]
    exact ⟨info.namesDiffer_json, harray _ henums, harray _ htables, harray _ hinterfaces⟩

/-- Definitions fit when the tables among them do. -/
theorem fits_of_mem_allDefinitions {enums : List EnumDef} {tables : List TableDef}
    {interfaces : List InterfaceDef} {count : Target → Nat} (hfits : ∀ t ∈ tables, t.Fits count) {d : Definition}
    (hd : d ∈ allDefinitions enums tables interfaces) : d.Fits count := by
  rintro t rfl
  exact hfits t (by simpa [allDefinitions] using hd)

/-- **The tree by name tells which definitions are shown**, in their order, and each as it is. -/
theorem ofJson?_documentOf_byName {enums : List EnumDef} {tables : List TableDef} {interfaces : List InterfaceDef}
    {count : Target → Nat} (hnodup : (definitionNames enums tables interfaces).Nodup)
    (hfits : ∀ t ∈ tables, t.Fits count) (info : Meta) (keep : String → Bool) :
    Document.ofJson? count (documentOf info enums tables interfaces .byName keep) = some
      { info := info
        definitions := .ofList <|
          ((allDefinitions enums tables interfaces).filter fun d => keep d.name).map fun d => (d.name, d) } := by
  have hentries := Dict.entries_ofList _ (nodup_map_fst_shown hnodup keep fun d => d)
  have htree : documentOf info enums tables interfaces .byName keep = (Document.mk info (.ofList <|
      ((allDefinitions enums tables interfaces).filter fun d => keep d.name).map fun d => (d.name, d))).json := by
    rw [Document.json, hentries, List.map_map]
    rfl
  rw [htree]
  refine Document.ofJson?_json ?_
  rw [hentries]
  exact List.forall_mem_map.mpr fun d hd => fits_of_mem_allDefinitions hfits (List.mem_filter.mp hd).1

/-! ## Texts -/

/-- **Each text of a catalog says its document**, and nothing else. -/
theorem Catalog.denotes_render_iff (c : Catalog) (layout : Layout) (pretty : Bool) (keep : String → Bool)
    (v : Json) : Json.Denotes (c.render layout pretty keep) v ↔ v = c.document layout keep := by
  have hdenotes : Json.Denotes (c.render layout pretty keep) (c.document layout keep) := by
    cases pretty with
    | false => exact Json.denotes_compact _
    | true => exact Json.denotes_pretty _
  constructor
  · exact fun h => hdenotes.unique h
  · rintro rfl
    exact hdenotes

/-- **Every text of a catalog is faithful JSON.** The compact and the pretty text say one value, the tree of
the definitions of the schema; no object in it repeats a name; and the compact text has no control character,
and no white space outside its strings. -/
theorem compile_render {b : Buffer} {source : Source} {c : Catalog} (h : compile b source = .ok c) :
    ∃ s enums tables interfaces, readSchema b = .ok s ∧ s.Defines enums tables interfaces ∧
      ∀ layout keep,
        (∀ pretty v, Json.Denotes (c.render layout pretty keep) v ↔
          v = documentOf (s.info source) enums tables interfaces layout keep) ∧
        (documentOf (s.info source) enums tables interfaces layout keep).NamesDiffer ∧
        (∀ ch ∈ (c.render layout false keep).toList, 0x20 ≤ ch.toNat) ∧
        ∀ ch ∈ Json.outsideStrings (c.render layout false keep).toList, isWhiteSpace ch = false := by
  obtain ⟨s, enums, objects, interfaces, hs, haccepts, rfl⟩ := accepts_of_compile h
  have hmade := haccepts.madeOf_catalog source
  refine ⟨s, enums, _, interfaces, hs, haccepts.defines, fun layout keep => ⟨fun pretty v => ?_, ?_, ?_⟩⟩
  · rw [Catalog.denotes_render_iff, hmade.document_eq]
    rfl
  · exact namesDiffer_documentOf hmade.nodup _ layout keep
  · have hdense := Json.dense_compact ((s.catalog source enums objects interfaces).document layout keep)
    exact ⟨hdense.printable, hdense.isWhiteSpace_eq_false⟩

/-- **A schema whose strings need escapes**, in names, attributes and documentation. -/
def escapes : SchemaSpec where
  fileIdent := some "\"\\/"
  enums := [{ name := "a\"b", values := [{ name := "😀", docs := ["line\nline", ""] }, { name := "\\" }] }]
  objects := [{ name := "<unresolved object #7>", fields := [
    { name := "\x01\t", base := 15, index := 7, attributes := [("ключ", "\x7f"), ("\r", "0")] }] }]

theorem compile_render_escapes :
    ∃ c, compile (.ofList escapes.bytes) {} = .ok c ∧
      ∃ s enums tables interfaces, readSchema (.ofList escapes.bytes) = .ok s ∧
        s.Defines enums tables interfaces ∧
        ∀ layout keep,
          (∀ pretty v, Json.Denotes (c.render layout pretty keep) v ↔
            v = documentOf (s.info {}) enums tables interfaces layout keep) ∧
          (documentOf (s.info {}) enums tables interfaces layout keep).NamesDiffer ∧
          (∀ ch ∈ (c.render layout false keep).toList, 0x20 ≤ ch.toNat) ∧
          ∀ ch ∈ Json.outsideStrings (c.render layout false keep).toList, isWhiteSpace ch = false := by
  obtain ⟨c, hc, -⟩ : ∃ c, compile (.ofList escapes.bytes) {} = .ok c ∧ c.anomalies ≠ [] :=
    SchemaSpec.exists_compile (by decide +kernel) (by decide +kernel)
  exact ⟨c, hc, compile_render hc⟩

end InterfaceSchema
