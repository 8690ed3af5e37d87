import InterfaceSchema.Proofs.Catalog.Anomalies
import InterfaceSchema.Proofs.Catalog.Rendering

/-!
# Unfiltered documents are lossless

Rendering collapses distinctions. A reference becomes a string, whether it is the name of a definition or a
placeholder that shows what was asked for, and nothing keeps a definition from having the name of a
placeholder. On its own a rendered field therefore does not tell its reference.

**Together with the numbers of enums and tables it does**: the index of the field is rendered, too, and a
reference leads somewhere just when its index is a position among the definitions of its kind
(`FieldDef.Fits`). The fields of a compiled catalog fit it, so whoever knows these numbers reads every text of it
back (`compile_readBack`). An unfiltered document shows all definitions and so tells the numbers, too: two
catalogs with the same text are the same (`compile_lossless`), except for their logs, which are not rendered.
-/

namespace InterfaceSchema

/-- **A compact text has been written from one value.** -/
theorem Json.compact_injective : Function.Injective compact := fun v v' h =>
  (denotes_compact v').unique (h ▸ denotes_compact v)

/-! ## Fields -/

/-- A field fits the names among which its index was resolved. -/
theorem FieldDef.ReadFrom.fits {d : FieldDef} {names : Names} {f : FieldDecl} (h : d.ReadFrom names f) :
    d.Fits fun target => (names.of target).length where
  resolved := by
    intro n hn
    obtain ⟨target, htarget, position, hposition, hname⟩ := h.reference_eq_resolved_iff.mp hn
    obtain ⟨hlt, -⟩ := List.getElem?_eq_some_iff.mp hname
    exact ⟨target, htarget, by omega, by omega⟩
  unresolved := by
    intro target index href
    obtain ⟨htarget, rfl, -, hrange⟩ := h.reference_eq_unresolved_iff.mp href
    exact ⟨htarget, rfl, hrange⟩

/-- **Fields that fit the same numbers are rendered one to one.** A name can be spelled like a placeholder, but
then the index tells whether it is one. -/
theorem FieldDef.Fits.eq_of_json_eq {f f' : FieldDef} {count : Target → Nat} (h : f.Fits count)
    (h' : f'.Fits count) (hjson : f.json = f'.json) : f = f' := by
  have hread := h.ofJson?_json
  rw [hjson, h'.ofJson?_json, Option.some_inj] at hread
  exact hread.symm

/-! ## Kinds -/

/-- Definitions that are laid out alike by name are of the same kinds. -/
theorem map_kindText_eq_of_map_json_eq {definitions definitions' : List Definition}
    (h : (definitions.map fun d => (d.name, d.json)) = definitions'.map fun d => (d.name, d.json)) :
    definitions.map Definition.kindText = definitions'.map Definition.kindText := by
  have hcorrespond : List.Forall₂ (fun d d' : Definition => (d.name, d.json) = (d'.name, d'.json))
      definitions definitions' := by
    rw [← List.forall₂_map_right_iff, ← List.forall₂_map_left_iff, h]
    exact List.forall₂_refl _
  refine (map_eq_map_of_forall₂ _ _ (fun d d' heq => ?_) hcorrespond).symm
  obtain ⟨hkind, -⟩ := List.cons.inj (Json.object.inj (Prod.mk.inj heq).2)
  exact (Json.string.inj (Prod.mk.inj hkind).2).symm

/-- **The kinds of definitions tell how many there are of each.** -/
theorem length_eq_of_map_kindText_eq {enums enums' : List EnumDef} {tables tables' : List TableDef}
    {interfaces interfaces' : List InterfaceDef}
    (h : (allDefinitions enums tables interfaces).map Definition.kindText =
      (allDefinitions enums' tables' interfaces').map Definition.kindText) :
    enums.length = enums'.length ∧ tables.length = tables'.length ∧
      interfaces.length = interfaces'.length := by
  have hcount : ∀ (enums : List EnumDef) (tables : List TableDef) (interfaces : List InterfaceDef),
      ((allDefinitions enums tables interfaces).map Definition.kindText).count "enum" = enums.length ∧
        ((allDefinitions enums tables interfaces).map Definition.kindText).count "table" = tables.length ∧
        ((allDefinitions enums tables interfaces).map Definition.kindText).count "interface"
          = interfaces.length := by
    intro enums tables interfaces
    have hkinds : (allDefinitions enums tables interfaces).map Definition.kindText =
        .replicate enums.length "enum" ++ .replicate tables.length "table" ++
          .replicate interfaces.length "interface" := by
      simp [allDefinitions, Function.comp_def, Definition.kindText]
    rw [hkinds]
    simp [List.count_replicate]
  obtain ⟨henums, htables, hinterfaces⟩ := hcount enums tables interfaces
  obtain ⟨henums', htables', hinterfaces'⟩ := hcount enums' tables' interfaces'
  rw [h] at henums htables hinterfaces
  exact ⟨henums.symm.trans henums', htables.symm.trans htables', hinterfaces.symm.trans hinterfaces'⟩

/-- Definitions in order are those of each kind. -/
theorem allDefinitions_inj {enums enums' : List EnumDef} {tables tables' : List TableDef}
    {interfaces interfaces' : List InterfaceDef}
    (h : allDefinitions enums tables interfaces = allDefinitions enums' tables' interfaces') :
    enums = enums' ∧ tables = tables' ∧ interfaces = interfaces' := by
  obtain ⟨henums, htables, -⟩ := length_eq_of_map_kindText_eq (congrArg _ h)
  obtain ⟨h, hinterfaces⟩ := List.append_inj h (by simp [henums, htables])
  obtain ⟨henums, htables⟩ := List.append_inj h (by simp [henums])
  exact ⟨List.map_injective_iff.mpr (fun _ _ => Definition.enum.inj) henums,
    List.map_injective_iff.mpr (fun _ _ => Definition.table.inj) htables,
    List.map_injective_iff.mpr (fun _ _ => Definition.interface.inj) hinterfaces⟩

/-! ## Catalogs -/

namespace Catalog

/-- The numbers of enums and objects of a catalog. -/
def count (c : Catalog) : Target → Nat
  | .enum => c.enums.length
  | .object => c.tables.length

/-- **The fields of a catalog fit it.** -/
def Fits (c : Catalog) : Prop := ∀ t ∈ c.tables, t.Fits c.count

/-- Catalogs that have the same numbers of enums and of tables have the same counts. -/
theorem count_eq {c c' : Catalog} (henums : c.enums.length = c'.enums.length)
    (htables : c.tables.length = c'.tables.length) : c.count = c'.count := by
  funext target
  cases target with
  | enum => exact henums
  | object => exact htables

variable {c c' : Catalog}

/-- **A listing tells what it shows**, to a reader who knows how many enums and tables there are. -/
theorem ofJson?_document_listing (hfits : c.Fits) (keep : String → Bool) :
    Listing.ofJson? c.count (c.document .listing keep) = some (c.toListing keep) := by
  rw [document_listing_eq]
  exact Listing.ofJson?_json fun t ht => hfits t (List.mem_filter.mp ht).1

/-- **An unfiltered listing tells the catalog**: its arrays are as long as the lists, and with these numbers
it is read back. -/
theorem eq_of_listing_eq (hfits : c.Fits) (hfits' : c'.Fits)
    (h : c.document .listing (fun _ => true) = c'.document .listing fun _ => true) :
    c'.info = c.info ∧ c'.enums = c.enums ∧ c'.tables = c.tables ∧ c'.interfaces = c.interfaces := by
  have hcount : c'.count = c.count := by
    rw [document_listing_all, document_listing_all] at h
    simp only [Catalog.json, Json.object.injEq, List.cons.injEq, Prod.mk.injEq, Json.array.injEq, true_and] at h
    obtain ⟨-, henums, htables, -⟩ := h
    exact count_eq (by simpa using (congrArg List.length henums).symm)
      (by simpa using (congrArg List.length htables).symm)
  have hread := ofJson?_document_listing hfits' fun _ => true
  rw [hcount, ← h, ofJson?_document_listing hfits, Option.some_inj] at hread
  simpa [toListing, eq_comm] using hread

namespace MadeOf

variable {enums enums' : List EnumDef} {tables tables' : List TableDef}
  {interfaces interfaces' : List InterfaceDef}

/-- **A document by name tells what it shows**, to a reader who knows how many enums and tables there are. -/
theorem ofJson?_document_byName (h : c.MadeOf enums tables interfaces) (hfits : c.Fits) (keep : String → Bool) :
    Document.ofJson? c.count (c.document .byName keep) = some
      { info := c.info
        definitions := .ofList <|
          ((allDefinitions enums tables interfaces).filter fun d => keep d.name).map fun d => (d.name, d) } := by
  rw [h.document_eq]
  refine ofJson?_documentOf_byName h.nodup (fun t ht => hfits t ?_) _ _
  rw [h.tables_eq]
  exact (sortByName_perm _ _).mem_iff.mpr ht

theorem length_eq (h : c.MadeOf enums tables interfaces) :
    c.enums.length = enums.length ∧ c.tables.length = tables.length := by
  rw [h.enums_eq, h.tables_eq]
  exact ⟨(sortByName_perm _ _).length_eq, (sortByName_perm _ _).length_eq⟩

/-- **An unfiltered document by name tells how many definitions of each kind there are**, before it is known
which. -/
theorem count_eq_of_byName_eq (h : c.MadeOf enums tables interfaces)
    (h' : c'.MadeOf enums' tables' interfaces')
    (hdocument : c.document .byName (fun _ => true) = c'.document .byName fun _ => true) :
    c'.count = c.count := by
  rw [h.document_eq, h'.document_eq] at hdocument
  simp only [documentOf, List.filter_true, Json.object.injEq, List.cons.injEq, Prod.mk.injEq, true_and,
    and_true] at hdocument
  obtain ⟨-, hdefinitions⟩ := hdocument
  obtain ⟨henums, htables, -⟩ := length_eq_of_map_kindText_eq (map_kindText_eq_of_map_json_eq hdefinitions)
  exact Catalog.count_eq (by rw [h.length_eq.1, h'.length_eq.1, henums])
    (by rw [h.length_eq.2, h'.length_eq.2, htables])

/-- **An unfiltered document by name tells the catalog** but for its log. -/
theorem eq_of_byName_eq (h : c.MadeOf enums tables interfaces) (h' : c'.MadeOf enums' tables' interfaces')
    (hfits : c.Fits) (hfits' : c'.Fits)
    (hdocument : c.document .byName (fun _ => true) = c'.document .byName fun _ => true) :
    c' = { c with anomalies := c'.anomalies } := by
  have hread := h'.ofJson?_document_byName hfits' fun _ => true
  rw [h.count_eq_of_byName_eq h' hdocument, ← hdocument, h.ofJson?_document_byName hfits, Option.some_inj,
    Document.mk.injEq] at hread
  obtain ⟨hinfo, hdefinitions⟩ := hread
  have hentries := congrArg Dict.entries hdefinitions
  rw [Dict.entries_ofList _ (nodup_map_fst_shown h.nodup (fun _ => true) fun d => d),
    Dict.entries_ofList _ (nodup_map_fst_shown h'.nodup (fun _ => true) fun d => d), List.filter_true, List.filter_true,
    List.map_inj_right fun _ _ heq => (Prod.mk.inj heq).2] at hentries
  obtain ⟨rfl, rfl, rfl⟩ := allDefinitions_inj hentries
  have hindex : c'.index = c.index := h'.index_eq.trans h.index_eq.symm
  obtain ⟨info', enums', tables', interfaces', index', anomalies'⟩ := c'
  rw [Catalog.mk.injEq]
  exact ⟨hinfo.symm, h'.enums_eq.trans h.enums_eq.symm, h'.tables_eq.trans h.tables_eq.symm,
    h'.interfaces_eq.trans h.interfaces_eq.symm, hindex, rfl⟩

end MadeOf

end Catalog

/-- **The fields of the catalog of an accepted schema fit it**, for indices count its declarations. -/
theorem SchemaDecl.Accepts.fits {s : SchemaDecl} {enums : List EnumDef} {objects : List CheckedObject}
    {interfaces : List InterfaceDef} (h : s.Accepts enums objects interfaces) (source : Source) :
    (s.catalog source enums objects interfaces).Fits := by
  have hlength := (h.madeOf_catalog source).length_eq
  have hcount : (s.catalog source enums objects interfaces).count =
      fun target => (s.typeNames.of target).length := by
    funext target
    cases target with
    | enum => exact hlength.1.trans (h.enums.length_eq.symm.trans (List.length_map _).symm)
    | object =>
      refine hlength.2.trans ((List.length_map _).trans ?_)
      exact h.objects.length_eq.symm.trans (List.length_map _).symm
  intro t ht entry hentry
  obtain ⟨f, hread⟩ := h.exists_readFrom ht hentry
  rw [hcount]
  exact hread.fits

/-- **Every text of a catalog is read back**, under every filter, compact or pretty: the value that it denotes
tells the definitions shown with all their strings. -/
theorem compile_readBack {b : Buffer} {source : Source} {c : Catalog} (h : compile b source = .ok c) :
    ∃ s enums tables interfaces, readSchema b = .ok s ∧ s.Defines enums tables interfaces ∧
      ∀ keep pretty v,
        (Json.Denotes (c.render .byName pretty keep) v → Document.ofJson? c.count v = some
          { info := s.info source
            definitions := .ofList <|
              ((allDefinitions enums tables interfaces).filter fun d => keep d.name).map fun d => (d.name, d) }) ∧
        (Json.Denotes (c.render .listing pretty keep) v →
          Listing.ofJson? c.count v = some (c.toListing keep)) := by
  obtain ⟨s, enums, objects, interfaces, hs, haccepts, rfl⟩ := accepts_of_compile h
  have hfits := haccepts.fits source
  refine ⟨s, enums, _, interfaces, hs, haccepts.defines, fun keep pretty v => ⟨fun hv => ?_, fun hv => ?_⟩⟩
  · rw [(Catalog.denotes_render_iff ..).mp hv]
    exact (haccepts.madeOf_catalog source).ofJson?_document_byName hfits keep
  · rw [(Catalog.denotes_render_iff ..).mp hv]
    exact Catalog.ofJson?_document_listing hfits keep

/-- **Unfiltered documents are lossless.** Of two catalogs with the same text by name all but the logs are the
same, and of two with the same listing all but the logs and the order of declaration. Even one field with the
same text is the same in catalogs of the same numbers of enums and tables, so no name passes for a
placeholder. -/
theorem compile_lossless {b b' : Buffer} {source source' : Source} {c c' : Catalog}
    (h : compile b source = .ok c) (h' : compile b' source' = .ok c') :
    (c.render .byName false (fun _ => true) = c'.render .byName false (fun _ => true) →
        c' = { c with anomalies := c'.anomalies }) ∧
      (c.render .listing false (fun _ => true) = c'.render .listing false (fun _ => true) →
        c' = { c with index := c'.index, anomalies := c'.anomalies }) ∧
      (c.enums.length = c'.enums.length → c.tables.length = c'.tables.length →
        ∀ t ∈ c.tables, ∀ t' ∈ c'.tables, ∀ entry ∈ t.fields.entries, ∀ entry' ∈ t'.fields.entries,
          entry.2.json = entry'.2.json → entry.2 = entry'.2) := by
  obtain ⟨s, enums, objects, interfaces, -, haccepts, rfl⟩ := accepts_of_compile h
  obtain ⟨s', enums', objects', interfaces', -, haccepts', rfl⟩ := accepts_of_compile h'
  have hfits := haccepts.fits source
  have hfits' := haccepts'.fits source'
  refine ⟨fun htext => ?_, fun htext => ?_, fun henums htables t ht t' ht' entry hentry entry' hentry' => ?_⟩
  · exact (haccepts.madeOf_catalog source).eq_of_byName_eq (haccepts'.madeOf_catalog source') hfits hfits'
      (Json.compact_injective htext)
  · obtain ⟨hinfo, henums, htables, hinterfaces⟩ := Catalog.eq_of_listing_eq hfits hfits'
      (Json.compact_injective htext)
    rw [← hinfo, ← henums, ← htables, ← hinterfaces]
  · exact (hfits t ht entry hentry).eq_of_json_eq
      (Catalog.count_eq henums htables ▸ hfits' t' ht' entry' hentry')

/-- **The field that is declared three times, as it stands**: once, with the id of its last position. -/
def once : SchemaSpec where
  objects := [{ name := "Thrice", fields := [{ name := "value", base := 7, id := some 2 }] }]

theorem compile_lossless_once :
    ∃ c c', compile (.ofList thrice.bytes) {} = .ok c ∧ compile (.ofList once.bytes) {} = .ok c' ∧
      c.anomalies ≠ c'.anomalies ∧
      c.render .byName false (fun _ => true) = c'.render .byName false (fun _ => true) ∧
      c' = { c with anomalies := c'.anomalies } := by
  have hthrice : thrice.WithinLimits := by decide +kernel
  have honce : once.WithinLimits := by decide +kernel
  obtain ⟨c, hc, hlog⟩ : ∃ c, compile (.ofList thrice.bytes) {} = .ok c ∧ c.anomalies ≠ [] :=
    SchemaSpec.exists_compile hthrice (by decide +kernel)
  obtain ⟨c', hc', hlog'⟩ : ∃ c, compile (.ofList once.bytes) {} = .ok c ∧ c.anomalies = [] :=
    SchemaSpec.exists_compile honce (by decide +kernel)
  have hsame : { c with anomalies := [] } = { c' with anomalies := [] } := by
    have hmap : (thrice.decl.compile {}).map (fun c => { c with anomalies := [] }) =
        (once.decl.compile {}).map fun c => { c with anomalies := [] } := rfl
    rw [← thrice.compile_bytes hthrice, ← once.compile_bytes honce, hc, hc'] at hmap
    exact Except.ok.inj hmap
  have htext : c.render .byName false (fun _ => true) = c'.render .byName false fun _ => true := by
    have hrender := congrArg (fun c : Catalog => c.render .byName false fun _ => true) hsame
    exact hrender
  exact ⟨c, c', hc, hc', hlog' ▸ hlog, htext, (compile_lossless hc hc').1 htext⟩

end InterfaceSchema
