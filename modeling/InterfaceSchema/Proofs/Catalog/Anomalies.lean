import InterfaceSchema.Proofs.Catalog.References
import Mathlib.Data.List.Flatten

/-!
# What the log of a catalog says

The log is filled while the fields of an object are read, before the fields of one name are merged and before
anything is sorted. So **the log is about the declarations and not about the tables**: it has one record for
each declared field whose index leads nowhere, in the order of declaration, whether a later field replaces
it or not (`compile_anomalies`).

A record can therefore be stale: the table may show another field under that name, which leads somewhere or
has no index at all (`anomalies_stale`). The records that describe the tables are exactly those of the fields
that stand. They are found by taking the replaced fields out of the schema (`SchemaDecl.merged`), which is
again an accepted schema, with the same tables and a log without stale records (`compile_shows_iff`).
-/

namespace InterfaceSchema

/-! ## The record of a field -/

/-- A record of a field names it and what it asked for in vain. -/
theorem FieldDef.anomaly?_eq_some_iff {d : FieldDef} {object : String} {a : Anomaly} :
    d.anomaly? object = some a ↔
      a.object = object ∧ a.field = d.name ∧ d.reference = some (.unresolved a.target a.index) := by
  unfold FieldDef.anomaly?
  constructor
  · intro h
    split at h
    · rename_i href
      cases h
      exact ⟨rfl, rfl, href⟩
    · cases h
  · rintro ⟨rfl, hfield, href⟩
    rw [href, ← hfield]

theorem FieldDecl.failedReference?_eq_some_iff {f : FieldDecl} {names : Names} {object : String}
    {a : Anomaly} :
    f.failedReference? names object = some a ↔
      a.object = object ∧ a.field = f.name ∧ f.typeOrNone.target? = some a.target ∧
        f.typeOrNone.index = a.index ∧ a.index ≠ -1 ∧ ¬ names.InRange a.target a.index := by
  unfold FieldDecl.failedReference?
  dsimp only
  rw [Option.bind_eq_some_iff]
  constructor
  · rintro ⟨target, htarget, h⟩
    split at h
    · cases h
    · rename_i hfails
      cases h
      exact ⟨rfl, rfl, htarget, rfl, not_or.mp hfails⟩
  · rintro ⟨rfl, hfield, htarget, hindex, hfails⟩
    refine ⟨a.target, htarget, ?_⟩
    rw [hindex, if_neg (not_or.mpr hfails), ← hfield]

/-- **A field is logged just when its declaration has a reference that leads nowhere.** -/
theorem FieldDef.ReadFrom.anomaly?_eq {d : FieldDef} {names : Names} {f : FieldDecl}
    (h : d.ReadFrom names f) (object : String) : d.anomaly? object = f.failedReference? names object := by
  ext a
  rw [FieldDef.anomaly?_eq_some_iff, FieldDecl.failedReference?_eq_some_iff,
    h.reference_eq_unresolved_iff, h.name, h.target, h.index]

/-! ## The log of a schema -/

/-- The records of an object name it. -/
theorem ObjectDecl.object_of_mem_failedReferences {names : Names} {o : ObjectDecl} {a : Anomaly}
    (h : a ∈ o.failedReferences names) : a.object = o.name := by
  obtain ⟨f, -, hf⟩ := List.mem_filterMap.mp h
  exact (FieldDecl.failedReference?_eq_some_iff.mp hf).1

/-- **The log of an object** has a record for each declared field whose reference leads nowhere. -/
theorem ObjectDecl.anomalies_of_check {names : Names} {o : ObjectDecl} {checked : CheckedObject}
    (h : o.check names = .ok checked) : checked.anomalies = o.failedReferences names := by
  obtain ⟨rfl, hfields⟩ := ObjectDecl.check_eq_ok_iff.mp h
  have hmap := map_eq_map_of_forall₂ (FieldDecl.failedReference? names checked.decl.name)
    (FieldDef.anomaly? · checked.decl.name)
    (fun _ _ hdefine => (FieldDecl.readFrom_of_define hdefine).anomaly?_eq _) hfields
  have hlog := congrArg (List.filterMap id) hmap
  rwa [List.filterMap_map, List.filterMap_map] at hlog

namespace SchemaDecl.Accepts

variable {s : SchemaDecl} {enums : List EnumDef} {objects : List CheckedObject}
  {interfaces : List InterfaceDef}

/-- **The log of an accepted schema** has a record for each declared field whose reference leads nowhere,
in the order of declaration. -/
theorem anomalies_eq (h : s.Accepts enums objects interfaces) :
    objects.flatMap CheckedObject.anomalies = s.failedReferences := by
  have hmap := map_eq_map_of_forall₂ (ObjectDecl.failedReferences s.typeNames)
    CheckedObject.anomalies (fun _ _ => ObjectDecl.anomalies_of_check) h.objects
  rw [List.flatMap_def, hmap, SchemaDecl.failedReferences, List.flatMap_def]

/-- A declared field with an index addresses a list. -/
theorem target?_isSome (h : s.Accepts enums objects interfaces) {o : ObjectDecl} (ho : o ∈ s.objects)
    {f : FieldDecl} (hf : f ∈ o.fields) (hindex : f.typeOrNone.index ≠ -1) :
    f.typeOrNone.target?.isSome := by
  obtain ⟨checked, -, hcheck⟩ := exists_of_forall₂ h.objects.flip ho
  obtain ⟨-, hfields⟩ := ObjectDecl.check_eq_ok_iff.mp hcheck
  obtain ⟨d, -, hdefine⟩ := exists_of_forall₂ hfields.flip hf
  have hread := FieldDecl.readFrom_of_define hdefine
  rw [← hread.target]
  exact hread.addresses (hread.index ▸ hindex)

/-- **The log is empty just when every index leads somewhere.** -/
theorem failedReferences_eq_nil_iff (h : s.Accepts enums objects interfaces) :
    s.failedReferences = [] ↔
      ∀ o ∈ s.objects, ∀ f ∈ o.fields, f.typeOrNone.index ≠ -1 →
        ∃ target n, f.typeOrNone.target? = some target ∧
          s.typeNames.resolve target f.typeOrNone.index = .resolved n := by
  simp only [SchemaDecl.failedReferences, ObjectDecl.failedReferences, List.flatMap_eq_nil_iff,
    List.filterMap_eq_nil_iff, Option.eq_none_iff_forall_ne_some]
  refine forall₂_congr fun o ho => forall₂_congr fun f hf => ?_
  constructor
  · intro hnone hindex
    obtain ⟨target, htarget⟩ := Option.isSome_iff_exists.mp (h.target?_isSome ho hf hindex)
    have hrange : s.typeNames.InRange target f.typeOrNone.index := by
      by_contra hrange
      exact hnone ⟨o.name, f.name, target, f.typeOrNone.index⟩
        (FieldDecl.failedReference?_eq_some_iff.mpr ⟨rfl, rfl, htarget, rfl, hindex, hrange⟩)
    obtain ⟨n, hn⟩ := Names.inRange_iff_resolved.mp hrange
    exact ⟨target, n, htarget, hn⟩
  · intro hresolves a ha
    obtain ⟨-, -, htarget, hindex, hne, hrange⟩ := FieldDecl.failedReference?_eq_some_iff.mp ha
    obtain ⟨target, n, htarget', hn⟩ := hresolves (hindex ▸ hne)
    rw [htarget', Option.some_inj] at htarget
    exact hrange (Names.inRange_iff_resolved.mpr ⟨n, by rw [← htarget, ← hindex, hn]⟩)

end SchemaDecl.Accepts

/-- **The log of a catalog is exact.** It is the list of the references of the schema that lead nowhere, in
the order of declaration; every reference of a table that leads nowhere has its record, and the log is empty
just when every declared index leads somewhere. -/
theorem compile_anomalies {b : Buffer} {source : Source} {c : Catalog} (h : compile b source = .ok c) :
    ∃ s, readSchema b = .ok s ∧ c.anomalies = s.failedReferences ∧
      (∀ t ∈ c.tables, ∀ key f, (key, f) ∈ t.fields.entries → ∀ target index,
        f.reference = some (.unresolved target index) → ⟨t.name, key, target, index⟩ ∈ c.anomalies) ∧
      (c.anomalies = [] ↔ ∀ o ∈ s.objects, ∀ f ∈ o.fields, f.typeOrNone.index ≠ -1 →
        ∃ target n, f.typeOrNone.target? = some target ∧
          s.typeNames.resolve target f.typeOrNone.index = .resolved n) := by
  obtain ⟨s, enums, objects, interfaces, hs, haccepts, rfl⟩ := accepts_of_compile h
  have hlog : (s.catalog source enums objects interfaces).anomalies = s.failedReferences :=
    haccepts.anomalies_eq
  refine ⟨s, hs, hlog, ?_, hlog ▸ haccepts.failedReferences_eq_nil_iff⟩
  intro t ht key f hf target index href
  obtain ⟨checked, hchecked, rfl⟩ := SchemaDecl.Accepts.mem_tables_catalog.mp ht
  obtain ⟨hstanding, rfl⟩ := CheckedObject.mem_fields_define.mp hf
  refine List.mem_flatMap.mpr ⟨checked, hchecked, List.mem_filterMap.mpr ⟨f, ?_, ?_⟩⟩
  · exact (standing_sublist _ _).subset hstanding
  · exact FieldDef.anomaly?_eq_some_iff.mpr ⟨rfl, rfl, href⟩

theorem compile_anomalies_chain :
    ∃ c, compile (.ofList chain.bytes) {} = .ok c ∧ ∃ s, readSchema (.ofList chain.bytes) = .ok s ∧
      c.anomalies = s.failedReferences ∧
      (∀ t ∈ c.tables, ∀ key f, (key, f) ∈ t.fields.entries → ∀ target index,
        f.reference = some (.unresolved target index) → ⟨t.name, key, target, index⟩ ∈ c.anomalies) ∧
      (c.anomalies = [] ↔ ∀ o ∈ s.objects, ∀ f ∈ o.fields, f.typeOrNone.index ≠ -1 →
        ∃ target n, f.typeOrNone.target? = some target ∧
          s.typeNames.resolve target f.typeOrNone.index = .resolved n) := by
  obtain ⟨c, hc, -⟩ := exists_compile_chain
  exact ⟨c, hc, compile_anomalies hc⟩

/-! ## Stale records -/

/-- **A catalog shows what a record says**: its table of that name has a field of that name, which keeps the
list and the index asked for in vain. -/
def Catalog.Shows (c : Catalog) (a : Anomaly) : Prop :=
  ∃ t ∈ c.tables, t.name = a.object ∧
    (t.fields.get? a.field).bind FieldDef.reference = some (.unresolved a.target a.index)

instance (c : Catalog) (a : Anomaly) : Decidable (c.Shows a) :=
  inferInstanceAs (Decidable (∃ t ∈ c.tables, _ ∧ _))

/-- The field a record is about. -/
def Anomaly.place (a : Anomaly) : String × String := (a.object, a.field)

/-- **A field that is declared three times**, at last without an index. -/
def thrice : SchemaSpec where
  objects := [{
    name := "Thrice"
    fields := [
      { name := "value", base := 15, index := 7 },
      { name := "value", base := 15, index := 8 },
      { name := "value", base := 7 }] }]

/-- **A log may hold stale records, and several of one field**: replacing a field does not take back what was
logged about it. -/
theorem anomalies_stale :
    ∃ c, compile (.ofList thrice.bytes) {} = .ok c ∧ (∃ a ∈ c.anomalies, ¬ c.Shows a) ∧
      ¬ (c.anomalies.map Anomaly.place).Nodup := by
  exact SchemaSpec.exists_compile (by decide +kernel) (by decide +kernel)

/-! ## Records of fields that stand -/

/-- **An object without the fields that are replaced.** -/
def ObjectDecl.merged (o : ObjectDecl) : ObjectDecl :=
  { o with fields := standing FieldDecl.name o.fields }

/-- **A schema without the fields that are replaced.** -/
def SchemaDecl.merged (s : SchemaDecl) : SchemaDecl :=
  { s with objects := s.objects.map ObjectDecl.merged }

/-- What has been made of an object without the fields that are replaced. -/
def CheckedObject.merged (checked : CheckedObject) : CheckedObject :=
  ⟨checked.decl.merged, standing FieldDef.name checked.fields⟩

/-- Where no object repeats a name no field is replaced. -/
theorem SchemaDecl.merged_eq_self {s : SchemaDecl}
    (h : ∀ o ∈ s.objects, (o.fields.map (·.name)).Nodup) : s.merged = s := by
  have hobjects : s.objects.map ObjectDecl.merged = s.objects := by
    refine (List.map_congr_left fun o ho => ?_).trans (List.map_id _)
    rw [ObjectDecl.merged, standing_eq_self (h o ho)]
    rfl
  rw [SchemaDecl.merged, hobjects]

/-- Taking out fields renames nothing. -/
theorem SchemaDecl.typeNames_merged (s : SchemaDecl) : s.merged.typeNames = s.typeNames := by
  rw [SchemaDecl.typeNames, SchemaDecl.merged, List.map_map]
  rfl

theorem ObjectDecl.check_merged {names : Names} {o : ObjectDecl} {checked : CheckedObject}
    (h : o.check names = .ok checked) : o.merged.check names = .ok checked.merged := by
  obtain ⟨rfl, hfields⟩ := ObjectDecl.check_eq_ok_iff.mp h
  have hname : ∀ f d, FieldDecl.define names checked.decl.name f = .ok d → d.name = f.name :=
    fun _ _ hdefine => (FieldDecl.readFrom_of_define hdefine).name
  have hstanding := forall₂_standing hname hfields
  exact ObjectDecl.check_eq_ok_iff.mpr ⟨rfl, hstanding⟩

/-- **A log without replaced fields is a part of the whole log**, in order. -/
theorem SchemaDecl.failedReferences_merged_sublist (s : SchemaDecl) :
    s.merged.failedReferences.Sublist s.failedReferences := by
  rw [SchemaDecl.failedReferences, s.typeNames_merged, SchemaDecl.merged, List.flatMap_map]
  exact List.Sublist.flatMap_right _ fun o _ => (standing_sublist _ _).filterMap _

/-- **A log without replaced fields has at most one record of each field.** -/
theorem SchemaDecl.nodup_place_merged {s : SchemaDecl} (h : (s.objects.map (·.name)).Nodup) :
    (s.merged.failedReferences.map Anomaly.place).Nodup := by
  refine List.pairwise_map.mpr ?_
  rw [SchemaDecl.failedReferences, s.typeNames_merged, SchemaDecl.merged, List.flatMap_map,
    List.pairwise_flatMap]
  constructor
  · -- Within an object the fields that stand have different names.
    intro o _
    refine List.pairwise_filterMap.mpr ((List.pairwise_pwFilter _).imp ?_)
    intro f f' hne a ha a' ha' hplace
    have hfield := (FieldDecl.failedReference?_eq_some_iff.mp ha).2.1
    have hfield' := (FieldDecl.failedReference?_eq_some_iff.mp ha').2.1
    exact hne (hfield ▸ hfield' ▸ congrArg Prod.snd hplace)
  · -- The objects have different names.
    refine (List.pairwise_map.mp h).imp ?_
    intro o o' hne a ha a' ha' hplace
    have hname : o.name = a.object := (ObjectDecl.object_of_mem_failedReferences ha).symm
    have hname' : o'.name = a'.object := (ObjectDecl.object_of_mem_failedReferences ha').symm
    exact hne (hname ▸ hname' ▸ congrArg Prod.fst hplace)

namespace SchemaDecl.Accepts

variable {s : SchemaDecl} {enums : List EnumDef} {objects : List CheckedObject}
  {interfaces : List InterfaceDef}

/-- **An accepted schema is accepted without the fields that are replaced.** -/
theorem merged (h : s.Accepts enums objects interfaces) :
    s.merged.Accepts enums (objects.map CheckedObject.merged) interfaces where
  enums := h.enums
  objects := by
    rw [s.typeNames_merged]
    refine List.forall₂_map_left_iff.mpr (List.forall₂_map_right_iff.mpr ?_)
    exact h.objects.imp fun _ _ => ObjectDecl.check_merged
  interfaces := h.interfaces
  nodup := by
    rw [SchemaDecl.names, SchemaDecl.merged, List.map_map]
    exact h.nodup

/-- **A catalog shows exactly the records of the fields that stand.** -/
theorem shows_catalog_iff (h : s.Accepts enums objects interfaces) {source : Source} {a : Anomaly} :
    (s.catalog source enums objects interfaces).Shows a ↔ a ∈ s.merged.failedReferences := by
  rw [← h.merged.anomalies_eq, List.flatMap_map, List.mem_flatMap, Catalog.Shows]
  simp only [mem_tables_catalog, CheckedObject.anomalies, List.mem_filterMap,
    FieldDef.anomaly?_eq_some_iff, Option.bind_eq_some_iff, Dict.get?_eq_some_iff]
  constructor
  · rintro ⟨-, ⟨checked, hchecked, rfl⟩, hobject, f, hf, href⟩
    obtain ⟨hstanding, hfield⟩ := CheckedObject.mem_fields_define.mp hf
    exact ⟨checked, hchecked, f, hstanding, hobject.symm, hfield.symm, href⟩
  · rintro ⟨checked, hchecked, f, hstanding, hobject, hfield, href⟩
    exact ⟨_, ⟨checked, hchecked, rfl⟩, hobject.symm, f,
      CheckedObject.mem_fields_define.mpr ⟨hstanding, hfield.symm⟩, href⟩

/-- **Every record names a field of a table**, though perhaps not the one it was logged for. -/
theorem exists_field_of_mem_anomalies {source : Source} {a : Anomaly}
    (ha : a ∈ (s.catalog source enums objects interfaces).anomalies) :
    ∃ t ∈ (s.catalog source enums objects interfaces).tables,
      t.name = a.object ∧ a.field ∈ t.fields.keys := by
  obtain ⟨checked, hchecked, ha⟩ := List.mem_flatMap.mp ha
  obtain ⟨f, hf, hrecord⟩ := List.mem_filterMap.mp ha
  obtain ⟨hobject, hfield, -⟩ := FieldDef.anomaly?_eq_some_iff.mp hrecord
  refine ⟨checked.define, mem_tables_catalog.mpr ⟨checked, hchecked, rfl⟩, hobject.symm, ?_⟩
  exact hfield ▸ Dict.mem_keys_ofList_map.mpr (List.mem_map_of_mem hf)

end SchemaDecl.Accepts

/-- **The records that describe the catalog are those of the fields that stand.** Every record names a field
of a table; those of the fields that no later one replaces stand in the log in order, at most one for each
field, and these are the records that the catalog shows. So where no object repeats the name of a field no
record is stale. -/
theorem compile_shows_iff {b : Buffer} {source : Source} {c : Catalog} (h : compile b source = .ok c) :
    ∃ s, readSchema b = .ok s ∧
      (∀ a ∈ c.anomalies, ∃ t ∈ c.tables, t.name = a.object ∧ a.field ∈ t.fields.keys) ∧
      s.merged.failedReferences.Sublist c.anomalies ∧
      (s.merged.failedReferences.map Anomaly.place).Nodup ∧
      (∀ a, c.Shows a ↔ a ∈ s.merged.failedReferences) ∧
      ((∀ o ∈ s.objects, (o.fields.map (·.name)).Nodup) →
        (∀ a ∈ c.anomalies, c.Shows a) ∧ (c.anomalies.map Anomaly.place).Nodup) := by
  obtain ⟨s, enums, objects, interfaces, hs, haccepts, rfl⟩ := accepts_of_compile h
  have hlog : (s.catalog source enums objects interfaces).anomalies = s.failedReferences :=
    haccepts.anomalies_eq
  have hnodup := SchemaDecl.nodup_place_merged
    (List.nodup_append.mp (List.nodup_append.mp haccepts.nodup).1).2.1
  refine ⟨s, hs, fun a => SchemaDecl.Accepts.exists_field_of_mem_anomalies,
    hlog ▸ s.failedReferences_merged_sublist, hnodup, fun a => haccepts.shows_catalog_iff, ?_⟩
  intro hdistinct
  have hmerged := SchemaDecl.merged_eq_self hdistinct
  refine ⟨fun a ha => haccepts.shows_catalog_iff.mpr ?_, ?_⟩
  · rwa [hmerged, ← hlog]
  · rwa [hlog, ← hmerged]

/-- **Two fields that lead nowhere, of which one is replaced.** -/
def relinked : SchemaSpec where
  objects := [{
    name := "Node"
    fields := [
      { name := "next", base := 15, index := 7 },
      { name := "value", base := 15, index := 8 },
      { name := "value", base := 7 }] }]

/-- Of two records one is stale; and where no name is repeated none is. -/
theorem compile_shows_iff_relinked :
    (∃ c, compile (.ofList relinked.bytes) {} = .ok c ∧
      c.anomalies = [⟨"Node", "next", .object, 7⟩, ⟨"Node", "value", .object, 8⟩] ∧
      ∀ a, c.Shows a ↔ a = ⟨"Node", "next", .object, 7⟩) ∧
    ∃ c, compile (.ofList chain.bytes) {} = .ok c ∧ c.anomalies ≠ [] ∧ ∀ a ∈ c.anomalies, c.Shows a := by
  constructor
  · have hlimits : relinked.WithinLimits := by decide +kernel
    obtain ⟨c, hc, hlog⟩ : ∃ c, compile (.ofList relinked.bytes) {} = .ok c ∧
        c.anomalies = [⟨"Node", "next", .object, 7⟩, ⟨"Node", "value", .object, 8⟩] :=
      SchemaSpec.exists_compile hlimits (by decide +kernel)
    obtain ⟨s, hs, -, -, -, hshows, -⟩ := compile_shows_iff hc
    cases (relinked.readSchema_ofList_bytes hlimits).symm.trans hs
    have hstanding : relinked.decl.merged.failedReferences = [⟨"Node", "next", .object, 7⟩] := by
      decide +kernel
    refine ⟨c, hc, hlog, fun a => ?_⟩
    rw [hshows, hstanding, List.mem_singleton]
  · obtain ⟨c, hc, hlog⟩ := exists_compile_chain
    obtain ⟨s, hs, -, -, -, -, hdistinct⟩ := compile_shows_iff hc
    cases (chain.readSchema_ofList_bytes chain_withinLimits).symm.trans hs
    exact ⟨c, hc, hlog, (hdistinct (by decide +kernel)).1⟩

end InterfaceSchema
