import InterfaceSchema.Proofs.Catalog.Anomalies
import InterfaceSchema.Proofs.Catalog.Order
import Mathlib.Data.List.Infix

/-!
# Appending declarations is safe

A schema that grows at the end of its lists keeps every position it had. So what was found by position is
found again, and only an index that was too large can lead somewhere now. Compiling the longer schema gives
**what compiling the shorter one gives, with each reference grown** (`Reference.grow`) and with more
definitions; the shorter one compiles when the longer one does.

Growing is a function of the names, and each step of compiling commutes with it: what an index leads to, the
definition of a field, the check of an object, and its table. The log can only lose records, those of the
indices that are positions now.
-/

namespace InterfaceSchema

variable {α β γ ε : Type}

/-! ## Growing -/

/-- **A reference after names were appended**: a name that was found stays, and an index that led nowhere leads
to what stands at its position now, if something does. -/
def Reference.grow (names : Names) : Reference → Reference
  | .resolved name => .resolved name
  | .unresolved target index =>
    if h : 0 ≤ index.toInt ∧ index.toInt.toNat < (names.of target).length then
      .resolved ((names.of target).get ⟨index.toInt.toNat, h.2⟩)
    else .unresolved target index

/-- A field whose reference has grown. Nothing else of it changes. -/
def FieldDef.grow (names : Names) (f : FieldDef) : FieldDef :=
  { f with reference := f.reference.map (Reference.grow names) }

/-- A table whose fields have grown. -/
def TableDef.grow (names : Names) (t : TableDef) : TableDef :=
  { t with fields := t.fields.map (FieldDef.grow names) }

/-- **A definition after names were appended.** Enums and interfaces do not change. -/
def Definition.grow (names : Names) : Definition → Definition
  | .enum e => .enum e
  | .table t => .table (t.grow names)
  | .interface i => .interface i

/-- A checked object whose fields have grown. -/
def CheckedObject.grow (names : Names) (o : CheckedObject) : CheckedObject :=
  ⟨o.decl, o.fields.map (FieldDef.grow names)⟩

@[simp] theorem Definition.name_grow (names : Names) (d : Definition) : (d.grow names).name = d.name := by
  cases d <;> rfl

/-- **Names are appended**, to either list. -/
def Names.Extends (names names' : Names) : Prop := ∀ target, names.of target <+: names'.of target

namespace Names

variable {names names' : Names}

/-- Positions stay positions. -/
theorem Extends.inRange (h : names.Extends names') {target : Target} {index : Int32}
    (hrange : names.InRange target index) : names'.InRange target index :=
  ⟨hrange.1, lt_of_lt_of_le hrange.2 (Int.ofNat_le.mpr (h target).length_le)⟩

/-- A reference that led nowhere grows to what its index leads to now. -/
theorem grow_unresolved (names : Names) (target : Target) (index : Int32) :
    (Reference.unresolved target index).grow names = names.resolve target index := by
  rw [Reference.grow]
  split
  · rename_i h
    exact (resolve_eq_resolved_iff.mpr
      ⟨index.toInt.toNat, by omega, List.getElem?_eq_getElem h.2⟩).symm
  · rename_i h
    refine (resolve_eq_unresolved_iff.mpr ⟨⟨rfl, rfl⟩, ?_⟩).symm
    rintro ⟨hnonneg, hlt⟩
    exact h ⟨hnonneg, by omega⟩

/-- **What an index leads to grows to what it leads to among more names.** -/
theorem Extends.grow_resolve (h : names.Extends names') (target : Target) (index : Int32) :
    (names.resolve target index).grow names' = names'.resolve target index := by
  cases hresolve : names.resolve target index with
  | resolved name =>
    obtain ⟨position, hposition, hname⟩ := resolve_eq_resolved_iff.mp hresolve
    obtain ⟨more, hmore⟩ := h target
    obtain ⟨hlt, -⟩ := List.getElem?_eq_some_iff.mp hname
    refine (resolve_eq_resolved_iff.mpr ⟨position, hposition, ?_⟩).symm
    rw [← hmore, List.getElem?_append_left hlt, hname]
  | unresolved target' index' =>
    obtain ⟨⟨rfl, rfl⟩, -⟩ := resolve_eq_unresolved_iff.mp hresolve
    exact grow_unresolved names' target' index'

end Names

/-! ## Each step of compiling grows -/

/-- What is made of each result can be made of all results. -/
theorem mapM_except_map {f : α → Except ε β} {g : β → γ} (items : List α) :
    (items.mapM fun a => (f a).map g) = (items.mapM f).map (List.map g) := by
  induction items with
  | nil => rfl
  | cons a rest ih =>
    rw [List.mapM_cons, List.mapM_cons, ih]
    cases f a with
    | error e => rfl
    | ok b =>
      cases rest.mapM f with
      | error e => rfl
      | ok bs => rfl

section Steps

variable {names names' : Names}

/-- **The definition of a field grows.** -/
theorem FieldDecl.define_grow (h : names.Extends names') (object : String) (f : FieldDecl) :
    f.define names' object = (f.define names object).map (FieldDef.grow names') := by
  have hmeaning : ∀ m, f.ofMeaning names' m = (f.ofMeaning names m).grow names' := by
    intro m
    unfold FieldDecl.ofMeaning FieldDef.grow
    simp only [Option.map_map, Function.comp_def, h.grow_resolve]
  rw [define_eq_map, define_eq_map]
  cases f.typeOrNone.meaning object f.name with
  | error e => rfl
  | ok m => exact congrArg Except.ok (hmeaning m)

theorem ObjectDecl.check_eq_map (names : Names) (o : ObjectDecl) :
    o.check names = (o.fields.mapM (FieldDecl.define names o.name)).map (CheckedObject.mk o) := by
  unfold check
  cases o.fields.mapM (FieldDecl.define names o.name) <;> rfl

/-- **The check of an object grows.** -/
theorem ObjectDecl.check_grow (h : names.Extends names') (o : ObjectDecl) :
    o.check names' = (o.check names).map (CheckedObject.grow names') := by
  have hfields : FieldDecl.define names' o.name =
      fun f => (f.define names o.name).map (FieldDef.grow names') :=
    funext (FieldDecl.define_grow h o.name)
  rw [check_eq_map, check_eq_map, hfields, mapM_except_map]
  cases o.fields.mapM (FieldDecl.define names o.name) <;> rfl

/-- The table of an object grows. -/
theorem CheckedObject.define_grow (names : Names) (o : CheckedObject) :
    (o.grow names).define = o.define.grow names := by
  have hfields : (Dict.ofList (o.fields.map fun f => (f.name, f))).map (FieldDef.grow names) =
      .ofList ((o.fields.map (FieldDef.grow names)).map fun f => (f.name, f)) := by
    rw [Dict.map_ofList, List.map_map, List.map_map]
    rfl
  unfold CheckedObject.define TableDef.grow
  rw [hfields]
  rfl

/-- **Of a field's record is left what is still no position.** -/
theorem FieldDecl.failedReference?_grow (h : names.Extends names') (object : String) (f : FieldDecl) :
    f.failedReference? names' object =
      (f.failedReference? names object).filter fun a => !names'.InRange a.target a.index := by
  ext a
  simp only [Option.filter_eq_some_iff, failedReference?_eq_some_iff, Bool.not_eq_true', decide_eq_false_iff_not]
  constructor
  · rintro ⟨hobject, hfield, htarget, hindex, hnone, hrange⟩
    exact ⟨⟨hobject, hfield, htarget, hindex, hnone, mt h.inRange hrange⟩, hrange⟩
  · rintro ⟨⟨hobject, hfield, htarget, hindex, hnone, -⟩, hrange⟩
    exact ⟨hobject, hfield, htarget, hindex, hnone, hrange⟩

theorem ObjectDecl.failedReferences_grow (h : names.Extends names') (o : ObjectDecl) :
    o.failedReferences names' =
      (o.failedReferences names).filter fun a => !names'.InRange a.target a.index := by
  rw [failedReferences, failedReferences, List.filter_filterMap]
  exact List.filterMap_congr fun f _ => FieldDecl.failedReference?_grow h o.name f

end Steps

/-! ## Longer schemas -/

/-- **A schema is continued by another one**, which appends to each of its lists. The root object stays where
it is. -/
structure SchemaDecl.Extends (s s' : SchemaDecl) : Prop where
  enums : s.enums <+: s'.enums
  objects : s.objects <+: s'.objects
  services : s.services <+: s'.services
  fileIdent : s'.fileIdent = s.fileIdent
  fileExt : s'.fileExt = s.fileExt
  root : ∀ o, s.root = some o → s'.root = some o

/-- **What a catalog has become** when declarations were appended to its schema. -/
structure Catalog.GrowsTo (c c' : Catalog) (s s' : SchemaDecl) : Prop where
  /-- The names come in the order in which they came before, with others in between. -/
  keys : c.index.keys.Sublist c'.index.keys
  /-- Each name has the definition that it had, with its references grown. -/
  get? : ∀ n ∈ s.names, ∃ d, c.get? n = some d ∧ c'.get? n = some (d.grow s'.typeNames)
  /-- A reference that led nowhere can only lead to what was appended. -/
  appended : ∀ t ∈ c.tables, ∀ entry ∈ t.fields.entries, ∀ target index,
    entry.2.reference = some (.unresolved target index) →
      index.toInt < 0 ∨ (s.typeNames.of target).length ≤ index.toInt
  /-- The records of the objects that there were are a part of the log that there was, in order: those whose
  indices are still no positions. -/
  anomalies : (c'.anomalies.filter fun a => a.object ∈ s.objects.map (·.name)).Sublist c.anomalies
  anomalies_eq : (c'.anomalies.filter fun a => a.object ∈ s.objects.map (·.name)) =
    c.anomalies.filter fun a => !s'.typeNames.InRange a.target a.index
  fileIdent : c'.info.fileIdent = c.info.fileIdent
  fileExt : c'.info.fileExt = c.info.fileExt
  root : ∀ n, c.info.root = some n → c'.info.root = some n

/-- What has been made of longer lists has the grown definitions among its own. -/
theorem grow_mem_allDefinitions {names : Names} {enums enums' : List EnumDef}
    {objects objects' : List CheckedObject} {interfaces interfaces' : List InterfaceDef}
    (henums : enums <+: enums') (hobjects : objects.map (CheckedObject.grow names) <+: objects')
    (hinterfaces : interfaces <+: interfaces') {d : Definition}
    (h : d ∈ allDefinitions enums (objects.map CheckedObject.define) interfaces) :
    d.grow names ∈ allDefinitions enums' (objects'.map CheckedObject.define) interfaces' := by
  simp only [allDefinitions, List.mem_append, List.mem_map] at h ⊢
  obtain (⟨e, he, rfl⟩ | ⟨t, ⟨o, ho, rfl⟩, rfl⟩) | ⟨i, hi, rfl⟩ := h
  · exact .inl (.inl ⟨e, henums.subset he, rfl⟩)
  · have ho' : o.grow names ∈ objects' := hobjects.subset (List.mem_map_of_mem ho)
    exact .inl (.inr ⟨_, ⟨_, ho', o.define_grow names⟩, rfl⟩)
  · exact .inr ⟨i, hinterfaces.subset hi, rfl⟩

/-- What corresponds to a longer list starts with what corresponds to a shorter one. -/
theorem exists_isPrefix_of_forall₂ {R : α → β → Prop} {as as' : List α} {bs' : List β} (hstart : as <+: as')
    (h : List.Forall₂ R as' bs') : ∃ bs, bs <+: bs' ∧ List.Forall₂ R as bs := by
  obtain ⟨more, rfl⟩ := hstart
  have htake := List.forall₂_take as.length h
  rw [List.take_left] at htake
  exact ⟨_, List.take_prefix _ _, htake⟩

namespace SchemaDecl.Extends

variable {s s' : SchemaDecl} {enums' : List EnumDef} {objects' : List CheckedObject}
  {interfaces' : List InterfaceDef}

theorem typeNames (h : s.Extends s') : s.typeNames.Extends s'.typeNames := by
  intro target
  cases target with
  | enum => exact h.enums.map _
  | object => exact h.objects.map _

theorem names (h : s.Extends s') : s.names.Sublist s'.names :=
  ((h.enums.map _).sublist.append (h.objects.map _).sublist).append (h.services.map _).sublist

/-- **When a longer schema is accepted, so is the shorter one**, and what was made of the one grows to the
first part of what was made of the other. -/
theorem accepts (h : s.Extends s') (haccepts : s'.Accepts enums' objects' interfaces') :
    ∃ enums objects interfaces, s.Accepts enums objects interfaces ∧ enums <+: enums' ∧
      objects.map (CheckedObject.grow s'.typeNames) <+: objects' ∧ interfaces <+: interfaces' := by
  obtain ⟨enums, henums, hdefine⟩ := exists_isPrefix_of_forall₂ h.enums haccepts.enums
  obtain ⟨interfaces, hinterfaces, hservices⟩ := exists_isPrefix_of_forall₂ h.services haccepts.interfaces
  obtain ⟨grown, hgrown, hcheck⟩ := exists_isPrefix_of_forall₂ h.objects haccepts.objects
  have hcheck : s.objects.mapM (fun o => (o.check s.typeNames).map (CheckedObject.grow s'.typeNames))
      = .ok grown := by
    rw [← mapM_eq_ok_iff, funext (ObjectDecl.check_grow h.typeNames)] at hcheck
    exact hcheck
  rw [mapM_except_map] at hcheck
  cases hobjects : s.objects.mapM (ObjectDecl.check s.typeNames) with
  | error e =>
    rw [hobjects] at hcheck
    cases hcheck
  | ok objects =>
    rw [hobjects] at hcheck
    cases hcheck
    exact ⟨enums, objects, interfaces,
      ⟨hdefine, mapM_eq_ok_iff.mp hobjects, hservices, h.names.nodup haccepts.nodup⟩, henums, hgrown,
      hinterfaces⟩

/-- **The log loses the records of indices that are positions now**, and gains only records of objects that
were appended. -/
theorem failedReferences (h : s.Extends s') (hnodup : (s'.objects.map (·.name)).Nodup) :
    (s'.failedReferences.filter fun a => a.object ∈ s.objects.map (·.name)) =
      s.failedReferences.filter fun a => !s'.typeNames.InRange a.target a.index := by
  obtain ⟨more, hmore⟩ := h.objects
  rw [← hmore, List.map_append, List.nodup_append] at hnodup
  have hkept : ((s.objects.flatMap (ObjectDecl.failedReferences s'.typeNames)).filter
      fun a => a.object ∈ s.objects.map (·.name)) =
        s.objects.flatMap (ObjectDecl.failedReferences s'.typeNames) := by
    refine List.filter_eq_self.mpr fun a ha => decide_eq_true ?_
    obtain ⟨o, ho, ha⟩ := List.mem_flatMap.mp ha
    exact ObjectDecl.object_of_mem_failedReferences ha ▸ List.mem_map_of_mem ho
  have hdropped : ((more.flatMap (ObjectDecl.failedReferences s'.typeNames)).filter
      fun a => a.object ∈ s.objects.map (·.name)) = [] := by
    refine List.filter_eq_nil_iff.mpr fun a ha hmem => ?_
    obtain ⟨o, ho, ha⟩ := List.mem_flatMap.mp ha
    rw [ObjectDecl.object_of_mem_failedReferences ha] at hmem
    exact hnodup.2.2 _ (of_decide_eq_true hmem) _ (List.mem_map_of_mem ho) rfl
  rw [SchemaDecl.failedReferences, ← hmore, List.flatMap_append, List.filter_append, hkept, hdropped,
    List.append_nil, SchemaDecl.failedReferences, List.filter_flatMap]
  exact List.flatMap_congr fun o _ => ObjectDecl.failedReferences_grow h.typeNames o

/-- **When a longer schema compiles, so does the shorter one**, and its catalog grows to that of the longer
one. -/
theorem compile (h : s.Extends s') {source source' : Source} {c' : Catalog}
    (hc' : s'.compile source' = .ok c') : ∃ c, s.compile source = .ok c ∧ c.GrowsTo c' s s' := by
  obtain ⟨enums', objects', interfaces', haccepts', rfl⟩ := SchemaDecl.compile_eq_ok_iff.mp hc'
  obtain ⟨enums, objects, interfaces, haccepts, henums, hobjects, hinterfaces⟩ := h.accepts haccepts'
  have hmade := haccepts.madeOf_catalog source
  have hmade' := haccepts'.madeOf_catalog source'
  have hlog : ((s'.catalog source' enums' objects' interfaces').anomalies.filter
      fun a => a.object ∈ s.objects.map (·.name)) =
        (s.catalog source enums objects interfaces).anomalies.filter
          fun a => !s'.typeNames.InRange a.target a.index := by
    show (objects'.flatMap CheckedObject.anomalies).filter _ = (objects.flatMap CheckedObject.anomalies).filter _
    rw [haccepts.anomalies_eq, haccepts'.anomalies_eq]
    exact h.failedReferences (List.nodup_append.mp (List.nodup_append.mp haccepts'.nodup).1).2.1
  refine ⟨_, SchemaDecl.compile_eq_ok_iff.mpr ⟨_, _, _, haccepts, rfl⟩, ?_⟩
  constructor
  case keys =>
    rw [hmade.entries_index.2, hmade'.entries_index.2, haccepts.defines.names, haccepts'.defines.names]
    exact h.names
  case get? =>
    intro n hn
    rw [← haccepts.defines.names, ← Catalog.MadeOf.map_name_allDefinitions] at hn
    obtain ⟨d, hd, rfl⟩ := List.mem_map.mp hn
    refine ⟨d, hmade.get?_eq_some_iff.mpr ⟨hd, rfl⟩, hmade'.get?_eq_some_iff.mpr ⟨?_, d.name_grow _⟩⟩
    exact grow_mem_allDefinitions henums hobjects hinterfaces hd
  case appended =>
    intro t ht entry hentry target index href
    obtain ⟨f, hread⟩ := haccepts.exists_readFrom ht hentry
    obtain ⟨-, -, -, hrange⟩ := hread.reference_eq_unresolved_iff.mp href
    rwa [Names.InRange, not_and_or, not_le, not_lt] at hrange
  case anomalies =>
    rw [hlog]
    exact List.filter_sublist
  case anomalies_eq => exact hlog
  case fileIdent => exact h.fileIdent
  case fileExt => exact h.fileExt
  case root =>
    intro n hn
    obtain ⟨o, ho, hname⟩ := Option.map_eq_some_iff.mp hn
    exact Option.map_eq_some_iff.mpr ⟨o, h.root o ho, hname⟩

end SchemaDecl.Extends

/-! ## Longer descriptions -/

/-- **A description is continued by another one**, which appends to its enums, its objects and its services. -/
structure SchemaSpec.Extends (s s' : SchemaSpec) : Prop where
  enums : s.enums <+: s'.enums
  objects : s.objects <+: s'.objects
  services : s.services <+: s'.services
  fileIdent : s'.fileIdent = s.fileIdent
  fileExt : s'.fileExt = s.fileExt
  root : s'.root = s.root

theorem SchemaSpec.Extends.decl {s s' : SchemaSpec} (h : s.Extends s') : s.decl.Extends s'.decl where
  enums := h.enums.map _
  objects := h.objects.map _
  services := h.services.map _
  fileIdent := congrArg (Option.getD · "") h.fileIdent
  fileExt := congrArg (Option.getD · "") h.fileExt
  root := by
    intro o ho
    obtain ⟨root, hroot, rfl⟩ := Option.map_eq_some_iff.mp ho
    obtain ⟨position, hposition, hget⟩ := Option.bind_eq_some_iff.mp hroot
    obtain ⟨more, hmore⟩ := h.objects
    obtain ⟨hlt, -⟩ := List.getElem?_eq_some_iff.mp hget
    refine Option.map_eq_some_iff.mpr ⟨root, Option.bind_eq_some_iff.mpr ⟨position, ?_, ?_⟩, rfl⟩
    · rw [h.root, hposition]
    · rw [← hmore, List.getElem?_append_left hlt, hget]

/-- **Appending declarations is safe.** When a description compiles that continues another one, the other one
does. The names of the shorter one keep their order and their definitions, but that an index that led nowhere
can lead to an appended declaration now; and of the objects that there were, nothing new is logged. -/
theorem compile_extends {s s' : SchemaSpec} (hs : s.WithinLimits) (hs' : s'.WithinLimits) (h : s.Extends s')
    (source source' : Source) {c' : Catalog} (hc' : compile (.ofList s'.bytes) source' = .ok c') :
    ∃ c, compile (.ofList s.bytes) source = .ok c ∧ c.GrowsTo c' s.decl s'.decl := by
  rw [s'.compile_bytes hs'] at hc'
  rw [s.compile_bytes hs]
  exact h.decl.compile hc'

/-- **The chain with another object**, to which the lost reference leads, and another enum. -/
def chainContinued : SchemaSpec :=
  { chain with
    enums := chain.enums ++ [{ name := "Beta" }]
    objects := chain.objects ++ [{ name := "Found" }]
    services := [{ name := "s", attributes := [("type", "interface")] }] }

example : (chain.decl.typeNames.resolve .object 2).grow chainContinued.decl.typeNames = .resolved "Found" := by
  decide +kernel

theorem compile_extends_chain :
    ∃ c c', compile (.ofList chain.bytes) {} = .ok c ∧ compile (.ofList chainContinued.bytes) {} = .ok c' ∧
      c.GrowsTo c' chain.decl chainContinued.decl := by
  have hextends : chain.Extends chainContinued :=
    ⟨List.prefix_append _ _, List.prefix_append _ _, List.prefix_append [] _, rfl, rfl, rfl⟩
  have hcontinued : chainContinued.WithinLimits := by decide +kernel
  obtain ⟨c', hc', -⟩ : ∃ c', compile (.ofList chainContinued.bytes) {} = .ok c' ∧ c'.anomalies ≠ [] :=
    SchemaSpec.exists_compile hcontinued (by decide +kernel)
  obtain ⟨c, hc, hgrows⟩ := compile_extends chain_withinLimits hcontinued hextends {} {} hc'
  exact ⟨c, c', hc, hc', hgrows⟩

end InterfaceSchema
