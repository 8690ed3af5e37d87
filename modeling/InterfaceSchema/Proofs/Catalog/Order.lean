import InterfaceSchema.Proofs.Catalog.References
import Mathlib.Data.List.Perm.Basic

/-!
# The order of declarations does not matter

Two schemas that declare the same in another order count their types differently, so their fields carry
different indices. `SchemaDecl.Reordered` relates them by what matters: each kind of declaration is the same
up to order, and the fields of corresponding objects **mean the same, each among the names of its own
schema**. A field with another index still does if the index leads to the same name, since the meaning of a
type depends on its index only for whether there is one (`TypeDecl.exists_meaning`).

The catalogs of such schemas agree in everything but the raw indices and the order of their logs
(`Catalog.Agrees`), and one of them exists when the other does. For each declaration is accepted on its own,
the names differ in any order or in none, and a list of different names has only one order by name. The
relation is symmetric, so it is enough to carry an accepted schema over in one direction.
-/

namespace InterfaceSchema

variable {α β γ δ : Type}

/-! ## Lists -/

/-- **A correspondence is carried along another one**, where this can be done for each pair. -/
theorem forall₂_transfer {R : α → β → Prop} {S : α → γ → Prop} {R' : γ → δ → Prop} {S' : β → δ → Prop}
    (h : ∀ a b c, R a b → S a c → ∃ d, R' c d ∧ S' b d) {as : List α} {bs : List β} {cs : List γ}
    (hR : List.Forall₂ R as bs) (hS : List.Forall₂ S as cs) :
    ∃ ds, List.Forall₂ R' cs ds ∧ List.Forall₂ S' bs ds := by
  induction hR generalizing cs with
  | nil =>
    cases hS
    exact ⟨[], .nil, .nil⟩
  | cons hab _ ih =>
    cases hS with
    | cons hac hrest =>
      obtain ⟨d, hcd, hbd⟩ := h _ _ _ hab hac
      obtain ⟨ds, hcs, hbs⟩ := ih hrest
      exact ⟨d :: ds, .cons hcd hcs, .cons hbd hbs⟩

/-- **Different names have only one order.** -/
theorem sortByName_eq_of_perm {name : α → String} {items items' : List α} (hperm : items'.Perm items)
    (hnodup : (items.map name).Nodup) : sortByName name items' = sortByName name items := by
  have hnodup' : (items'.map name).Nodup := (hperm.map name).nodup_iff.mpr hnodup
  refine List.Perm.eq_of_pairwise (fun a b _ _ hab hba => absurd hba (lt_asymm hab))
    (sortByName_pairwise hnodup') (sortByName_pairwise hnodup) ?_
  exact (sortByName_perm name items').trans (hperm.trans (sortByName_perm name items).symm)

/-- Sorting commutes with what leaves the names alone. -/
theorem map_sortByName {name : α → String} {f : α → α} (hf : ∀ a, name (f a) = name a)
    (items : List α) : (sortByName name items).map f = sortByName name (items.map f) :=
  List.map_mergeSort fun a _ b _ => by rw [hf, hf]

namespace Dict

/-- A map with every value changed. -/
def map (f : α → β) (d : Dict α) : Dict β where
  entries := d.entries.map fun entry => (entry.1, f entry.2)
  nodup := by
    rw [List.map_map]
    exact d.nodup

theorem map_insert (f : α → β) (d : Dict α) (key : String) (value : α) :
    (d.insert key value).map f = (d.map f).insert key (f value) := by
  refine ext ?_
  show (put key value d.entries).map _ = put key (f value) (d.entries.map _)
  induction d.entries with
  | nil => rfl
  | cons entry rest ih =>
    rw [put, List.map_cons, put]
    split
    · rfl
    · rw [List.map_cons, ih]

/-- Changing values commutes with merging entries. -/
theorem map_ofList (f : α → β) (entries : List (String × α)) :
    (ofList entries).map f = ofList (entries.map fun entry => (entry.1, f entry.2)) := by
  induction h : entries.reverse generalizing entries with
  | nil =>
    rw [List.reverse_eq_nil_iff.mp h]
    rfl
  | cons entry rest ih =>
    rw [List.reverse_eq_cons_iff.mp h, ofList_concat, map_insert, ih _ (List.reverse_reverse rest),
      List.map_append, List.map_singleton, ofList_concat]

end Dict

/-! ## What indices are not needed for -/

/-- A field without its raw index. -/
def FieldDef.eraseIndex (d : FieldDef) : FieldDef := { d with index := 0 }

/-- A table without the raw indices of its fields. -/
def TableDef.eraseIndices (t : TableDef) : TableDef :=
  { t with fields := t.fields.map FieldDef.eraseIndex }

/-- **Catalogs agree** in all but the raw indices of fields and the order of the log. -/
structure Catalog.Agrees (c c' : Catalog) : Prop where
  info : c'.info = c.info
  enums : c'.enums = c.enums
  interfaces : c'.interfaces = c.interfaces
  tables : c'.tables.map TableDef.eraseIndices = c.tables.map TableDef.eraseIndices
  anomalies : c'.anomalies.Perm c.anomalies

/-! ## Fields that mean the same -/

/-- **Fields mean the same**, each among the names of its schema. -/
def FieldDecl.Alike (names names' : Names) (object : String) (f f' : FieldDecl) : Prop :=
  (f'.define names' object).map FieldDef.eraseIndex = (f.define names object).map FieldDef.eraseIndex

namespace FieldDecl

variable {names names' : Names} {object : String} {f : FieldDecl}

/-- The definition of a field whose type has been given its meaning. -/
def ofMeaning (names : Names) (f : FieldDecl) (m : FieldType) : FieldDef where
  name := f.name
  id := f.id
  offset := f.offset
  base := m.base
  element := m.element
  index := f.typeOrNone.index
  reference := m.target.map fun target => names.resolve target f.typeOrNone.index
  docs := f.docs
  attributes :=
    let attributes := attributeMap f.attributes
    if attributes.isEmpty then none else some attributes

theorem define_eq_map (names : Names) (object : String) (f : FieldDecl) :
    f.define names object = (f.typeOrNone.meaning object f.name).map (f.ofMeaning names) := by
  show (f.typeOrNone.meaning object f.name >>= fun m => .ok (f.ofMeaning names m)) = _
  cases f.typeOrNone.meaning object f.name with
  | error e => rfl
  | ok m => rfl

/-- A field whose type addresses no list means the same among any names. -/
theorem alike_of_target_eq_none (h : f.typeOrNone.target? = none) : f.Alike names names' object f := by
  rw [FieldDecl.Alike, define_eq_map, define_eq_map]
  cases hmeaning : f.typeOrNone.meaning object f.name with
  | error e => rfl
  | ok m =>
    have htarget := (TypeDecl.means_of_meaning hmeaning).target
    rw [h, ite_self] at htarget
    show Except.ok (f.ofMeaning names' m).eraseIndex = Except.ok (f.ofMeaning names m).eraseIndex
    unfold ofMeaning
    rw [htarget]
    rfl

/-- **A field means the same with another index** that leads to the same name, among other names. -/
theorem alike_of_resolve_eq {target : Target} (h : f.typeOrNone.target? = some target) {index : Int32}
    (hnone : index = -1 ↔ f.typeOrNone.index = -1)
    (hresolve : names'.resolve target index = names.resolve target f.typeOrNone.index) :
    f.Alike names names' object { f with type := some { f.typeOrNone with index := index } } := by
  obtain ⟨base, element, hmeaning⟩ := TypeDecl.exists_meaning h
  have hreference : (if index = -1 then none else some target).map
        (fun target => names'.resolve target index)
      = (if f.typeOrNone.index = -1 then none else some target).map
        fun target => names.resolve target f.typeOrNone.index := by
    by_cases hindex : f.typeOrNone.index = -1
    · rw [if_pos hindex, if_pos (hnone.mpr hindex)]
      rfl
    · rw [if_neg hindex, if_neg (mt hnone.mp hindex), Option.map_some, Option.map_some, hresolve]
  have hf := (define_eq_map names object f).trans
    (congrArg (Except.map _) (hmeaning f.typeOrNone.index object f.name))
  have hf' := (define_eq_map names' object
    { f with type := some { f.typeOrNone with index := index } }).trans
    (congrArg (Except.map _) (hmeaning index object f.name))
  rw [FieldDecl.Alike, hf, hf']
  exact congrArg (fun reference => Except.ok
    { (f.ofMeaning names ⟨base, element, none⟩).eraseIndex with reference := reference }) hreference

end FieldDecl

/-! ## Objects that mean the same -/

/-- **Objects mean the same**, field by field. -/
structure ObjectDecl.Alike (names names' : Names) (o o' : ObjectDecl) : Prop where
  name : o'.name = o.name
  docs : o'.docs = o.docs
  isStruct : o'.isStruct = o.isStruct
  fields : List.Forall₂ (FieldDecl.Alike names names' o.name) o.fields o'.fields

/-- **Checked objects mean the same.** -/
structure CheckedObject.Alike (checked checked' : CheckedObject) : Prop where
  name : checked'.decl.name = checked.decl.name
  docs : checked'.decl.docs = checked.decl.docs
  isStruct : checked'.decl.isStruct = checked.decl.isStruct
  fields : checked'.fields.map FieldDef.eraseIndex = checked.fields.map FieldDef.eraseIndex

section Objects

variable {names names' : Names} {o o' : ObjectDecl} {checked checked' : CheckedObject}

theorem ObjectDecl.Alike.symm (h : o.Alike names names' o') : o'.Alike names' names o where
  name := h.name.symm
  docs := h.docs.symm
  isStruct := h.isStruct.symm
  fields := by
    rw [h.name]
    exact List.Forall₂.flip (h.fields.imp fun _ _ => Eq.symm)

/-- **When an object is accepted, so is one that means the same**, with the same result. -/
theorem ObjectDecl.Alike.check (h : o.Alike names names' o') (hcheck : o.check names = .ok checked) :
    ∃ checked', o'.check names' = .ok checked' ∧ checked.Alike checked' := by
  obtain ⟨rfl, hfields⟩ := ObjectDecl.check_eq_ok_iff.mp hcheck
  have hfield : ∀ f d f', f.define names checked.decl.name = .ok d →
      FieldDecl.Alike names names' checked.decl.name f f' →
      ∃ d', f'.define names' checked.decl.name = .ok d' ∧ d'.eraseIndex = d.eraseIndex := by
    intro f d f' hdefine halike
    rw [FieldDecl.Alike, hdefine] at halike
    cases hdefine' : f'.define names' checked.decl.name with
    | error e =>
      rw [hdefine'] at halike
      cases halike
    | ok d' =>
      rw [hdefine'] at halike
      exact ⟨d', rfl, Except.ok.inj halike⟩
  obtain ⟨fields', hfields', herase⟩ := forall₂_transfer hfield hfields h.fields
  rw [← h.name] at hfields'
  refine ⟨⟨o', fields'⟩, ObjectDecl.check_eq_ok_iff.mpr ⟨rfl, hfields'⟩, h.name, h.docs, h.isStruct, ?_⟩
  exact map_eq_map_of_forall₂ _ _ (fun _ _ => id) herase

/-- They are defined as the same table, but for the indices. -/
theorem CheckedObject.Alike.define (h : checked.Alike checked') :
    checked'.define.eraseIndices = checked.define.eraseIndices := by
  have hfields : ∀ fields : List FieldDef,
      (Dict.ofList (fields.map fun f => (f.name, f))).map FieldDef.eraseIndex
        = .ofList ((fields.map FieldDef.eraseIndex).map fun f => (f.name, f)) := by
    intro fields
    rw [Dict.map_ofList, List.map_map, List.map_map]
    rfl
  unfold CheckedObject.define TableDef.eraseIndices
  rw [hfields, hfields, h.name, h.docs, h.isStruct, h.fields]

/-- They are logged alike. -/
theorem CheckedObject.Alike.anomalies (h : checked.Alike checked') :
    checked'.anomalies = checked.anomalies := by
  have hfields : ∀ fields : List FieldDef, ∀ object,
      (fields.filterMap fun f => f.anomaly? object)
        = (fields.map FieldDef.eraseIndex).filterMap fun f => f.anomaly? object := by
    intro fields object
    rw [List.filterMap_map]
    rfl
  unfold CheckedObject.anomalies
  rw [hfields, hfields checked.fields, h.name, h.fields]

end Objects

/-! ## Schemas in another order -/

/-- **A schema in another order.** -/
structure SchemaDecl.Reordered (s s' : SchemaDecl) : Prop where
  info : ∀ source, s'.info source = s.info source
  enums : s'.enums.Perm s.enums
  objects : ∃ objects, objects.Perm s.objects ∧
    List.Forall₂ (ObjectDecl.Alike s.typeNames s'.typeNames) objects s'.objects
  services : s'.services.Perm s.services

namespace SchemaDecl.Reordered

variable {s s' : SchemaDecl}

theorem symm (h : s.Reordered s') : s'.Reordered s where
  info source := (h.info source).symm
  enums := h.enums.symm
  services := h.services.symm
  objects := by
    obtain ⟨objects, hperm, halike⟩ := h.objects
    -- In the order of `s` the objects of `s'` are in another order, and correspond just the same.
    obtain ⟨objects', halike', hperm'⟩ := List.perm_comp_forall₂ hperm.symm halike
    exact ⟨objects', hperm', List.Forall₂.flip (halike'.imp fun _ _ => ObjectDecl.Alike.symm)⟩

/-- The same names are declared. -/
theorem names_perm (h : s.Reordered s') : s'.names.Perm s.names := by
  obtain ⟨objects, hperm, halike⟩ := h.objects
  have hobjects : s'.objects.map (·.name) = objects.map (·.name) :=
    map_eq_map_of_forall₂ ObjectDecl.name ObjectDecl.name (fun _ _ h => h.name) halike
  refine List.Perm.append (List.Perm.append (h.enums.map _) ?_) (h.services.map _)
  rw [hobjects]
  exact hperm.map _

variable {enums : List EnumDef} {objects : List CheckedObject} {interfaces : List InterfaceDef}

/-- **When a schema is accepted, so is one in another order**, with the same results in another order. -/
theorem accepts (h : s.Reordered s') (haccepts : s.Accepts enums objects interfaces) :
    ∃ enums' objects' interfaces', s'.Accepts enums' objects' interfaces' ∧
      enums'.Perm enums ∧ interfaces'.Perm interfaces ∧
      ∃ moved, moved.Perm objects ∧ List.Forall₂ CheckedObject.Alike moved objects' := by
  obtain ⟨enums', henums, hpermEnums⟩ := List.perm_comp_forall₂ h.enums haccepts.enums
  obtain ⟨interfaces', hinterfaces, hpermInterfaces⟩ :=
    List.perm_comp_forall₂ h.services haccepts.interfaces
  obtain ⟨declared, hperm, halike⟩ := h.objects
  obtain ⟨moved, hmoved, hpermObjects⟩ := List.perm_comp_forall₂ hperm haccepts.objects
  have hobject : ∀ (o : ObjectDecl) (checked : CheckedObject) (o' : ObjectDecl),
      o.check s.typeNames = .ok checked → o.Alike s.typeNames s'.typeNames o' →
      ∃ checked', o'.check s'.typeNames = .ok checked' ∧ checked.Alike checked' :=
    fun _ _ _ hcheck halike => halike.check hcheck
  obtain ⟨objects', hobjects, halike⟩ := forall₂_transfer hobject hmoved halike
  exact ⟨enums', objects', interfaces',
    ⟨henums, hobjects, hinterfaces, h.names_perm.nodup_iff.mpr haccepts.nodup⟩,
    hpermEnums, hpermInterfaces, moved, hpermObjects, halike⟩

/-- **When a schema compiles, so does one in another order**, and the catalogs agree. -/
theorem compile (h : s.Reordered s') {source : Source} {c : Catalog}
    (hc : s.compile source = .ok c) :
    ∃ c', s'.compile source = .ok c' ∧ c.Agrees c' := by
  obtain ⟨enums, objects, interfaces, haccepts, rfl⟩ := SchemaDecl.compile_eq_ok_iff.mp hc
  obtain ⟨enums', objects', interfaces', haccepts', henums, hinterfaces, moved, hperm, halike⟩ :=
    h.accepts haccepts
  refine ⟨_, SchemaDecl.compile_eq_ok_iff.mpr ⟨_, _, _, haccepts', rfl⟩, ?_⟩
  have hnames := haccepts.nodup
  rw [← haccepts.defines.names, definitionNames, List.nodup_append, List.nodup_append] at hnames
  obtain ⟨⟨henumNames, htableNames, -⟩, hinterfaceNames, -⟩ := hnames
  constructor
  case info => exact h.info source
  case enums => exact sortByName_eq_of_perm henums henumNames
  case interfaces => exact sortByName_eq_of_perm hinterfaces hinterfaceNames
  case tables =>
    have htables : ((objects'.map CheckedObject.define).map TableDef.eraseIndices).Perm
        ((objects.map CheckedObject.define).map TableDef.eraseIndices) := by
      have hmoved : objects'.map (TableDef.eraseIndices ∘ CheckedObject.define)
          = moved.map (TableDef.eraseIndices ∘ CheckedObject.define) :=
        map_eq_map_of_forall₂ _ _ (fun _ _ h => h.define) halike
      rw [List.map_map, List.map_map, hmoved]
      exact hperm.map _
    have hname : ∀ t : TableDef, t.eraseIndices.name = t.name := fun _ => rfl
    show (sortByName TableDef.name _).map _ = (sortByName TableDef.name _).map _
    rw [map_sortByName hname, map_sortByName hname]
    refine sortByName_eq_of_perm htables ?_
    rw [List.map_map]
    exact htableNames
  case anomalies =>
    have hmoved : objects'.map CheckedObject.anomalies = moved.map CheckedObject.anomalies :=
      map_eq_map_of_forall₂ _ _ (fun _ _ h => h.anomalies) halike
    show (objects'.map CheckedObject.anomalies).flatten.Perm
      (objects.map CheckedObject.anomalies).flatten
    rw [hmoved]
    exact (hperm.map _).flatten

end SchemaDecl.Reordered

end InterfaceSchema
