import InterfaceSchema.Catalog.References
import InterfaceSchema.Proofs.Schema.RoundTrip
import Mathlib.Data.List.Forall2
import Mathlib.Data.List.Nodup

/-!
# What a successful compile has defined

A compile that succeeds has made one definition of each declaration, under the name it was declared with,
and has found all names different, across the three kinds. Nothing more is asked of it: when every
declaration is accepted on its own and all names differ, the compile succeeds (`SchemaDecl.compile_eq_ok_iff`).

This module takes a compile apart into these facts. `SchemaDecl.Accepts` says what has been made of the
declarations and `SchemaDecl.catalog` how the catalog is put together; `SchemaDecl.Defines` says which
definitions belong to a schema, and `Catalog.MadeOf` which catalogs hold them.
-/

namespace InterfaceSchema

variable {α β γ ε : Type}

/-- A computation in sequence that succeeds has succeeded at each step. -/
theorem of_bind_eq_ok {x : Except ε α} {f : α → Except ε β} {b : β} (h : (x >>= f) = .ok b) :
    ∃ a, x = .ok a ∧ f a = .ok b := by
  cases x with
  | error e => cases h
  | ok a => exact ⟨a, rfl, h⟩

/-- **A computation on each element of a list succeeds** just when it does on every one. -/
theorem mapM_eq_ok_iff {f : α → Except ε β} {items : List α} {results : List β} :
    items.mapM f = .ok results ↔ List.Forall₂ (fun a b => f a = .ok b) items results := by
  induction items generalizing results with
  | nil =>
    constructor
    · intro h
      cases h
      exact .nil
    · rintro ⟨⟩
      rfl
  | cons a rest ih =>
    rw [List.mapM_cons]
    constructor
    · intro h
      obtain ⟨b, hb, h⟩ := of_bind_eq_ok h
      obtain ⟨bs, hbs, h⟩ := of_bind_eq_ok h
      cases h
      exact .cons hb (ih.mp hbs)
    · rintro (_ | ⟨hb, hbs⟩)
      rw [hb, ih.mpr hbs]
      rfl

/-- **Declarations are all accepted** just when each has a definition, and their names are new and
different. -/
theorem declare_eq_ok_iff {define : α → Except CompileError β} {name : α → String} {seen : List String}
    {decls : List α} {definitions : List β} (hseen : seen.Nodup) :
    declare define name seen decls = .ok definitions ↔
      List.Forall₂ (fun decl d => define decl = .ok d) decls definitions ∧
        (seen ++ decls.map name).Nodup := by
  induction decls generalizing seen definitions with
  | nil =>
    constructor
    · intro h
      cases h
      exact ⟨.nil, by simpa using hseen⟩
    · rintro ⟨⟨⟩, -⟩
      rfl
  | cons decl rest ih =>
    rw [declare]
    constructor
    · intro h
      obtain ⟨d, hd, h⟩ := of_bind_eq_ok h
      split at h
      · cases h
      · rename_i hnew
        obtain ⟨ds, hds, h⟩ := of_bind_eq_ok h
        cases h
        -- The name just checked is one of those the rest is checked against.
        have hnodup : (seen ++ [name decl]).Nodup :=
          List.nodup_append.mpr ⟨hseen, List.nodup_singleton _, fun a ha b hb heq =>
            hnew (List.mem_singleton.mp hb ▸ heq ▸ ha)⟩
        obtain ⟨hforall, hnames⟩ := (ih hnodup).mp hds
        rw [List.append_assoc] at hnames
        exact ⟨.cons hd hforall, hnames⟩
    · rintro ⟨_ | ⟨hd, hds⟩, hnames⟩
      rw [List.map_cons, ← List.singleton_append, ← List.append_assoc] at hnames
      have hnodup := (List.nodup_append.mp hnames).1
      have hnew : name decl ∉ seen := fun hmem =>
        (List.nodup_append.mp hnodup).2.2 _ hmem _ (List.mem_singleton_self _) rfl
      rw [hd, (ih hnodup).mpr ⟨hds, hnames⟩]
      show (if name decl ∈ seen then _ else _) = _
      rw [if_neg hnew]
      rfl

/-- **Lists that correspond have the same images**, in order, where related elements have. -/
theorem map_eq_map_of_forall₂ (f : α → γ) (g : β → γ) {R : α → β → Prop}
    (hfg : ∀ a b, R a b → g b = f a) {as : List α} {bs : List β} (h : List.Forall₂ R as bs) :
    bs.map g = as.map f := by
  induction h with
  | nil => rfl
  | cons hab _ ih => rw [List.map_cons, List.map_cons, hfg _ _ hab, ih]

/-- What corresponds to an element of the second list is in the first. -/
theorem exists_of_forall₂ {R : α → β → Prop} {as : List α} {bs : List β} (h : List.Forall₂ R as bs)
    {b : β} (hb : b ∈ bs) : ∃ a ∈ as, R a b := by
  induction h with
  | nil => cases hb
  | cons hab _ ih =>
    rcases List.mem_cons.mp hb with rfl | hb
    · exact ⟨_, List.mem_cons_self, hab⟩
    · obtain ⟨a, ha, hR⟩ := ih hb
      exact ⟨a, List.mem_cons_of_mem _ ha, hR⟩

/-! ## Names -/

theorem EnumDecl.name_define {e : EnumDecl} {d : EnumDef} (h : e.define = .ok d) : d.name = e.name := by
  unfold EnumDecl.define at h
  split at h
  · cases h
  · cases h
    rfl

/-- **The definition of an object**, once its fields have been checked. -/
def ObjectDecl.define (names : Names) (o : ObjectDecl) : Except CompileError TableDef :=
  (o.check names).map CheckedObject.define

theorem ObjectDecl.name_define {names : Names} {o : ObjectDecl} {d : TableDef}
    (h : o.define names = .ok d) : d.name = o.name := by
  unfold ObjectDecl.define ObjectDecl.check at h
  cases hfields : o.fields.mapM (FieldDecl.define names o.name) with
  | error e =>
    rw [hfields] at h
    cases h
  | ok fields =>
    rw [hfields] at h
    cases h
    rfl

theorem ServiceDecl.name_define {s : ServiceDecl} {d : InterfaceDef} (h : s.define = .ok d) :
    d.name = s.name := by
  unfold ServiceDecl.define at h
  obtain ⟨attributes, -, h⟩ := of_bind_eq_ok h
  obtain ⟨-, -, h⟩ := of_bind_eq_ok h
  obtain ⟨slots, -, h⟩ := of_bind_eq_ok h
  cases h
  rfl

/-! ## The definitions of a schema -/

/-- **The names of a schema's declarations**: of its enums, its objects and its services. -/
def SchemaDecl.names (s : SchemaDecl) : List String :=
  s.enums.map (·.name) ++ s.objects.map (·.name) ++ s.services.map (·.name)

/-- **The definitions of a schema**: each list holds one for each declaration of its kind, in order. -/
structure SchemaDecl.Defines (s : SchemaDecl) (enums : List EnumDef) (tables : List TableDef)
    (interfaces : List InterfaceDef) : Prop where
  enums : List.Forall₂ (fun e d => e.define = .ok d) s.enums enums
  tables : List.Forall₂ (fun o d => o.define s.typeNames = .ok d) s.objects tables
  interfaces : List.Forall₂ (fun service d => service.define = .ok d) s.services interfaces

namespace SchemaDecl.Defines

variable {s : SchemaDecl} {enums : List EnumDef} {tables : List TableDef}
  {interfaces : List InterfaceDef}

theorem enumNames (h : s.Defines enums tables interfaces) : enums.map (·.name) = s.enums.map (·.name) :=
  map_eq_map_of_forall₂ EnumDecl.name EnumDef.name (fun _ _ => EnumDecl.name_define) h.enums

theorem tableNames (h : s.Defines enums tables interfaces) :
    tables.map (·.name) = s.objects.map (·.name) :=
  map_eq_map_of_forall₂ ObjectDecl.name TableDef.name (fun _ _ => ObjectDecl.name_define) h.tables

theorem interfaceNames (h : s.Defines enums tables interfaces) :
    interfaces.map (·.name) = s.services.map (·.name) :=
  map_eq_map_of_forall₂ ServiceDecl.name InterfaceDef.name (fun _ _ => ServiceDecl.name_define)
    h.interfaces

end SchemaDecl.Defines

/-! ## The catalog of definitions -/

/-- The names of definitions of all kinds. -/
def definitionNames (enums : List EnumDef) (tables : List TableDef) (interfaces : List InterfaceDef) :
    List String :=
  enums.map (·.name) ++ tables.map (·.name) ++ interfaces.map (·.name)

/-- **A catalog is made of definitions** of different names: it holds them sorted by name, and the index
of their names in the order given. -/
structure Catalog.MadeOf (c : Catalog) (enums : List EnumDef) (tables : List TableDef)
    (interfaces : List InterfaceDef) : Prop where
  nodup : (definitionNames enums tables interfaces).Nodup
  enums_eq : c.enums = sortByName EnumDef.name enums
  tables_eq : c.tables = sortByName TableDef.name tables
  interfaces_eq : c.interfaces = sortByName InterfaceDef.name interfaces
  index_eq : c.index = .ofList
    (indexEntries EnumDef.name .enum (sortByName EnumDef.name enums) (enums.map (·.name)) ++
      indexEntries TableDef.name .table (sortByName TableDef.name tables) (tables.map (·.name)) ++
      indexEntries InterfaceDef.name .interface (sortByName InterfaceDef.name interfaces)
        (interfaces.map (·.name)))

/-- The definitions of a schema have the names of its declarations. -/
theorem SchemaDecl.Defines.names {s : SchemaDecl} {enums : List EnumDef} {tables : List TableDef}
    {interfaces : List InterfaceDef} (h : s.Defines enums tables interfaces) :
    definitionNames enums tables interfaces = s.names := by
  rw [definitionNames, h.enumNames, h.tableNames, h.interfaceNames]
  rfl

/-! ## Accepted schemas -/

/-- **A schema is accepted**: something has been made of each declaration, in order, and all names
differ. -/
structure SchemaDecl.Accepts (s : SchemaDecl) (enums : List EnumDef) (objects : List CheckedObject)
    (interfaces : List InterfaceDef) : Prop where
  enums : List.Forall₂ (fun e d => e.define = .ok d) s.enums enums
  objects : List.Forall₂ (fun o d => o.check s.typeNames = .ok d) s.objects objects
  interfaces : List.Forall₂ (fun service d => service.define = .ok d) s.services interfaces
  nodup : s.names.Nodup

/-- What a catalog says about a schema as a whole. -/
def SchemaDecl.info (s : SchemaDecl) (source : Source) : Meta where
  filename := source.filename
  filepath := source.filepath
  fileIdent := s.fileIdent
  fileExt := s.fileExt
  root := s.root.map (·.name)

/-- **The catalog of an accepted schema**, put together from what has been made of its declarations. -/
def SchemaDecl.catalog (s : SchemaDecl) (source : Source) (enums : List EnumDef)
    (objects : List CheckedObject) (interfaces : List InterfaceDef) : Catalog :=
  let tables := objects.map CheckedObject.define
  { info := s.info source
    enums := sortByName EnumDef.name enums
    tables := sortByName TableDef.name tables
    interfaces := sortByName InterfaceDef.name interfaces
    index := .ofList <|
      indexEntries EnumDef.name .enum (sortByName EnumDef.name enums) (s.enums.map (·.name)) ++
        indexEntries TableDef.name .table (sortByName TableDef.name tables) (s.objects.map (·.name)) ++
        indexEntries InterfaceDef.name .interface (sortByName InterfaceDef.name interfaces)
          (s.services.map (·.name))
    anomalies := objects.flatMap CheckedObject.anomalies }

/-- **A schema compiles just when it is accepted**, and its catalog is that of what has been made of its
declarations. -/
theorem SchemaDecl.compile_eq_ok_iff {s : SchemaDecl} {source : Source} {c : Catalog} :
    s.compile source = .ok c ↔
      ∃ enums objects interfaces, s.Accepts enums objects interfaces ∧
        c = s.catalog source enums objects interfaces := by
  constructor
  · intro h
    unfold SchemaDecl.compile at h
    obtain ⟨enums, henums, h⟩ := of_bind_eq_ok h
    obtain ⟨objects, hobjects, h⟩ := of_bind_eq_ok h
    obtain ⟨interfaces, hinterfaces, h⟩ := of_bind_eq_ok h
    cases h
    obtain ⟨henums, hnodup⟩ := (declare_eq_ok_iff List.nodup_nil).mp henums
    obtain ⟨hobjects, hnodup⟩ := (declare_eq_ok_iff hnodup).mp hobjects
    obtain ⟨hinterfaces, hnodup⟩ := (declare_eq_ok_iff hnodup).mp hinterfaces
    exact ⟨enums, objects, interfaces, ⟨henums, hobjects, hinterfaces, hnodup⟩, rfl⟩
  · rintro ⟨enums, objects, interfaces, h, rfl⟩
    have hobjectNames := (List.nodup_append.mp h.nodup).1
    have henumNames := (List.nodup_append.mp hobjectNames).1
    have henums := (declare_eq_ok_iff List.nodup_nil).mpr ⟨h.enums, henumNames⟩
    have hobjects := (declare_eq_ok_iff henumNames).mpr ⟨h.objects, hobjectNames⟩
    have hinterfaces := (declare_eq_ok_iff hobjectNames).mpr ⟨h.interfaces, h.nodup⟩
    unfold SchemaDecl.compile
    rw [henums]
    show (declare (ObjectDecl.check s.typeNames) _ _ _ >>= _) = _
    rw [hobjects]
    show (declare ServiceDecl.define _ _ _ >>= _) = _
    rw [hinterfaces]
    rfl

namespace SchemaDecl.Accepts

variable {s : SchemaDecl} {enums : List EnumDef} {objects : List CheckedObject}
  {interfaces : List InterfaceDef}

/-- The definitions of an accepted schema. -/
theorem defines (h : s.Accepts enums objects interfaces) :
    s.Defines enums (objects.map CheckedObject.define) interfaces := by
  refine ⟨h.enums, List.forall₂_map_right_iff.mpr (h.objects.imp fun o checked hchecked => ?_),
    h.interfaces⟩
  rw [ObjectDecl.define, hchecked]
  rfl

/-- **The catalog of an accepted schema** is made of its definitions. -/
theorem madeOf_catalog (h : s.Accepts enums objects interfaces) (source : Source) :
    (s.catalog source enums objects interfaces).MadeOf enums (objects.map CheckedObject.define)
      interfaces := by
  refine ⟨by rw [h.defines.names]; exact h.nodup, rfl, rfl, rfl, ?_⟩
  rw [h.defines.enumNames, h.defines.tableNames, h.defines.interfaceNames]
  rfl

end SchemaDecl.Accepts

/-- **A schema that compiles** has definitions, and its catalog is made of them. -/
theorem SchemaDecl.madeOf_of_compile {s : SchemaDecl} {source : Source} {c : Catalog}
    (h : s.compile source = .ok c) :
    ∃ enums tables interfaces,
      s.Defines enums tables interfaces ∧ c.MadeOf enums tables interfaces := by
  obtain ⟨enums, objects, interfaces, haccepts, rfl⟩ := SchemaDecl.compile_eq_ok_iff.mp h
  exact ⟨enums, _, interfaces, haccepts.defines, haccepts.madeOf_catalog source⟩

/-- **A buffer that compiles** is that of an accepted schema. -/
theorem accepts_of_compile {b : Buffer} {source : Source} {c : Catalog} (h : compile b source = .ok c) :
    ∃ s enums objects interfaces, readSchema b = .ok s ∧ s.Accepts enums objects interfaces ∧
      c = s.catalog source enums objects interfaces := by
  unfold compile at h
  split at h
  · cases h
  · rename_i s hs
    obtain ⟨enums, objects, interfaces, haccepts, hc⟩ := SchemaDecl.compile_eq_ok_iff.mp h
    exact ⟨s, enums, objects, interfaces, hs, haccepts, hc⟩

/-! ## Compiling a description -/

/-- The bytes of a description are read as the schema it stands for. -/
theorem SchemaSpec.readSchema_ofList_bytes (s : SchemaSpec) (h : s.WithinLimits) :
    readSchema (.ofList s.bytes) = .ok s.decl := by
  have hread := s.readSchema_append h []
  rwa [List.append_nil] at hread

/-- **And they compile as that schema.** -/
theorem SchemaSpec.compile_bytes (s : SchemaSpec) (h : s.WithinLimits) (source : Source) :
    compile (.ofList s.bytes) source = s.decl.compile source := by
  rw [compile, s.readSchema_ofList_bytes h]

/-- What the catalog of a description satisfies when it is computed from the schema, it satisfies when it is
compiled from the bytes. -/
theorem SchemaSpec.exists_compile {s : SchemaSpec} (h : s.WithinLimits) {source : Source}
    {P : Catalog → Prop} (hP : ∃ c ∈ (s.decl.compile source).toOption, P c) :
    ∃ c, compile (.ofList s.bytes) source = .ok c ∧ P c := by
  obtain ⟨c, hc, hP⟩ := hP
  rw [s.compile_bytes h]
  cases hcompile : s.decl.compile source with
  | error e =>
    rw [hcompile] at hc
    cases hc
  | ok c' =>
    rw [hcompile] at hc
    cases hc
    exact ⟨c, rfl, hP⟩

end InterfaceSchema
