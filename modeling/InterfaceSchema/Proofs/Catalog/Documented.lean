import InterfaceSchema.Catalog.Documented
import InterfaceSchema.Proofs.Catalog.Growth

/-!
# What is not documented has no influence

A compile reads the documented part of a schema and nothing else (`SchemaDecl.compile_documented`): not only is
the rest missing from the catalog, it cannot decide which name is taken, which error is reported or in which
order anything stands. So **two buffers whose schemas agree in what is documented compile to the same result**,
a catalog or an error, however little their bytes have in common.

Enums and services come out as the very same definitions. A checked object still holds its declaration, so
there the results agree once that is cut down, too (`ObjectDecl.check_documented`), and its table and its
records in the log depend on no more.
-/

namespace InterfaceSchema

variable {α β γ : Type}

/-! ## Walking declarations -/

/-- **Declarations that were changed first** are defined as by changing them on the way, if their names stay. -/
theorem declare_map (define : α → Except CompileError β) (name : α → String) (f : α → α)
    (hname : ∀ a, name (f a) = name a) (seen : List String) (decls : List α) :
    declare define name seen (decls.map f) = declare (fun a => define (f a)) name seen decls := by
  induction decls generalizing seen with
  | nil => rfl
  | cons decl rest ih => rw [List.map_cons, declare, declare, hname, ih]

/-- What is made of each definition can be made of all definitions. -/
theorem declare_except_map {define : α → Except CompileError β} {name : α → String} {g : β → γ}
    (seen : List String) (decls : List α) :
    declare (fun a => (define a).map g) name seen decls = (declare define name seen decls).map (List.map g) := by
  induction decls generalizing seen with
  | nil => rfl
  | cons decl rest ih =>
    rw [declare, declare, ih]
    cases define decl with
    | error e => rfl
    | ok d =>
      by_cases hmem : name decl ∈ seen
      · simp only [hmem, if_true]
        rfl
      · simp only [hmem, if_false]
        cases declare define name (seen ++ [name decl]) rest with
        | error e => rfl
        | ok ds => rfl

/-! ## Each kind of declaration -/

/-- **An enum is defined by its documented part.** -/
theorem EnumDecl.define_documented (e : EnumDecl) : e.documented.define = e.define := by
  unfold EnumDecl.define EnumDecl.documented
  rw [List.map_map, List.map_map]
  rfl

/-- An object that was checked, cut down to its documented part. -/
def CheckedObject.documented (o : CheckedObject) : CheckedObject := { o with decl := o.decl.documented }

/-- **An object is checked by its documented part**: each field has the same type, or the same error. -/
theorem ObjectDecl.check_documented (names : Names) (o : ObjectDecl) :
    o.documented.check names = (o.check names).map CheckedObject.documented := by
  have hfields : o.documented.fields.mapM (FieldDecl.define names o.name) =
      o.fields.mapM (FieldDecl.define names o.name) := List.mapM_map
  rw [check_eq_map, check_eq_map]
  show (o.documented.fields.mapM (FieldDecl.define names o.name)).map _ = _
  rw [hfields]
  cases o.fields.mapM (FieldDecl.define names o.name) with
  | error e => rfl
  | ok fields => rfl

/-- Its table is that of its documented part. -/
theorem CheckedObject.define_documented (o : CheckedObject) : o.documented.define = o.define := rfl

/-- Its records in the log are those of its documented part. -/
theorem CheckedObject.anomalies_documented (o : CheckedObject) : o.documented.anomalies = o.anomalies := rfl

/-! ## Schemas -/

namespace SchemaDecl

variable (s : SchemaDecl)

theorem map_name_enums_documented : s.documented.enums.map (·.name) = s.enums.map (·.name) :=
  List.map_map

theorem map_name_objects_documented : s.documented.objects.map (·.name) = s.objects.map (·.name) :=
  List.map_map

theorem declare_enums_documented :
    declare EnumDecl.define (·.name) [] s.documented.enums = declare EnumDecl.define (·.name) [] s.enums := by
  have hmap := declare_map EnumDecl.define (·.name) EnumDecl.documented (fun _ => rfl) [] s.enums
  simp only [EnumDecl.define_documented] at hmap
  exact hmap

theorem declare_objects_documented (names : Names) :
    declare (ObjectDecl.check names) (·.name) names.enums s.documented.objects =
      (declare (ObjectDecl.check names) (·.name) names.enums s.objects).map
        (List.map CheckedObject.documented) := by
  have hmap := declare_map (ObjectDecl.check names) (·.name) ObjectDecl.documented (fun _ => rfl) names.enums
    s.objects
  simp only [ObjectDecl.check_documented, declare_except_map] at hmap
  exact hmap

/-- The catalog of what was made of the declarations is that of their documented parts. -/
theorem catalog_documented (source : Source) (enums : List EnumDef) (objects : List CheckedObject)
    (interfaces : List InterfaceDef) :
    s.documented.catalog source enums (objects.map CheckedObject.documented) interfaces =
      s.catalog source enums objects interfaces := by
  have htables : (objects.map CheckedObject.documented).map CheckedObject.define =
      objects.map CheckedObject.define := by
    simp only [List.map_map, Function.comp_def, CheckedObject.define_documented]
  have hanomalies : (objects.map CheckedObject.documented).flatMap CheckedObject.anomalies =
      objects.flatMap CheckedObject.anomalies := by
    simp only [List.flatMap_map, CheckedObject.anomalies_documented]
  have hroot : s.documented.root.map (·.name) = s.root.map (·.name) := Option.map_map ..
  unfold catalog info
  rw [htables, hanomalies, hroot, map_name_enums_documented, map_name_objects_documented]
  rfl

/-- A compile checks the declarations of each kind in turn and puts together what was made of them. -/
theorem compile_eq_bind (source : Source) : s.compile source = (do
    let enums ← declare EnumDecl.define (·.name) [] s.enums
    let objects ← declare (ObjectDecl.check s.typeNames) (·.name) s.typeNames.enums s.objects
    let interfaces ← declare ServiceDecl.define (·.name) (s.typeNames.enums ++ s.typeNames.objects) s.services
    return s.catalog source enums objects interfaces) := rfl

/-- **A schema is compiled by its documented part.** -/
theorem compile_documented (source : Source) : s.documented.compile source = s.compile source := by
  have hnames : s.documented.typeNames = s.typeNames := by
    unfold typeNames
    rw [map_name_enums_documented, map_name_objects_documented]
  have hservices : s.documented.services = s.services := rfl
  rw [compile_eq_bind, compile_eq_bind, hnames, hservices, declare_enums_documented, declare_objects_documented]
  cases declare (ObjectDecl.check s.typeNames) (·.name) s.typeNames.enums s.objects with
  | error e => rfl
  | ok objects =>
    have hcatalog := fun enums => s.catalog_documented source enums objects
    simp only [Except.map, Except.bind, bind, hcatalog]

end SchemaDecl

/-- **Two buffers that agree in what is documented compile to the same result.** -/
theorem compile_congr_documented {b b' : Buffer}
    (h : (readSchema b).map SchemaDecl.documented = (readSchema b').map SchemaDecl.documented) (source : Source) :
    compile b source = compile b' source := by
  unfold compile
  cases hb : readSchema b with
  | error cause =>
    cases hb' : readSchema b' with
    | error cause' =>
      rw [hb, hb'] at h
      cases h
      rfl
    | ok s' =>
      rw [hb, hb'] at h
      cases h
  | ok s =>
    cases hb' : readSchema b' with
    | error cause' =>
      rw [hb, hb'] at h
      cases h
    | ok s' =>
      rw [hb, hb'] at h
      show s.compile source = s'.compile source
      rw [← s.compile_documented, ← s'.compile_documented, Except.ok.inj h]

/-! ## Descriptions -/

theorem EnumSpec.documented_decl (e : EnumSpec) : e.documented.decl.documented = e.decl.documented := by
  unfold EnumSpec.documented EnumSpec.decl EnumDecl.documented
  simp only [List.map_map]
  rfl

theorem ObjectSpec.documented_decl (o : ObjectSpec) : o.documented.decl.documented = o.decl.documented := by
  unfold ObjectSpec.documented ObjectSpec.decl ObjectDecl.documented
  simp only [List.mapIdx_eq_zipIdx_map, List.zipIdx_map, List.map_map]
  rfl

/-- The root object is the same one. -/
theorem SchemaSpec.rootObject_documented (s : SchemaSpec) :
    s.documented.rootObject = s.rootObject.map ObjectSpec.documented := by
  show (s.root.bind fun i => (s.objects.map ObjectSpec.documented)[i]?) = (s.root.bind _).map _
  simp only [List.getElem?_map, Option.map_bind]
  rfl

/-- **What a description documents is what its schema does.** -/
theorem SchemaSpec.documented_decl (s : SchemaSpec) : s.documented.decl.documented = s.decl.documented := by
  have hobject : (fun o => (ObjectSpec.documented o).decl.documented) = fun o => o.decl.documented :=
    funext ObjectSpec.documented_decl
  have henum : (fun e => (EnumSpec.documented e).decl.documented) = fun e => e.decl.documented :=
    funext EnumSpec.documented_decl
  unfold SchemaSpec.decl SchemaDecl.documented
  rw [rootObject_documented]
  unfold SchemaSpec.documented
  simp only [List.map_map, Option.map_map, Function.comp_def, hobject, henum]

/-- **What is not documented has no influence.** Two descriptions that differ in nothing else, in the numbers of
enum values, in which enums are unions, in the attributes of enums and objects and in which fields are
required or deprecated, compile to the same result: the same catalog, index and log, or the same error. -/
theorem compile_bytes_congr {s s' : SchemaSpec} (hs : s.WithinLimits) (hs' : s'.WithinLimits)
    (h : s.documented = s'.documented) (source : Source) :
    compile (.ofList s.bytes) source = compile (.ofList s'.bytes) source := by
  refine compile_congr_documented ?_ source
  rw [s.readSchema_ofList_bytes hs, s'.readSchema_ofList_bytes hs', Except.map, Except.map, ← s.documented_decl,
    ← s'.documented_decl, h]

/-- **A description that says all that is not documented**, and refers to an object that it does not have. -/
def gauge : SchemaSpec where
  enums := [{
    name := "Unit"
    values := [{ name := "none" }, { name := "bar", value := -3 }]
    isUnion := true
    attributes := [("flags", "0")] }]
  objects := [{
    name := "Gauge"
    fields := [
      { name := "unit", base := 1, index := 0, required := true, attributes := [("k", "v")] },
      { name := "next", base := 15, index := 1, deprecated := true }]
    attributes := [("owner", "x")] }]

theorem compile_bytes_congr_gauge :
    gauge.bytes ≠ gauge.documented.bytes ∧ gauge.WithinLimits ∧ gauge.documented.WithinLimits ∧
      gauge.documented = gauge.documented.documented ∧
      compile (.ofList gauge.bytes) {} = compile (.ofList gauge.documented.bytes) {} := by
  have hs : gauge.WithinLimits := by decide +kernel
  have hs' : gauge.documented.WithinLimits := by decide +kernel
  have h : gauge.documented = gauge.documented.documented := rfl
  exact ⟨by decide +kernel, hs, hs', h, compile_bytes_congr hs hs' h {}⟩

end InterfaceSchema
