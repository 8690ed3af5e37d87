import InterfaceSchema.Proofs.Catalog.Index
import InterfaceSchema.Proofs.Catalog.Standing

/-!
# References lead by position and stay in the catalog

A type index counts declarations, and the lists of a catalog are sorted, so the index alone says nothing
about the catalog. What the catalog keeps is the name that stood at the position when the schema was
declared. This module says of every field of a catalog what its reference is (`Catalog.Refers`): none
without an index, otherwise the name at the position in the list that the type addresses, or nothing when
there is no such position. And **a name that a reference leads to is found in the catalog**, as a definition
of the kind that the type addresses, since no other definition has that name.

The proof is one lemma for each step of compiling a field: what its type means, what the index leads to,
what the field becomes, and from which declared field a field of the catalog was made.
-/

namespace InterfaceSchema

/-! ## The meaning of a type -/

/-- **What a declared type means.** -/
structure TypeDecl.Means (t : TypeDecl) (m : FieldType) : Prop where
  base : BaseType.ofCode? t.base = some m.base
  /-- Only a vector has elements, and not of the type that means nothing. -/
  element : ∀ e, m.element = some e → m.base = .vector ∧ e ≠ .none
  target : m.target = if t.index = -1 then none else t.target?
  addresses : t.index ≠ -1 → t.target?.isSome
  target_eq : t.target? = m.base.target? m.element

/-- **The last step of giving a type its meaning** chooses the list that the index addresses, if there is an
index. -/
theorem target_eq_ok_iff {unhandled : CompileError} {base : BaseType} {element : Option BaseType}
    {index : Int32} {m : FieldType} :
    (do
        if index = -1 then return ⟨base, element, none⟩
        else if base = .obj ∨ element = some .obj then return ⟨base, element, some .object⟩
        else if base.isScalarOrString then return ⟨base, element, some .enum⟩
        else throw unhandled : Except CompileError FieldType) = .ok m ↔
      m = ⟨base, element, if index = -1 then none else base.target? element⟩ ∧
        (index ≠ -1 → (base.target? element).isSome) := by
  have hok : ∀ type : FieldType, (pure type : Except CompileError FieldType) = .ok m ↔ m = type :=
    fun type => ⟨fun h => (Except.ok.inj h).symm, fun h => h ▸ rfl⟩
  unfold BaseType.target?
  by_cases hindex : index = -1
  · simp [hindex, hok]
  · by_cases hobject : base = .obj ∨ element = some .obj
    · simp [hindex, hobject, hok]
    · by_cases hscalar : base.isScalarOrString
      · simp [hindex, hobject, hscalar, hok]
      · simp [hindex, hobject, hscalar, throw, throwThe, MonadExceptOf.throw]

/-- **A type is given the meaning it has.** -/
theorem TypeDecl.means_of_meaning {t : TypeDecl} {object field : String} {m : FieldType}
    (h : t.meaning object field = .ok m) : t.Means m := by
  unfold TypeDecl.meaning at h
  have hmeans : ∀ base element, BaseType.ofCode? t.base = some base →
      (∀ e, element = some e → base = .vector ∧ e ≠ .none) → t.target? = base.target? element →
      m = ⟨base, element, if t.index = -1 then none else base.target? element⟩ ∧
        (t.index ≠ -1 → (base.target? element).isSome) → t.Means m := by
    rintro base element hbase helement htarget ⟨rfl, haddresses⟩
    exact ⟨hbase, helement, by rw [htarget], by rwa [htarget], htarget⟩
  cases hbase : BaseType.ofCode? t.base with
  | none =>
    rw [hbase] at h
    cases h
  | some base =>
    rw [hbase] at h
    -- Only of a vector is the element code read, and there the code of no type means no element.
    cases base with
    | vector =>
      cases helement : BaseType.ofCode? t.element with
      | none =>
        rw [helement] at h
        cases h
      | some element =>
        rw [helement] at h
        have htarget : t.target? = BaseType.vector.target? (some element) := by
          rw [TypeDecl.target?, hbase, helement]
          rfl
        cases element with
        | none => exact hmeans _ none hbase nofun htarget (target_eq_ok_iff.mp h)
        | _ =>
          refine hmeans _ (some _) hbase ?_ htarget (target_eq_ok_iff.mp h)
          rintro e ⟨⟩
          exact ⟨rfl, nofun⟩
    | _ =>
      refine hmeans _ none hbase nofun ?_ (target_eq_ok_iff.mp h)
      rw [TypeDecl.target?, hbase]
      rfl

/-- A type that addresses a list has a meaning, whatever its index. -/
theorem target_eq_ok {unhandled : CompileError} {base : BaseType} {element : Option BaseType}
    {index : Int32} {target : Target} (h : base.target? element = some target) :
    (do
        if index = -1 then return ⟨base, element, none⟩
        else if base = .obj ∨ element = some .obj then return ⟨base, element, some .object⟩
        else if base.isScalarOrString then return ⟨base, element, some .enum⟩
        else throw unhandled : Except CompileError FieldType) =
      .ok ⟨base, element, if index = -1 then none else some target⟩ :=
  target_eq_ok_iff.mpr ⟨by rw [h], fun _ => by rw [h]; rfl⟩

/-- **The meaning of a type that addresses a list** does not depend on the index, but for whether there is
one. -/
theorem TypeDecl.exists_meaning {t : TypeDecl} {target : Target} (h : t.target? = some target) :
    ∃ base element, ∀ index object field, ({ t with index := index } : TypeDecl).meaning object field
      = .ok ⟨base, element, if index = -1 then none else some target⟩ := by
  unfold TypeDecl.target? at h
  unfold TypeDecl.meaning
  cases hbase : BaseType.ofCode? t.base with
  | none =>
    rw [hbase] at h
    cases h
  | some base =>
    rw [hbase] at h
    simp only [hbase]
    cases base with
    | vector =>
      -- The elements of a vector that addresses a list are objects.
      cases helement : BaseType.ofCode? t.element with
      | none =>
        rw [helement] at h
        cases h
      | some element =>
        rw [helement] at h
        cases element with
        | none => cases h
        | _ => exact ⟨.vector, some _, fun _ _ _ => target_eq_ok h⟩
    | _ => exact ⟨_, none, fun _ _ _ => target_eq_ok h⟩

/-! ## What an index leads to -/

namespace Names

variable {names : Names} {target : Target} {index : Int32}

/-- An index in range leads to the name at its position. -/
theorem resolve_eq_resolved_iff {n : String} :
    names.resolve target index = .resolved n ↔
      ∃ position : Nat, index.toInt = position ∧ (names.of target)[position]? = some n := by
  unfold Names.resolve
  by_cases hnonneg : 0 ≤ index.toInt
  · rw [if_pos hnonneg]
    obtain ⟨position, hposition⟩ := Int.eq_ofNat_of_zero_le hnonneg
    rw [hposition, Int.toNat_natCast]
    constructor
    · intro h
      split at h
      · rename_i name hname
        cases h
        exact ⟨position, rfl, hname⟩
      · cases h
    · rintro ⟨position', heq, hname⟩
      rw [Int.natCast_inj.mp heq, hname]
  · rw [if_neg hnonneg]
    constructor
    · nofun
    · rintro ⟨position, hposition, -⟩
      omega

/-- An index is in range when there is a name at its position. -/
theorem inRange_iff_resolved :
    names.InRange target index ↔ ∃ n, names.resolve target index = .resolved n := by
  simp only [resolve_eq_resolved_iff]
  constructor
  · rintro ⟨hnonneg, hlt⟩
    obtain ⟨position, hposition⟩ := Int.eq_ofNat_of_zero_le hnonneg
    rw [hposition, Int.ofNat_lt] at hlt
    exact ⟨_, position, hposition, List.getElem?_eq_getElem hlt⟩
  · rintro ⟨n, position, hposition, hname⟩
    obtain ⟨hlt, -⟩ := List.getElem?_eq_some_iff.mp hname
    exact ⟨by omega, by omega⟩

/-- **An index out of range leads nowhere**, and the reference keeps what was asked for. -/
theorem resolve_eq_unresolved_iff {target' : Target} {index' : Int32} :
    names.resolve target index = .unresolved target' index' ↔
      (target' = target ∧ index' = index) ∧ ¬ names.InRange target index := by
  rw [inRange_iff_resolved]
  unfold Names.resolve
  split
  · simp
  · simp [eq_comm]

end Names

/-! ## Fields -/

/-- **A field of a catalog is read from a declared one.** -/
structure FieldDef.ReadFrom (d : FieldDef) (names : Names) (f : FieldDecl) : Prop where
  name : d.name = f.name
  index : d.index = f.typeOrNone.index
  base : BaseType.ofCode? f.typeOrNone.base = some d.base
  target : d.target? = f.typeOrNone.target?
  element : ∀ e, d.element = some e → d.base = .vector ∧ e ≠ .none
  addresses : d.index ≠ -1 → d.target?.isSome
  reference : d.reference =
    if d.index = -1 then none else d.target?.map fun target => names.resolve target d.index

theorem FieldDecl.readFrom_of_define {names : Names} {object : String} {f : FieldDecl} {d : FieldDef}
    (h : f.define names object = .ok d) : d.ReadFrom names f := by
  obtain ⟨m, hmeaning, h⟩ := of_bind_eq_ok h
  cases h
  have hmeans := TypeDecl.means_of_meaning hmeaning
  have htarget : m.base.target? m.element = f.typeOrNone.target? := hmeans.target_eq.symm
  refine ⟨rfl, rfl, hmeans.base, htarget, hmeans.element, ?_, ?_⟩
  · exact fun hindex => (congrArg Option.isSome htarget).trans (hmeans.addresses hindex)
  · show m.target.map _ = _
    rw [hmeans.target, FieldDef.target?, htarget]
    split <;> rfl

namespace FieldDef.ReadFrom

variable {d : FieldDef} {names : Names} {f : FieldDecl}

/-- A field refers to something just when it has an index. -/
theorem reference_eq_none_iff (h : d.ReadFrom names f) : d.reference = none ↔ d.index = -1 := by
  rw [h.reference]
  by_cases hindex : d.index = -1
  · simp [hindex]
  · obtain ⟨target, htarget⟩ := Option.isSome_iff_exists.mp (h.addresses hindex)
    simp [hindex, htarget]

/-- With an index a field refers to what the index leads to in the list that its type addresses. -/
theorem reference_eq_some_iff (h : d.ReadFrom names f) {r : Reference} :
    d.reference = some r ↔
      d.index ≠ -1 ∧ ∃ target, d.target? = some target ∧ names.resolve target d.index = r := by
  rw [h.reference]
  by_cases hindex : d.index = -1
  · simp [hindex]
  · simp [hindex]

/-- **A field leads to the name at the position it counts to.** An index in range is never that of
none. -/
theorem reference_eq_resolved_iff (h : d.ReadFrom names f) {n : String} :
    d.reference = some (.resolved n) ↔
      ∃ target, d.target? = some target ∧
        ∃ position : Nat, d.index.toInt = position ∧ (names.of target)[position]? = some n := by
  simp only [h.reference_eq_some_iff, Names.resolve_eq_resolved_iff]
  refine ⟨fun ⟨_, hresolved⟩ => hresolved, fun hresolved => ⟨?_, hresolved⟩⟩
  rintro hindex
  obtain ⟨-, -, position, hposition, -⟩ := hresolved
  rw [hindex] at hposition
  exact absurd hposition (by simp)

/-- **A field leads nowhere when the position it counts to does not exist.** -/
theorem reference_eq_unresolved_iff (h : d.ReadFrom names f) {target : Target} {index : Int32} :
    d.reference = some (.unresolved target index) ↔
      d.target? = some target ∧ d.index = index ∧ index ≠ -1 ∧ ¬ names.InRange target index := by
  simp only [h.reference_eq_some_iff, Names.resolve_eq_unresolved_iff]
  constructor
  · rintro ⟨hindex, target', htarget, ⟨rfl, rfl⟩, hrange⟩
    exact ⟨htarget, rfl, hindex, hrange⟩
  · rintro ⟨htarget, rfl, hindex, hrange⟩
    exact ⟨hindex, target, htarget, ⟨rfl, rfl⟩, hrange⟩

end FieldDef.ReadFrom

/-! ## The fields of a catalog -/

/-- **An object is checked** field by field. -/
theorem ObjectDecl.check_eq_ok_iff {names : Names} {o : ObjectDecl} {checked : CheckedObject} :
    o.check names = .ok checked ↔
      checked.decl = o ∧
        List.Forall₂ (fun f d => f.define names o.name = .ok d) o.fields checked.fields := by
  rw [← mapM_eq_ok_iff]
  constructor
  · intro h
    obtain ⟨fields, hfields, h⟩ := of_bind_eq_ok h
    cases h
    exact ⟨rfl, hfields⟩
  · rintro ⟨rfl, hfields⟩
    unfold ObjectDecl.check
    rw [hfields]
    rfl

/-- **The fields of a table** are those of its object that stand, each under its name. -/
theorem CheckedObject.mem_fields_define {checked : CheckedObject} {key : String} {d : FieldDef} :
    (key, d) ∈ checked.define.fields.entries ↔
      d ∈ standing FieldDef.name checked.fields ∧ d.name = key :=
  Dict.mem_entries_ofList_map

namespace SchemaDecl.Accepts

variable {s : SchemaDecl} {enums : List EnumDef} {objects : List CheckedObject}
  {interfaces : List InterfaceDef}

/-- **Each field of an object is read from a declared one.** -/
theorem readFrom (h : s.Accepts enums objects interfaces) {checked : CheckedObject}
    (hchecked : checked ∈ objects) {d : FieldDef} (hd : d ∈ checked.fields) :
    checked.decl ∈ s.objects ∧ ∃ f ∈ checked.decl.fields, d.ReadFrom s.typeNames f := by
  obtain ⟨o, ho, hcheck⟩ := exists_of_forall₂ h.objects hchecked
  obtain ⟨rfl, hfields⟩ := ObjectDecl.check_eq_ok_iff.mp hcheck
  obtain ⟨f, hf, hdefine⟩ := exists_of_forall₂ hfields hd
  exact ⟨ho, f, hf, FieldDecl.readFrom_of_define hdefine⟩

/-- The tables of a catalog are the definitions of the objects. -/
theorem mem_tables_catalog {source : Source} {t : TableDef} :
    t ∈ (s.catalog source enums objects interfaces).tables ↔
      ∃ checked ∈ objects, checked.define = t :=
  (sortByName_perm TableDef.name _).mem_iff.trans List.mem_map

/-- Each field of a table is read from a declared one. -/
theorem exists_readFrom (h : s.Accepts enums objects interfaces) {source : Source} {t : TableDef}
    (ht : t ∈ (s.catalog source enums objects interfaces).tables) {entry : String × FieldDef}
    (hentry : entry ∈ t.fields.entries) : ∃ f, entry.2.ReadFrom s.typeNames f := by
  obtain ⟨checked, hchecked, rfl⟩ := mem_tables_catalog.mp ht
  obtain ⟨hstanding, -⟩ := CheckedObject.mem_fields_define.mp hentry
  obtain ⟨-, f, -, hread⟩ := h.readFrom hchecked ((standing_sublist _ _).subset hstanding)
  exact ⟨f, hread⟩

/-- **A name that an index can lead to is found in the catalog**, as a definition of the kind that the
index addresses. -/
theorem exists_get? (h : s.Accepts enums objects interfaces) (source : Source) {target : Target}
    {n : String} (hn : n ∈ s.typeNames.of target) :
    ∃ d, (s.catalog source enums objects interfaces).get? n = some d ∧ d.name = n ∧
      d.target? = some target := by
  have hget : ∀ d ∈ allDefinitions enums (objects.map CheckedObject.define) interfaces,
      (s.catalog source enums objects interfaces).get? d.name = some d := fun d hd =>
    (h.madeOf_catalog source).get?_eq_some_iff.mpr ⟨hd, rfl⟩
  cases target with
  | enum =>
    rw [show s.typeNames.of .enum = enums.map (·.name) from h.defines.enumNames.symm] at hn
    obtain ⟨e, he, rfl⟩ := List.mem_map.mp hn
    refine ⟨.enum e, hget (.enum e) ?_, rfl, rfl⟩
    exact List.mem_append_left _ (List.mem_append_left _ (List.mem_map_of_mem he))
  | object =>
    rw [show s.typeNames.of .object = (objects.map CheckedObject.define).map (·.name) from
      h.defines.tableNames.symm] at hn
    obtain ⟨t, ht, rfl⟩ := List.mem_map.mp hn
    refine ⟨.table t, hget (.table t) ?_, rfl, rfl⟩
    exact List.mem_append_left _ (List.mem_append_right _ (List.mem_map_of_mem ht))

end SchemaDecl.Accepts

/-! ## The references of a catalog -/

/-- **What a field of a catalog refers to.** -/
structure Catalog.Refers (c : Catalog) (s : SchemaDecl) (t : TableDef) (f : FieldDef) : Prop where
  /-- The field has the base type and the index of a declared field of its table. -/
  declared : ∃ o ∈ s.objects, o.name = t.name ∧ ∃ d ∈ o.fields, d.name = f.name ∧
    BaseType.ofCode? d.typeOrNone.base = some f.base ∧ d.typeOrNone.index = f.index
  /-- Only vectors have elements, and not of the type that means nothing. -/
  element : ∀ e, f.element = some e → f.base = .vector ∧ e ≠ .none
  reference_eq_none_iff : f.reference = none ↔ f.index = -1
  /-- No type has an index that addresses no list. -/
  target_isSome : f.index ≠ -1 → f.target?.isSome
  /-- The field leads to the name at the position it counts to, in the order of declaration. -/
  resolved_iff : ∀ n, f.reference = some (.resolved n) ↔
    ∃ target, f.target? = some target ∧
      ∃ position : Nat, f.index.toInt = position ∧ (s.typeNames.of target)[position]? = some n
  /-- It leads nowhere when its index is negative or too large. -/
  unresolved_iff : ∀ target index, f.reference = some (.unresolved target index) ↔
    f.target? = some target ∧ f.index = index ∧ index ≠ -1 ∧
      (index.toInt < 0 ∨ (s.typeNames.of target).length ≤ index.toInt)
  /-- What it leads to is found in the catalog, as a definition of the kind that it addresses. -/
  closed : ∀ n, f.reference = some (.resolved n) →
    ∃ d, c.get? n = some d ∧ d.name = n ∧ d.target?.isSome ∧ d.target? = f.target?

/-- **Type references resolve by declared position and are closed in the catalog.** -/
theorem compile_refers {b : Buffer} {source : Source} {c : Catalog} (h : compile b source = .ok c) :
    ∃ s, readSchema b = .ok s ∧
      ∀ t ∈ c.tables, ∀ key f, (key, f) ∈ t.fields.entries → f.name = key ∧ c.Refers s t f := by
  obtain ⟨s, enums, objects, interfaces, hs, haccepts, rfl⟩ := accepts_of_compile h
  refine ⟨s, hs, fun t ht key f hf => ?_⟩
  obtain ⟨checked, hchecked, rfl⟩ := SchemaDecl.Accepts.mem_tables_catalog.mp ht
  obtain ⟨hstanding, hkey⟩ := CheckedObject.mem_fields_define.mp hf
  obtain ⟨hdecl, d, hd, hread⟩ :=
    haccepts.readFrom hchecked ((standing_sublist _ _).subset hstanding)
  refine ⟨hkey, ?_⟩
  constructor
  case declared =>
    exact ⟨checked.decl, hdecl, rfl, d, hd, hread.name.symm, hread.base, hread.index.symm⟩
  case element => exact hread.element
  case reference_eq_none_iff => exact hread.reference_eq_none_iff
  case target_isSome => exact hread.addresses
  case resolved_iff => exact fun n => hread.reference_eq_resolved_iff
  case unresolved_iff =>
    intro target index
    rw [hread.reference_eq_unresolved_iff, Names.InRange, not_and_or, not_le, not_lt]
  case closed =>
    intro n hn
    obtain ⟨target, htarget, position, -, hname⟩ := hread.reference_eq_resolved_iff.mp hn
    obtain ⟨definition, hget, hdefinition, hkind⟩ :=
      haccepts.exists_get? source (List.mem_of_getElem? hname)
    exact ⟨definition, hget, hdefinition, hkind ▸ rfl, hkind.trans htarget.symm⟩

/-- **References forwards, backwards, to themselves and to nowhere.** -/
def chain : SchemaSpec where
  enums := [{ name := "Zeta" }, { name := "Alpha" }]
  objects := [
    { name := "Tail"
      fields := [
        { name := "next", base := 15, index := 1 },
        { name := "all", base := 14, element := 15, index := 0 },
        { name := "kind", base := 3, index := 1 },
        { name := "lost", base := 15, index := 2 },
        { name := "below", base := 13, index := -2 },
        { name := "plain", base := 14 }] },
    { name := "Head", fields := [{ name := "back", base := 15, index := 0 }] }]

theorem chain_withinLimits : chain.WithinLimits := by decide +kernel

/-- The chain compiles, and some of its references lead nowhere. -/
theorem exists_compile_chain :
    ∃ c, compile (.ofList chain.bytes) {} = .ok c ∧ c.anomalies ≠ [] :=
  SchemaSpec.exists_compile chain_withinLimits (by decide +kernel)

theorem compile_refers_chain :
    ∃ c, compile (.ofList chain.bytes) {} = .ok c ∧ ∃ s, readSchema (.ofList chain.bytes) = .ok s ∧
      ∀ t ∈ c.tables, ∀ key f, (key, f) ∈ t.fields.entries → f.name = key ∧ c.Refers s t f := by
  obtain ⟨c, hc, -⟩ := exists_compile_chain
  exact ⟨c, hc, compile_refers hc⟩

end InterfaceSchema
