import InterfaceSchema.Catalog.Checks

/-!
# A compile fails with its first failing check

Compiling interleaves checking with building: a definition is made member by member, its attributes are
merged on the way, and its name is checked only when it is complete. The checks of a schema know nothing
of that. This module proves that the two agree: **a compile stops exactly when some check does not hold,
and with the error of the first that does not**.

The statement is carried by `failure?`, the error of a computation as an option. Computations in sequence
fail with the first of their failures, and so do lists of checks, so each function of the compiler is
matched with its checks one step at a time.
-/

namespace InterfaceSchema

variable {α β : Type}

/-! ## Failures in sequence -/

/-- **The error of a computation**, if it fails. -/
def failure? : Except CompileError α → Option CompileError
  | .ok _ => none
  | .error e => some e

theorem failure?_eq_some_iff {x : Except CompileError α} {e : CompileError} :
    failure? x = some e ↔ x = .error e := by
  cases x <;> simp [failure?]

theorem failure?_eq_none_iff {x : Except CompileError α} : failure? x = none ↔ ∃ a, x = .ok a := by
  cases x <;> simp [failure?]

/-- A list of checks fails with the first of its failures. -/
theorem firstFailure_append (cs ds : List Check) :
    firstFailure (cs ++ ds) = (firstFailure cs).or (firstFailure ds) := by
  rw [firstFailure, List.find?_append, Option.map_or]
  rfl

theorem firstFailure_cons (c : Check) (cs : List Check) :
    firstFailure (c :: cs) = if c.holds then firstFailure cs else some c.error := by
  rw [firstFailure, List.find?_cons]
  cases c.holds <;> rfl

/-- No check fails where all hold. -/
theorem firstFailure_eq_none_iff {cs : List Check} :
    firstFailure cs = none ↔ ∀ c ∈ cs, c.holds := by
  rw [firstFailure, Option.map_eq_none_iff, List.find?_eq_none]
  simp

/-- **Computations in sequence fail with the first of their failures.** -/
theorem failure?_bind {x : Except CompileError α} {f : α → Except CompileError β}
    {cs ds : List Check} (hx : failure? x = firstFailure cs)
    (hf : ∀ a, x = .ok a → failure? (f a) = firstFailure ds) :
    failure? (x >>= f) = firstFailure (cs ++ ds) := by
  rw [firstFailure_append, ← hx]
  cases x with
  | error e => rfl
  | ok a => exact hf a rfl

/-- A result put into another form fails as before. -/
theorem failure?_map {x : Except CompileError α} {f : α → β} {cs : List Check}
    (hx : failure? x = firstFailure cs) :
    failure? (do return f (← x) : Except CompileError β) = firstFailure cs := by
  rw [← hx]
  cases x <;> rfl

/-- **A computation on each element of a list** fails with the first failure. -/
theorem failure?_mapM {f : α → Except CompileError β} {checks : α → List Check}
    (h : ∀ a, failure? (f a) = firstFailure (checks a)) (items : List α) :
    failure? (items.mapM f) = firstFailure (items.flatMap checks) := by
  induction items with
  | nil => rfl
  | cons a rest ih =>
    rw [List.mapM_cons, List.flatMap_cons]
    exact failure?_bind (h a) fun _ _ => failure?_map ih

/-! ## Names -/

/-- The first element has none before it, and every other one has it before it. -/
theorem withEarlier_cons (a : α) (rest : List α) :
    withEarlier (a :: rest) =
      ([], a) :: (withEarlier rest).map fun (earlier, item) => (a :: earlier, item) := by
  rw [withEarlier, withEarlier, List.zipIdx_cons, List.map_cons, List.zipIdx_succ, List.map_map,
    List.map_map]
  rfl

/-- **The first failure among declarations** is that of the first, or else its name, or else the first
among the others. -/
theorem declarationChecks_cons (checks : α → List Check) (name : α → String) (others : List String)
    (decl : α) (rest : List α) :
    declarationChecks checks name others (decl :: rest) =
      checks decl ++ ([.newName (name decl) others] ++
        declarationChecks checks name (others ++ [name decl]) rest) := by
  rw [declarationChecks, withEarlier_cons, List.flatMap_cons, List.flatMap_map, declarationChecks]
  simp

/-- **Declarations in order** fail with their first failure, or with the first name that is not new. -/
theorem failure?_declare {define : α → Except CompileError β} {checks : α → List Check}
    (h : ∀ a, failure? (define a) = firstFailure (checks a)) (name : α → String) (seen : List String)
    (decls : List α) :
    failure? (declare define name seen decls) =
      firstFailure (declarationChecks checks name seen decls) := by
  induction decls generalizing seen with
  | nil => rfl
  | cons decl rest ih =>
    rw [declare, declarationChecks_cons]
    refine failure?_bind (h decl) fun definition _ => ?_
    rw [List.singleton_append, firstFailure_cons]
    by_cases hseen : name decl ∈ seen
    · rw [if_pos hseen, if_neg (by simp [Check.newName, hseen])]
      rfl
    · rw [if_neg hseen, if_pos (by simp [Check.newName, hseen])]
      exact failure?_map (ih _)

/-- **The first repeated name of a list** is the first that is not new: among the names already seen and
those of the elements before it. -/
theorem firstFailure_withEarlier (name : α → String) (error : String → CompileError)
    (seen : List String) (items : List α) :
    firstFailure ((withEarlier items).map fun (earlier, a) =>
        ⟨decide (name a ∉ seen ++ earlier.map name), error (name a)⟩) =
      (firstRepeated seen (items.map name)).map error := by
  induction items generalizing seen with
  | nil => rfl
  | cons a rest ih =>
    rw [withEarlier_cons, List.map_cons, List.map_map, firstFailure_cons, List.map_cons, firstRepeated]
    by_cases hseen : name a ∈ seen
    · simp [hseen]
    · rw [if_pos (by simp [hseen]), if_neg hseen, ← ih]
      congr 2
      funext ⟨earlier, item⟩
      simp only [Function.comp_apply, List.map_cons, List.perm_middle.mem_iff, List.cons_append]

/-! ## Enums -/

/-- **An enum fails with the first value whose name is not new in it.** -/
theorem EnumDecl.failure?_define (e : EnumDecl) : failure? e.define = firstFailure e.checks := by
  have hchecks := firstFailure_withEarlier EnumValueDecl.name
    (fun value => .duplicateDefinition value (some e.name)) [] e.values
  unfold EnumDecl.checks EnumDecl.define
  refine Eq.trans ?_ hchecks.symm
  cases firstRepeated [] (e.values.map (·.name)) <;> rfl

/-! ## Objects -/

/-- A code is that of the type it is read as. -/
theorem BaseType.ofCode?_eq_some_iff {code : Int8} {t : BaseType} :
    BaseType.ofCode? code = some t ↔ code = t.code := by
  constructor
  · intro h
    unfold BaseType.ofCode? at h
    split at h
    · rename_i hnonneg
      obtain ⟨hlt, hget⟩ := List.getElem?_eq_some_iff.mp h
      have hcode : ∀ i (hi : i < BaseType.all.length), (BaseType.all[i]).code.toInt = i := by decide
      have hint := hcode _ hlt
      rw [hget, Int.toNat_of_nonneg hnonneg] at hint
      exact Int8.toInt_inj.mp hint.symm
    · cases h
  · rintro rfl
    exact BaseType.ofCode?_code t

/-- The codes of types with a property are those that are read as such a type. -/
theorem BaseType.contains_codes (p : BaseType → Bool) (code : Int8) :
    ((BaseType.all.filter p).map BaseType.code).contains code = (BaseType.ofCode? code).any p := by
  have hall : ∀ t, t ∈ BaseType.all := by
    intro t
    cases t <;> decide
  rw [Bool.eq_iff_iff, List.contains_iff_mem, List.mem_map, Option.any_eq_true]
  constructor
  · rintro ⟨t, hmem, rfl⟩
    exact ⟨t, BaseType.ofCode?_code t, (List.mem_filter.mp hmem).2⟩
  · rintro ⟨t, hcode, hp⟩
    exact ⟨t, List.mem_filter.mpr ⟨hall t, hp⟩, (BaseType.ofCode?_eq_some_iff.mp hcode).symm⟩

/-- **The last step of giving a type its meaning** fails just when there is a type index and no list that
it addresses. -/
theorem failure?_target (unhandled : Option Int8 → CompileError) (base : BaseType)
    (element : Option BaseType) (index : Int32) :
    failure? (do
        if index = -1 then return ⟨base, element, none⟩
        else if base = .obj ∨ element = some .obj then return ⟨base, element, some .object⟩
        else if base.isScalarOrString then return ⟨base, element, some .enum⟩
        else throw (unhandled (element.map BaseType.code)) : Except CompileError FieldType) =
      if index == -1 || (base == .obj || element == some .obj || base.isScalarOrString) then none
      else some (unhandled (element.map BaseType.code)) := by
  by_cases hindex : index = -1
  · simp only [hindex, if_pos, beq_self_eq_true, Bool.true_or]
    rfl
  · rw [if_neg hindex, beq_false_of_ne hindex, Bool.false_or]
    by_cases hobject : base = .obj ∨ element = some .obj
    · rw [if_pos hobject, if_pos (by simpa using Or.inl hobject)]
      rfl
    · rw [if_neg hobject]
      by_cases hscalar : base.isScalarOrString
      · rw [if_pos hscalar, if_pos (by simp [hscalar])]
        rfl
      · rw [if_neg hscalar, if_neg (by simpa [not_or, and_assoc] using And.intro (not_or.mp hobject) hscalar)]
        rfl

/-- **A type means something** when its checks hold, and otherwise fails with the first of them. -/
theorem FieldDecl.failure?_meaning (object : String) (f : FieldDecl) :
    failure? (f.typeOrNone.meaning object f.name) = firstFailure (f.checks object) := by
  have hcodes : ∀ code, baseTypeCodes.contains code = (BaseType.ofCode? code).isSome := by
    intro code
    have h := BaseType.contains_codes (fun _ => true) code
    rw [List.filter_eq_self.mpr fun _ _ => rfl] at h
    rw [baseTypeCodes, h]
    cases BaseType.ofCode? code <;> rfl
  unfold FieldDecl.checks
  simp only [firstFailure_cons, hcodes, TypeDecl.addresses, BaseType.contains_codes]
  unfold TypeDecl.meaning
  generalize f.typeOrNone = t
  cases hbase : BaseType.ofCode? t.base with
  | none => rfl
  | some base =>
    rw [BaseType.ofCode?_eq_some_iff.mp hbase]
    have htarget := failure?_target
      (fun element => .unhandledFieldType object f.name base.code element t.index) base
    -- Only of a vector is the element code read, and there the code of no type means no element.
    cases base with
    | vector =>
      cases helement : BaseType.ofCode? t.element with
      | none => rfl
      | some element =>
        rw [BaseType.ofCode?_eq_some_iff.mp helement]
        cases element with
        | none => exact htarget none t.index
        | _ => exact htarget (some _) t.index
    | _ => exact htarget none t.index

theorem FieldDecl.failure?_define (names : Names) (object : String) (f : FieldDecl) :
    failure? (f.define names object) = firstFailure (f.checks object) :=
  failure?_map (f.failure?_meaning object)

/-- **An object fails with the first failure of its fields.** -/
theorem ObjectDecl.failure?_check (names : Names) (o : ObjectDecl) :
    failure? (o.check names) = firstFailure o.checks :=
  failure?_map (failure?_mapM (FieldDecl.failure?_define names o.name) o.fields)

/-! ## Services -/

/-- The value of an attribute is that of its last declaration. -/
theorem attributeValue_attributeMap (attributes : List AttributeDecl) (key : String) :
    attributeValue (attributeMap attributes) key = lastValue attributes key := by
  rw [attributeValue, attributeMap, Dict.get?_ofList, ← List.map_reverse, List.find?_map, lastValue,
    Option.map_map]
  show Option.bind (Option.map _ (attributes.reverse.find? fun a => a.key == key)) id = _
  cases attributes.reverse.find? fun a => a.key == key <;> rfl

/-- Attributes that are allowed are left as they are. -/
theorem eq_of_restrictAttributes {entity : String} {attributes restricted : Attributes}
    {allowed : List String} (h : restrictAttributes entity attributes allowed = .ok restricted) :
    restricted = attributes := by
  unfold restrictAttributes at h
  split at h
  · exact (Except.ok.inj h).symm
  · cases h

/-- **Attributes fail with the first key declared that is not allowed.** -/
theorem failure?_restrictAttributes (entity : String) (attributes : List AttributeDecl)
    (allowed : List String) :
    failure? (restrictAttributes entity (attributeMap attributes) allowed) =
      firstFailure (attributeChecks entity allowed attributes) := by
  have hchecks : firstFailure (attributeChecks entity allowed attributes) =
      (attributes.find? fun a => !allowed.contains a.key).map fun a =>
        .invalidAttribute entity a.key allowed := by
    rw [attributeChecks, firstFailure, List.find?_map, Option.map_map]
    rfl
  have hkeys : (attributeMap attributes).keys.find? (fun key => !allowed.contains key) =
      (attributes.find? fun a => !allowed.contains a.key).map AttributeDecl.key := by
    rw [attributeMap, Dict.find?_keys_ofList, List.map_map, List.find?_map]
    rfl
  -- The compile looks for the key in the map, the check in the list: both find the first declared.
  rw [restrictAttributes, hkeys, hchecks]
  cases attributes.find? fun a => !allowed.contains a.key <;> rfl

/-- The type of a service is checked. -/
theorem failure?_checkInterface (service : String) (value : Option String) :
    failure? (checkInterface service value) =
      firstFailure [⟨value == some "interface", .invalidServiceType service value⟩] := by
  rw [checkInterface, firstFailure_cons]
  by_cases h : value = some "interface"
  · simp [h, failure?, firstFailure]
  · simp [h, failure?]

/-- The kind of a member is checked. -/
theorem failure?_memberKind (service call : String) (value : Option String) :
    failure? (memberKind service call value) =
      firstFailure [⟨[some "procedure", some "topic"].contains value,
        .invalidMemberType service call value⟩] := by
  rw [memberKind, firstFailure_cons]
  by_cases hprocedure : value = some "procedure"
  · simp [hprocedure, failure?, firstFailure]
  · by_cases htopic : value = some "topic"
    · simp [htopic, failure?, firstFailure]
    · simp [hprocedure, htopic, failure?]

/-- The stream modifier of a member is checked where there is one. -/
theorem failure?_streamModifier (service call : String) (value : Option String) :
    failure? (streamModifier service call value) =
      firstFailure (value.toList.map fun value =>
        ⟨(noStream ++ ["in", "out", "inout"]).contains value,
          .invalidStreamModifier service call value⟩) := by
  cases value with
  | none => rfl
  | some value =>
    rw [streamModifier, Option.toList_some, List.map_singleton, firstFailure_cons]
    simp only [List.contains_iff_mem, List.mem_append, List.mem_cons, List.not_mem_nil, or_false]
    by_cases hknown : value ∈ noStream ∨ value = "in" ∨ value = "out" ∨ value = "inout"
    · rw [if_pos hknown]
      rcases hknown with hnone | rfl | rfl | rfl
      · rw [if_pos hnone]
        rfl
      all_goals rfl
    · rw [if_neg hknown]
      simp only [not_or] at hknown
      obtain ⟨hnone, hin, hout, hboth⟩ := hknown
      rw [if_neg hnone, if_neg hin, if_neg hout, if_neg hboth]
      rfl

/-- **A call fails with its attributes, its kind or its stream**, whichever is first. -/
theorem CallDecl.failure?_define (service : String) (c : CallDecl) :
    failure? (c.define service) = firstFailure (c.checks service) := by
  refine failure?_bind (failure?_restrictAttributes _ c.attributes memberAttributes) ?_
  rintro attributes hattributes
  rw [eq_of_restrictAttributes hattributes, attributeValue_attributeMap, attributeValue_attributeMap]
  refine failure?_bind (failure?_memberKind service c.name _) fun kind _ => ?_
  exact failure?_map (failure?_streamModifier service c.name _)

/-- **A service fails with its attributes, its type or its first call that fails.** -/
theorem ServiceDecl.failure?_define (s : ServiceDecl) : failure? s.define = firstFailure s.checks := by
  refine failure?_bind (failure?_restrictAttributes _ s.attributes interfaceAttributes) ?_
  rintro attributes hattributes
  rw [eq_of_restrictAttributes hattributes, attributeValue_attributeMap]
  refine failure?_bind (failure?_checkInterface s.name _) fun _ _ => ?_
  exact failure?_map (failure?_mapM (CallDecl.failure?_define s.name) s.calls)

/-! ## Schemas -/

/-- **The declarations of a schema fail with its first check that fails.** -/
theorem SchemaDecl.failure?_compile (s : SchemaDecl) (source : Source) :
    failure? (s.compile source) = firstFailure s.checks := by
  rw [SchemaDecl.checks, List.append_assoc]
  refine failure?_bind (failure?_declare EnumDecl.failure?_define _ _ s.enums) fun enums _ => ?_
  refine failure?_bind (failure?_declare (ObjectDecl.failure?_check _) _ _ s.objects) fun objects _ => ?_
  exact failure?_map (failure?_declare ServiceDecl.failure?_define _ _ s.services)

/-! ### Two kinds of errors

The error of the gate is about bytes and that of a check about declarations, so none is taken for the
other. -/

/-- **The checks that a schema can have**: each is about a name, a field, the attributes of a service or of a
call, the type of one of these, or a stream. -/
inductive Check.Known : Check → Prop
  | name (name : String) (earlier : List String) : Known (.newName name earlier)
  | value (holds : Bool) (value scope : String) : Known ⟨holds, .duplicateDefinition value (some scope)⟩
  | field {object : String} {f : FieldDecl} {c : Check} : c ∈ f.checks object → Known c
  | interfaceAttributes {entity : String} {attributes : List AttributeDecl} {c : Check} :
      c ∈ attributeChecks entity interfaceAttributes attributes → Known c
  | memberAttributes {entity : String} {attributes : List AttributeDecl} {c : Check} :
      c ∈ attributeChecks entity memberAttributes attributes → Known c
  | serviceType (holds : Bool) (service : String) (value : Option String) :
      Known ⟨holds, .invalidServiceType service value⟩
  | memberType (holds : Bool) (service call : String) (value : Option String) :
      Known ⟨holds, .invalidMemberType service call value⟩
  | streamModifier (holds : Bool) (service call value : String) :
      Known ⟨holds, .invalidStreamModifier service call value⟩

theorem declarationChecks_known {checks : α → List Check} (h : ∀ a, ∀ c ∈ checks a, c.Known)
    (name : α → String) (others : List String) (decls : List α) :
    ∀ c ∈ declarationChecks checks name others decls, c.Known := by
  intro c hc
  obtain ⟨⟨earlier, decl⟩, -, hc⟩ := List.mem_flatMap.mp hc
  rcases List.mem_append.mp hc with hc | hc
  · exact h decl c hc
  · rw [List.mem_singleton.mp hc]
    exact .name _ _

theorem EnumDecl.checks_known (e : EnumDecl) : ∀ c ∈ e.checks, c.Known := by
  intro c hc
  obtain ⟨⟨earlier, v⟩, -, rfl⟩ := List.mem_map.mp hc
  exact .value _ _ _

theorem ObjectDecl.checks_known (o : ObjectDecl) : ∀ c ∈ o.checks, c.Known := by
  intro c hc
  obtain ⟨f, -, hc⟩ := List.mem_flatMap.mp hc
  exact .field hc

theorem CallDecl.checks_known (service : String) (call : CallDecl) : ∀ c ∈ call.checks service, c.Known := by
  intro c hc
  rcases List.mem_append.mp hc with hc | hc
  · exact .memberAttributes hc
  rcases List.mem_cons.mp hc with rfl | hc
  · exact .memberType _ _ _ _
  · obtain ⟨value, -, rfl⟩ := List.mem_map.mp hc
    exact .streamModifier _ _ _ _

theorem ServiceDecl.checks_known (s : ServiceDecl) : ∀ c ∈ s.checks, c.Known := by
  intro c hc
  rcases List.mem_append.mp hc with hc | hc
  · exact .interfaceAttributes hc
  rcases List.mem_cons.mp hc with rfl | hc
  · exact .serviceType _ _ _
  · obtain ⟨call, -, hc⟩ := List.mem_flatMap.mp hc
    exact call.checks_known s.name c hc

/-- **A schema has no other checks.** -/
theorem SchemaDecl.checks_known (s : SchemaDecl) : ∀ c ∈ s.checks, c.Known := by
  intro c hc
  rcases List.mem_append.mp hc with hc | hc
  · rcases List.mem_append.mp hc with hc | hc
    · exact declarationChecks_known EnumDecl.checks_known _ _ _ c hc
    · exact declarationChecks_known ObjectDecl.checks_known _ _ _ c hc
  · exact declarationChecks_known ServiceDecl.checks_known _ _ _ c hc

/-- **A check of declarations**, which does not report a malformed buffer. -/
def Check.OfDeclarations (c : Check) : Prop := ∀ cause, c.error ≠ .malformed cause

theorem attributeChecks_ofDeclarations {entity : String} {allowed : List String}
    {attributes : List AttributeDecl} {c : Check} (hc : c ∈ attributeChecks entity allowed attributes) :
    c.OfDeclarations := by
  obtain ⟨a, -, rfl⟩ := List.mem_map.mp hc
  exact nofun

theorem Check.Known.ofDeclarations {c : Check} (h : c.Known) : c.OfDeclarations := by
  cases h with
  | field hc =>
    simp only [FieldDecl.checks, List.mem_cons, List.not_mem_nil, or_false] at hc
    rcases hc with rfl | rfl | rfl <;> exact nofun
  | interfaceAttributes hc => exact attributeChecks_ofDeclarations hc
  | memberAttributes hc => exact attributeChecks_ofDeclarations hc
  | _ => exact nofun

/-- **No check reports a malformed buffer.** -/
theorem SchemaDecl.checks_ofDeclarations (s : SchemaDecl) : ∀ c ∈ s.checks, c.OfDeclarations :=
  fun c hc => (s.checks_known c hc).ofDeclarations

/-- **A compile accepts exactly the valid schemas and otherwise reports the first violation.** The error is
that of the gate just when the gate refuses the buffer; behind it there is an error just when some check of
the schema fails, and it is that of the first check that does. -/
theorem compile_eq_error_iff (b : Buffer) (source : Source) :
    (∀ cause, compile b source = .error (.malformed cause) ↔ rootTable b = .error cause) ∧
      (∀ e, compile b source = .error e ↔
        (∃ cause, rootTable b = .error cause ∧ e = .malformed cause) ∨
          ∃ t, rootTable b = .ok t ∧ firstFailure (SchemaDecl.ofTable t).checks = some e) ∧
      ((∃ c, compile b source = .ok c) ↔ ∃ t, rootTable b = .ok t ∧ (SchemaDecl.ofTable t).Valid) := by
  have herror : ∀ e, compile b source = .error e ↔
      (∃ cause, rootTable b = .error cause ∧ e = .malformed cause) ∨
        ∃ t, rootTable b = .ok t ∧ firstFailure (SchemaDecl.ofTable t).checks = some e := by
    intro e
    unfold compile readSchema
    cases hroot : rootTable b with
    | error cause => simp [Except.map, eq_comm]
    | ok t =>
      have hcompile := (SchemaDecl.ofTable t).failure?_compile source
      simp [Except.map, ← hcompile, failure?_eq_some_iff]
  refine ⟨fun cause => ?_, herror, ?_⟩
  · rw [herror]
    constructor
    · rintro (⟨cause', hroot, hcause⟩ | ⟨t, -, hfirst⟩)
      · rw [hroot, CompileError.malformed.inj hcause]
      · obtain ⟨c, hfind, hc⟩ := Option.map_eq_some_iff.mp hfirst
        exact absurd hc (SchemaDecl.checks_ofDeclarations _ c (List.mem_of_find?_eq_some hfind) cause)
    · exact fun hroot => .inl ⟨cause, hroot, rfl⟩
  · unfold compile readSchema
    cases hroot : rootTable b with
    | error cause => simp [Except.map]
    | ok t =>
      have hcompile := (SchemaDecl.ofTable t).failure?_compile source
      show (∃ c, (SchemaDecl.ofTable t).compile source = .ok c) ↔ _
      rw [← failure?_eq_none_iff, hcompile, firstFailure_eq_none_iff]
      simp [SchemaDecl.Valid]

end InterfaceSchema
