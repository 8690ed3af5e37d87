import InterfaceSchema.Catalog.Decoding

/-!
# Documents are read back

**What a document shows is read back as it was**, string for string: every definition from its tree, with its
kind or without, and with them documents and listings as a whole. Only fields need a condition, for their
references (`FieldDef.Fits`).

The readers and the trees have the same shape, so each definition is one lemma. It rests on the lemmas for the
values of its members, which are few: strings, lists, maps, and values that may be null.
-/

namespace InterfaceSchema

/-! ## Values -/

/-- **What is laid out element by element is read element by element**, when each element is read back. -/
theorem mapM_map_eq_some {α β : Type} {f : α → β} {g : β → Option α} {items : List α}
    (h : ∀ a ∈ items, g (f a) = some a) : (items.map f).mapM g = some items := by
  induction items with
  | nil => rfl
  | cons a rest ih =>
    have hrest := ih fun a ha => h a (List.mem_cons_of_mem _ ha)
    simp [List.mapM_cons, h a List.mem_cons_self, hrest]

namespace Json

variable {α : Type}

@[simp] theorem string?_string (text : String) : string? (string text) = some text := rfl

@[simp] theorem bool?_bool (value : Bool) : bool? (bool value) = some value := rfl

@[simp] theorem number?_number (n : Int) : number? (number n) = some n := rfl

@[simp] theorem word?_string (parse : String → Option α) (text : String) :
    word? parse (string text) = parse text := rfl

@[simp] theorem nullable?_ofString? (text : Option String) : nullable? string? (ofString? text) = some text := by
  cases text <;> rfl

/-- **Words of a closed set are read back**, when each word stands for what it was written for. -/
theorem nullable?_ofString?_map {parse : String → Option α} {text : α → String}
    (h : ∀ a, parse (text a) = some a) (value : Option α) :
    nullable? (word? parse) (ofString? (value.map text)) = some value := by
  cases value with
  | none => rfl
  | some a => exact congrArg (Option.map some) (h a)

theorem list?_array_map {f : α → Json} {read : Json → Option α} {items : List α}
    (h : ∀ a ∈ items, read (f a) = some a) : list? read (array (items.map f)) = some items :=
  mapM_map_eq_some h

@[simp] theorem list?_strings (texts : List String) : list? string? (strings texts) = some texts :=
  list?_array_map fun _ _ => rfl

/-- **A map is read back from the object that lays it out**, when each value is. -/
theorem dict?_object_map {f : α → Json} {read : Json → Option α} {d : Dict α}
    (h : ∀ entry ∈ d.entries, read (f entry.2) = some entry.2) :
    dict? read (object (d.entries.map fun entry => (entry.1, f entry.2))) = some d := by
  have hentries : (d.entries.map fun entry => (entry.1, f entry.2)).mapM
      (fun member => (read member.2).map (Prod.mk member.1)) = some d.entries :=
    mapM_map_eq_some fun entry hentry => congrArg (Option.map (Prod.mk entry.1)) (h entry hentry)
  rw [dict?, hentries, Option.map_some, Option.some_inj]
  exact Dict.ext (Dict.entries_ofList _ d.nodup)

/-- The first member is found under its name. -/
@[simp] theorem find?_object_cons_self (name : String) (value : Json) (members : List (String × Json)) :
    find? (object ((name, value) :: members)) name = some value := by
  rw [find?, List.lookup_cons_self]

/-- A member in front is not in the way of another one. -/
@[simp] theorem find?_object_cons_of_ne {front name : String} (h : name ≠ front) (value : Json)
    (members : List (String × Json)) :
    find? (object ((front, value) :: members)) name = find? (object members) name := by
  rw [find?, find?, List.lookup_cons, beq_false_of_ne h]

@[simp] theorem find?_object_nil (name : String) : find? (object []) name = none := rfl

end Json

@[simp] theorem BaseType.ofName?_name (t : BaseType) : ofName? t.name = some t := by
  cases t <;> decide

theorem BaseType.name_injective : Function.Injective BaseType.name := fun t t' h =>
  Option.some.inj ((ofName?_name t).symm.trans (h ▸ ofName?_name t'))

@[simp] theorem MemberKind.ofText?_text (kind : MemberKind) : ofText? kind.text = some kind := by
  cases kind <;> decide

@[simp] theorem Stream.ofText?_text (stream : Stream) : ofText? stream.text = some stream := by
  cases stream <;> decide

/-! ## Definitions -/

@[simp] theorem Attributes.ofJson?_json (attributes : Attributes) : ofJson? attributes.json = some attributes :=
  Json.dict?_object_map fun _ _ => Json.nullable?_ofString? _

@[simp] theorem Meta.ofJson?_json (m : Meta) : ofJson? m.json = some m := by
  simp [ofJson?, json, Json.member?]

@[simp] theorem EnumValueDef.ofJson?_json (v : EnumValueDef) : ofJson? v.json = some v := by
  simp [ofJson?, json, Json.member?]

@[simp] theorem EnumDef.ofJson?_object_members (e : EnumDef) : ofJson? (.object e.members) = some e := by
  simp [ofJson?, members, Json.member?, Json.dict?_object_map]

@[simp] theorem SlotDef.ofJson?_json (s : SlotDef) : ofJson? s.json = some s := by
  simp [ofJson?, json, Json.member?, Json.nullable?_ofString?_map]

@[simp] theorem InterfaceDef.ofJson?_object_members (i : InterfaceDef) : ofJson? (.object i.members) = some i := by
  simp [ofJson?, members, Json.member?, Json.dict?_object_map]

/-- **The words of a reference are read as what they were written for**, in a field that fits. -/
theorem FieldDef.Fits.referenceOf_eq {f : FieldDef} {count : Target → Nat} (h : f.Fits count) :
    f.reference.map (f.referenceOf count ∘ Reference.text) = f.reference := by
  cases hreference : f.reference with
  | none => rfl
  | some reference =>
    cases reference with
    | resolved name =>
      obtain ⟨target, htarget, hrange⟩ := h.resolved name hreference
      simp [referenceOf, htarget, hrange, Reference.text]
    | unresolved target index =>
      obtain ⟨htarget, rfl, hrange⟩ := h.unresolved target index hreference
      simp [referenceOf, htarget, hrange]

/-- **A field that fits is read back.** -/
theorem FieldDef.Fits.ofJson?_json {f : FieldDef} {count : Target → Nat} (h : f.Fits count) :
    FieldDef.ofJson? count f.json = some f := by
  -- The field without its reference has the types and the index by which the reference is read.
  have hreference : f.reference.map (FieldDef.referenceOf { f with reference := none } count ∘ Reference.text) =
      f.reference := h.referenceOf_eq
  have hattributes : Json.given? f.json "attrs" Attributes.ofJson? = some f.attributes := by
    unfold FieldDef.json Json.given?
    cases f.attributes <;> simp
  rw [FieldDef.ofJson?, hattributes]
  simp [FieldDef.json, Json.member?, Json.nullable?_ofString?_map, hreference]

/-- **A table whose fields fit is read back.** -/
theorem TableDef.Fits.ofJson?_object_members {t : TableDef} {count : Target → Nat} (h : t.Fits count) :
    TableDef.ofJson? count (.object t.members) = some t := by
  have hfields : Json.dict? (FieldDef.ofJson? count)
      (.object (t.fields.entries.map fun entry => (entry.1, entry.2.json))) = some t.fields :=
    Json.dict?_object_map fun entry hentry => (h entry hentry).ofJson?_json
  simp [ofJson?, members, Json.member?, hfields]

section Kind

variable (kind : Json) (members : List (String × Json))

/-! A definition has no member of the name of its kind, so the reader of its members passes the kind over. -/

@[simp] theorem EnumDef.ofJson?_object_type :
    ofJson? (.object (("type", kind) :: members)) = ofJson? (.object members) := by
  simp [ofJson?, Json.member?]

@[simp] theorem TableDef.ofJson?_object_type (count : Target → Nat) :
    ofJson? count (.object (("type", kind) :: members)) = ofJson? count (.object members) := by
  simp [ofJson?, Json.member?]

@[simp] theorem InterfaceDef.ofJson?_object_type :
    ofJson? (.object (("type", kind) :: members)) = ofJson? (.object members) := by
  simp [ofJson?, Json.member?]

end Kind

/-- **A definition that fits is read back** from the tree that says its kind. -/
theorem Definition.Fits.ofJson?_json {d : Definition} {count : Target → Nat} (h : d.Fits count) :
    Definition.ofJson? count d.json = some d := by
  cases d with
  | enum e => simp [ofJson?, json, Json.member?, kindText, members]
  | table t => simp [ofJson?, json, Json.member?, kindText, members, (h t rfl).ofJson?_object_members]
  | interface i => simp [ofJson?, json, Json.member?, kindText, members]

/-! ## Layouts -/

/-- **A document whose definitions fit is read back.** -/
theorem Document.ofJson?_json {d : Document} {count : Target → Nat}
    (h : ∀ entry ∈ d.definitions.entries, entry.2.Fits count) : ofJson? count d.json = some d := by
  have hdefinitions : Json.dict? (Definition.ofJson? count)
      (.object (d.definitions.entries.map fun entry => (entry.1, entry.2.json))) = some d.definitions :=
    Json.dict?_object_map fun entry hentry => (h entry hentry).ofJson?_json
  simp [ofJson?, json, Json.member?, hdefinitions]

/-- **A listing whose tables fit is read back.** -/
theorem Listing.ofJson?_json {l : Listing} {count : Target → Nat} (h : ∀ t ∈ l.tables, t.Fits count) :
    ofJson? count l.json = some l := by
  have htables : Json.list? (TableDef.ofJson? count) (.array (l.tables.map fun d => .object d.members)) =
      some l.tables := Json.list?_array_map fun t ht => (h t ht).ofJson?_object_members
  simp [ofJson?, json, Json.member?, htables, Json.list?_array_map]

end InterfaceSchema
