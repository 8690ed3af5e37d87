import InterfaceSchema.Proofs.Catalog.Merging

/-!
# Interfaces say one thing twice and mean the same

An interface keeps its attributes, and beside them what was understood from them: its identifier, the kind of
each member, the direction in which it streams. Both show in a document, so **they must not contradict each
other**, whatever was declared several times, declared without a value or replaced by a later member. What an
attribute says is what its last declaration says.

Each rule that reads an attribute is inverted once (`memberKind_eq_ok_iff`, `of_streamModifier`), and from
that `SlotDef.MadeFrom` and `InterfaceDef.MadeFrom` tell of a member and of an interface how they are made from
their tables.
-/

namespace InterfaceSchema

/-! ## Rules -/

/-- **Attributes are accepted** when every key is allowed, and are left as they are. -/
theorem restrictAttributes_eq_ok_iff {entity : String} {attributes restricted : Attributes}
    {allowed : List String} :
    restrictAttributes entity attributes allowed = .ok restricted ↔
      restricted = attributes ∧ ∀ key ∈ attributes.keys, key ∈ allowed := by
  have hallowed : (attributes.keys.find? fun key => !allowed.contains key) = none ↔
      ∀ key ∈ attributes.keys, key ∈ allowed := by simp
  unfold restrictAttributes
  rw [← hallowed]
  cases attributes.keys.find? fun key => !allowed.contains key with
  | none => simp [eq_comm]
  | some key => simp

/-- An attribute has a value when it stands under its key with that value. -/
theorem attributeValue_eq_some_iff {attributes : Attributes} {key value : String} :
    attributeValue attributes key = some value ↔ attributes.get? key = some (some value) := by
  rw [attributeValue, Option.bind_eq_some_iff]
  simp

/-- **A service is an interface** when its type says so. -/
theorem checkInterface_eq_ok_iff {service : String} {value : Option String} {u : Unit} :
    checkInterface service value = .ok u ↔ value = some "interface" := by
  unfold checkInterface
  split
  · rename_i h
    simp [h]
  · rename_i h
    simp [h]

/-- **The kind of a member** is what its type says. -/
theorem memberKind_eq_ok_iff {service call : String} {value : Option String} {kind : MemberKind} :
    memberKind service call value = .ok kind ↔ value = some kind.text := by
  unfold memberKind
  split
  · rename_i h
    subst h
    cases kind <;> simp [MemberKind.text]
  · rename_i hprocedure
    split
    · rename_i h
      subst h
      cases kind <;> simp [MemberKind.text]
    · rename_i htopic
      cases kind <;> simp [MemberKind.text, hprocedure, htopic]

/-- **The direction of a member** is what its modifier says, if there is one and it is no spelling of none. -/
theorem of_streamModifier {service call : String} {value : Option String} {stream : Option Stream}
    (h : streamModifier service call value = .ok stream) :
    (stream = none ↔ ∀ text, value = some text → text ∈ noStream) ∧
      ∀ direction, stream = some direction ↔ value = some direction.text := by
  cases value with
  | none =>
    cases h
    simp
  | some text =>
    have hspoken : ∀ direction : Stream, direction.text ∉ noStream := by
      intro direction
      cases direction <;> decide
    simp only [streamModifier] at h
    split_ifs at h with hnone hin hout hboth
    · cases h
      rw [List.contains_iff_mem] at hnone
      refine ⟨by simpa using hnone, fun direction => ⟨nofun, ?_⟩⟩
      rintro ⟨⟩
      exact absurd hnone (hspoken direction)
    all_goals
      cases h
      subst text
      refine ⟨⟨nofun, fun hnone => absurd (hnone _ rfl) (by decide)⟩, fun direction => ?_⟩
      cases direction <;> simp [Stream.text]

/-! ## Payloads -/

theorem payloadType_eq_some_iff {name : Option String} {n : String} :
    payloadType name = some n ↔ name = some n ∧ n ∉ voidNames := by
  cases name with
  | none => simp [payloadType]
  | some n' =>
    simp only [payloadType, List.contains_iff_mem, Option.ite_none_left_eq_some, Option.some_inj]
    constructor
    · rintro ⟨hvoid, rfl⟩
      exact ⟨rfl, hvoid⟩
    · rintro ⟨rfl, hvoid⟩
      exact ⟨hvoid, rfl⟩

theorem payloadType_eq_none_iff {name : Option String} :
    payloadType name = none ↔ name = none ∨ ∃ n, name = some n ∧ n ∈ voidNames := by
  cases name with
  | none => simp [payloadType]
  | some n => simp [payloadType]

/-- **A payload is the name of the table in a slot.** There is none when there is no such table, or when its
name says that it holds nothing. -/
structure Table.Carries (t : Table) (slot : Nat) (payload : Option String) : Prop where
  eq_some_iff : ∀ n, payload = some n ↔ ∃ object, t.table? slot = some object ∧
    object.string ObjectSlot.name = n ∧ n ∉ ["", "Void", "wamp.Void"]
  eq_none_iff : payload = none ↔ t.table? slot = none ∨ ∃ object, t.table? slot = some object ∧
    object.string ObjectSlot.name ∈ ["", "Void", "wamp.Void"]

theorem Table.carries_payloadType (t : Table) (slot : Nat) :
    t.Carries slot (payloadType (t.objectName? slot)) := by
  constructor
  case eq_some_iff =>
    intro n
    rw [payloadType_eq_some_iff, Table.objectName?, Option.map_eq_some_iff]
    constructor
    · rintro ⟨⟨object, hobject, hname⟩, hvoid⟩
      exact ⟨object, hobject, hname, hvoid⟩
    · rintro ⟨object, hobject, hname, hvoid⟩
      exact ⟨⟨object, hobject, hname⟩, hvoid⟩
  case eq_none_iff =>
    rw [payloadType_eq_none_iff, Table.objectName?, Option.map_eq_none_iff]
    refine or_congr_right ?_
    simp only [Option.map_eq_some_iff]
    constructor
    · rintro ⟨_, ⟨object, hobject, rfl⟩, hvoid⟩
      exact ⟨object, hobject, hvoid⟩
    · rintro ⟨object, hobject, hvoid⟩
      exact ⟨_, ⟨object, hobject, rfl⟩, hvoid⟩

/-! ## Members -/

/-- **A member of an interface is made from the table of a call**, and says what its attributes say. -/
structure SlotDef.MadeFrom (d : SlotDef) (t : Table) : Prop where
  name : d.name = t.string CallSlot.name
  docs : d.docs = (t.strings CallSlot.docs).map trim
  request : t.Carries CallSlot.request d.request
  response : t.Carries CallSlot.response d.response
  attributes : d.attributes.MergedFrom (t.tables CallSlot.attributes)
  keys : ∀ key ∈ d.attributes.keys, key = "type" ∨ key = "stream"
  kind : d.attributes.get? "type" = some (some d.kind.text)
  stream_eq_none_iff : d.stream = none ↔ d.attributes.get? "stream" = none ∨
    d.attributes.get? "stream" = some none ∨
      ∃ text ∈ ["none", "None", "null", "Null"], d.attributes.get? "stream" = some (some text)
  /-- The direction is the value of the attribute, so that is one of the three that directions have. -/
  stream_eq_some_iff : ∀ direction, d.stream = some direction ↔
    d.attributes.get? "stream" = some (some direction.text)

/-- An attribute has no value when its key is missing or stands alone. -/
theorem forall_attributeValue_iff {attributes : Attributes} {key : String} {p : String → Prop} :
    (∀ text, attributeValue attributes key = some text → p text) ↔ attributes.get? key = none ∨
      attributes.get? key = some none ∨ ∃ text, p text ∧ attributes.get? key = some (some text) := by
  unfold attributeValue
  rcases attributes.get? key with _ | _ | text
  · simp
  · simp
  · simp

theorem CallDecl.madeFrom_of_define {service : String} {t : Table} {d : SlotDef}
    (h : (CallDecl.ofTable t).define service = .ok d) : d.MadeFrom t := by
  obtain ⟨attributes, hattributes, h⟩ := of_bind_eq_ok h
  obtain ⟨kind, hkind, h⟩ := of_bind_eq_ok h
  obtain ⟨stream, hstream, h⟩ := of_bind_eq_ok h
  cases h
  obtain ⟨rfl, hkeys⟩ := restrictAttributes_eq_ok_iff.mp hattributes
  obtain ⟨hnone, hsome⟩ := of_streamModifier hstream
  constructor
  case name => rfl
  case docs => rfl
  case request => exact t.carries_payloadType CallSlot.request
  case response => exact t.carries_payloadType CallSlot.response
  case attributes => exact t.mergedFrom_attributes CallSlot.attributes
  case keys => simpa [memberAttributes] using hkeys
  case kind => exact attributeValue_eq_some_iff.mp (memberKind_eq_ok_iff.mp hkind)
  case stream_eq_none_iff => exact hnone.trans forall_attributeValue_iff
  case stream_eq_some_iff => exact fun direction => (hsome direction).trans attributeValue_eq_some_iff

/-! ## Interfaces -/

/-- **An interface is made from the table of a service**, and says what its attributes say. -/
structure InterfaceDef.MadeFrom (d : InterfaceDef) (t : Table) : Prop where
  name : d.name = t.string ServiceSlot.name
  docs : d.docs = (t.strings ServiceSlot.docs).map trim
  attributes : d.attributes.MergedFrom (t.tables ServiceSlot.attributes)
  keys : ∀ key ∈ d.attributes.keys, key = "type" ∨ key = "uuid"
  type : d.attributes.get? "type" = some (some "interface")
  uuid : ∀ uuid, d.uuid = some uuid ↔ d.attributes.get? "uuid" = some (some uuid)
  slots : d.slots.Merges (Table.string · CallSlot.name) (fun call slot => slot.MadeFrom call)
    (t.tables ServiceSlot.calls)

theorem ServiceDecl.madeFrom_of_define {t : Table} {d : InterfaceDef}
    (h : (ServiceDecl.ofTable t).define = .ok d) : d.MadeFrom t := by
  obtain ⟨attributes, hattributes, h⟩ := of_bind_eq_ok h
  obtain ⟨u, htype, h⟩ := of_bind_eq_ok h
  obtain ⟨slots, hslots, h⟩ := of_bind_eq_ok h
  cases h
  obtain ⟨rfl, hkeys⟩ := restrictAttributes_eq_ok_iff.mp hattributes
  have hcalls := List.forall₂_map_left_iff.mp (mapM_eq_ok_iff.mp hslots)
  constructor
  case name => rfl
  case docs => rfl
  case attributes => exact t.mergedFrom_attributes ServiceSlot.attributes
  case keys => simpa [interfaceAttributes] using hkeys
  case type => exact attributeValue_eq_some_iff.mp (checkInterface_eq_ok_iff.mp htype)
  case uuid => exact fun uuid => attributeValue_eq_some_iff
  case slots =>
    exact Dict.merges_ofList_map (fun _ _ hmade => hmade.name)
      (hcalls.imp fun _ _ hdefine => CallDecl.madeFrom_of_define hdefine)

/-- The interfaces of a catalog are the definitions of the services. -/
theorem SchemaDecl.mem_interfaces_catalog {s : SchemaDecl} {source : Source} {enums : List EnumDef}
    {objects : List CheckedObject} {interfaces : List InterfaceDef} {d : InterfaceDef} :
    d ∈ (s.catalog source enums objects interfaces).interfaces ↔ d ∈ interfaces :=
  (sortByName_perm InterfaceDef.name interfaces).mem_iff

/-- **Every interface is valid and at one with itself.** It has the attributes of a service, as they are
merged, and says what they say; so does each of its members, which stands under its own name and is made of
the last call that was declared with it. -/
theorem compile_interfaces {b : Buffer} {source : Source} {c : Catalog} (h : compile b source = .ok c) :
    ∃ root, rootTable b = .ok root ∧ ∀ d ∈ c.interfaces, ∃ t ∈ root.tables SchemaSlot.services, d.MadeFrom t ∧
      ∀ key slot, (key, slot) ∈ d.slots.entries → slot.name = key ∧
        ∃ call, IsLast (Table.string · CallSlot.name) (t.tables ServiceSlot.calls) call ∧ slot.MadeFrom call := by
  obtain ⟨root, enums, objects, interfaces, hroot, haccepts, rfl⟩ := exists_root_of_compile h
  refine ⟨root, hroot, fun d hd => ?_⟩
  have hservices := List.forall₂_map_left_iff.mp haccepts.interfaces
  obtain ⟨t, ht, hdefine⟩ := exists_of_forall₂ hservices (SchemaDecl.mem_interfaces_catalog.mp hd)
  have hmade := ServiceDecl.madeFrom_of_define hdefine
  refine ⟨t, ht, hmade, fun key slot hslot => ?_⟩
  obtain ⟨call, hlast, rfl, hcall⟩ := hmade.slots.exists_last hslot
  exact ⟨hcall.name, call, hlast, hcall⟩

/-- **An interface that says everything several times.** Its identifier is withdrawn and given again, the last
word on a stream is that there is none, and one member is declared over after another. -/
def relay : SchemaSpec where
  services := [{
    name := "Relay"
    attributes := [("uuid", "1"), ("type", "0"), ("uuid", "0"), ("type", "interface"), ("uuid", "2")]
    calls := [
      { name := "pull", request := some "Void", attributes := [("type", "topic")] },
      { name := "push", request := some "Box", attributes := [("type", "procedure"), ("stream", "0")] },
      { name := "pull", response := some "Box"
        attributes := [("stream", "in"), ("type", "procedure"), ("stream", "null")] }] }]

theorem compile_interfaces_relay :
    ∃ c root, compile (.ofList relay.bytes) {} = .ok c ∧ rootTable (.ofList relay.bytes) = .ok root ∧
      c.interfaces.map (·.uuid) = [some "2"] ∧
        ∀ d ∈ c.interfaces, ∃ t ∈ root.tables SchemaSlot.services, d.MadeFrom t ∧
          ∀ key slot, (key, slot) ∈ d.slots.entries → slot.name = key ∧ ∃ call,
            IsLast (Table.string · CallSlot.name) (t.tables ServiceSlot.calls) call ∧ slot.MadeFrom call := by
  obtain ⟨c, hc, huuid⟩ : ∃ c, compile (.ofList relay.bytes) {} = .ok c ∧
      c.interfaces.map (·.uuid) = [some "2"] :=
    SchemaSpec.exists_compile (by decide +kernel) (by decide +kernel)
  obtain ⟨root, hroot, hinterfaces⟩ := compile_interfaces hc
  exact ⟨c, root, hc, hroot, huuid, hinterfaces⟩

end InterfaceSchema
