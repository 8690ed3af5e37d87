import InterfaceSchema.Proofs.Catalog.References

/-!
# Members of one name are merged in one way

Attributes, fields and calls are put into maps by their names, and a name can be repeated. **The first member
of a name decides where its key stands, the last one decides its value** (`Dict.Merges`), and no name is lost.
The values of an enum are the exception: a name repeated among them is an error, so all of them are kept, and
they are put in the order of their names.

The law is one for every map (`Dict.merges_ofList`): it asks only that the entries of the map were made of the
members one by one, each under the name of its member. Attributes are the first case; they are told from the
tables that store them, where a value can still be seen to be the one that stands for none.
-/

namespace InterfaceSchema

variable {α β : Type} {name : α → String}

/-! ## First and last -/

/-- **An item is the last of its name** in a list: no later one has that name. -/
def IsLast (name : α → String) (items : List α) (item : α) : Prop :=
  ∃ before after, items = before ++ item :: after ∧ name item ∉ after.map name

theorem isLast_cons_iff {a item : α} {rest : List α} :
    IsLast name (a :: rest) item ↔ IsLast name rest item ∨ item = a ∧ name a ∉ rest.map name := by
  constructor
  · rintro ⟨before, after, heq, hlast⟩
    cases before with
    | nil =>
      cases heq
      exact .inr ⟨rfl, hlast⟩
    | cons b before =>
      cases heq
      exact .inl ⟨before, after, rfl, hlast⟩
  · rintro (⟨before, after, rfl, hlast⟩ | ⟨rfl, hlast⟩)
    · exact ⟨a :: before, after, rfl, hlast⟩
    · exact ⟨[], rest, rfl, hlast⟩

/-- **The items that stand are the last of their names.** -/
theorem mem_standing_iff {items : List α} {item : α} : item ∈ standing name items ↔ IsLast name items item := by
  induction items with
  | nil => simp [standing, IsLast]
  | cons a rest ih =>
    rw [isLast_cons_iff, ← ih, standing_cons]
    split
    · rename_i hmem
      simp [hmem]
    · rename_i hmem
      simp [hmem, or_comm]

/-- **A map merges a list of members.** Its keys are their names in the order in which each occurs first, and
under a name stands what was made of the last member that has it. -/
structure Dict.Merges (d : Dict β) (name : α → String) (Made : α → β → Prop) (items : List α) : Prop where
  keys : d.keys = (items.map name).eraseDups
  last : ∀ item, IsLast name items item → ∃ value, d.get? (name item) = some value ∧ Made item value

namespace Dict

/-- **The keys of the map of a list** are those given, each at its first occurrence. -/
theorem keys_ofList (entries : List (String × β)) : (ofList entries).keys = (entries.map Prod.fst).eraseDups := by
  induction h : entries.reverse generalizing entries with
  | nil =>
    rw [List.reverse_eq_nil_iff.mp h]
    rfl
  | cons entry rest ih =>
    -- The last entry adds its key unless it is one of those before.
    rw [List.reverse_eq_cons_iff.mp h, ofList_concat, keys_insert, ih _ (List.reverse_reverse rest),
      List.map_append, List.eraseDups_append]
    generalize rest.reverse.map Prod.fst = keys
    by_cases hmem : entry.1 ∈ keys
    · rw [if_pos (List.mem_eraseDups.mpr hmem)]
      simp [List.removeAll, hmem]
    · rw [if_neg (mt List.mem_eraseDups.mp hmem)]
      simp [List.removeAll, List.eraseDups_cons, hmem]

/-- **The map of a list merges what its entries are made of**, if each has the name of its member. -/
theorem merges_ofList {Made : α → β → Prop} {items : List α} {entries : List (String × β)}
    (h : List.Forall₂ (fun item entry => entry.1 = name item ∧ Made item entry.2) items entries) :
    (ofList entries).Merges name Made items := by
  constructor
  case keys => rw [keys_ofList, map_eq_map_of_forall₂ name Prod.fst (fun _ _ hentry => hentry.1) h]
  case last =>
    intro item hitem
    have hstanding := forall₂_standing (fun _ _ hentry => hentry.1) h
    obtain ⟨⟨key, value⟩, hentry, rfl, hmade⟩ := exists_of_forall₂ hstanding.flip (mem_standing_iff.mpr hitem)
    exact ⟨value, (get?_eq_some_iff _).mpr (mem_entries_ofList.mpr hentry), hmade⟩

/-- **The map of a list of definitions by their names merges their declarations.** -/
theorem merges_ofList_map {Made : α → β → Prop} {key : β → String} {items : List α} {values : List β}
    (hkey : ∀ item value, Made item value → key value = name item) (h : List.Forall₂ Made items values) :
    (ofList (values.map fun value => (key value, value))).Merges name Made items :=
  merges_ofList (List.forall₂_map_right_iff.mpr (h.imp fun _ _ hmade => ⟨hkey _ _ hmade, hmade⟩))

end Dict

/-- **What stands in a map of members** was made of the last member of its name. -/
theorem Dict.Merges.exists_last {d : Dict β} {Made : α → β → Prop} {items : List α}
    (h : d.Merges name Made items) {key : String} {value : β} (hmem : (key, value) ∈ d.entries) :
    ∃ item, IsLast name items item ∧ name item = key ∧ Made item value := by
  have hkey : key ∈ d.keys := List.mem_map_of_mem hmem
  rw [h.keys, List.mem_eraseDups, ← mem_map_standing_iff] at hkey
  obtain ⟨item, hitem, rfl⟩ := List.mem_map.mp hkey
  have hlast := mem_standing_iff.mp hitem
  obtain ⟨value', hget, hmade⟩ := h.last item hlast
  rw [(Dict.get?_eq_some_iff _).mpr hmem, Option.some_inj] at hget
  exact ⟨item, hlast, rfl, hget ▸ hmade⟩

/-- A map has no entries when it merges none. -/
theorem Dict.Merges.isEmpty_iff {d : Dict β} {Made : α → β → Prop} {items : List α}
    (h : d.Merges name Made items) : d.isEmpty ↔ items = [] := by
  have hkeys : d.entries.map Prod.fst = (items.map name).eraseDups := h.keys
  rw [Dict.isEmpty, List.isEmpty_iff, ← List.map_eq_nil_iff, hkeys]
  cases items with
  | nil => simp
  | cons a rest => simp [List.eraseDups_cons]

/-- **A buffer that compiles** has a root table, and the schema read from it is accepted. -/
theorem exists_root_of_compile {b : Buffer} {source : Source} {c : Catalog} (h : compile b source = .ok c) :
    ∃ root enums objects interfaces, rootTable b = .ok root ∧
      (SchemaDecl.ofTable root).Accepts enums objects interfaces ∧
        c = (SchemaDecl.ofTable root).catalog source enums objects interfaces := by
  obtain ⟨s, enums, objects, interfaces, hs, haccepts, hc⟩ := accepts_of_compile h
  unfold readSchema at hs
  cases hroot : rootTable b with
  | error cause =>
    rw [hroot] at hs
    cases hs
  | ok root =>
    rw [hroot] at hs
    cases hs
    exact ⟨root, enums, objects, interfaces, rfl, haccepts, hc⟩

/-! ## Attributes -/

/-- **Attributes are merged from the tables that store them.** The value `0` is read as none. -/
def Attributes.MergedFrom (attributes : Attributes) (tables : List Table) : Prop :=
  attributes.Merges (Table.string · AttributeSlot.key)
    (fun t value => value =
      if t.string AttributeSlot.value = "0" then none else some (t.string AttributeSlot.value)) tables

/-- **The attributes of a declaration are merged from its table**, whatever it declares. -/
theorem Table.mergedFrom_attributes (t : Table) (slot : Nat) :
    Attributes.MergedFrom (attributeMap (t.attributes slot)) (t.tables slot) := by
  rw [attributeMap, Table.attributes, List.map_map]
  exact Dict.merges_ofList (List.forall₂_map_right_iff.mpr (List.forall₂_same.mpr fun _ _ => ⟨rfl, rfl⟩))

end InterfaceSchema
