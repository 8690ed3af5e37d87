/-!
# Ordered maps

Attributes, fields, calls and enum values are looked up by name, and the order in which they were
declared shows in every document. A `Dict` is a list of entries in which no key occurs twice.

**A repeated key keeps its first position and takes its last value**: inserting a key that is present
replaces its value where it stands, and a new key goes to the end. `Dict.ofList` inserts a list of entries
in order and so merges the repetitions in it; `Dict.sortKeys` puts the entries in the order of their keys,
which for strings is the order of their code points and hence of their UTF-8 bytes.

That no key occurs twice is part of the type, so two maps are equal when their entries are.
-/

namespace InterfaceSchema

/-- **A map from names, in order.** -/
structure Dict (α : Type) where
  /-- The entries in order. -/
  entries : List (String × α)
  /-- No key occurs twice. -/
  nodup : (entries.map Prod.fst).Nodup

namespace Dict

variable {α : Type}

/-- Maps with the same entries are equal. -/
theorem ext {d d' : Dict α} (h : d.entries = d'.entries) : d = d' := by
  cases d; cases d'; cases h; rfl

instance [DecidableEq α] : DecidableEq (Dict α) := fun d d' =>
  if h : d.entries = d'.entries then .isTrue (ext h) else .isFalse fun e => h (e ▸ rfl)

/-- The map without entries. -/
def empty : Dict α := ⟨[], List.nodup_nil⟩

instance : Inhabited (Dict α) := ⟨empty⟩

/-- The keys in order. -/
def keys (d : Dict α) : List String := d.entries.map Prod.fst

/-- The values in the order of their keys. -/
def values (d : Dict α) : List α := d.entries.map Prod.snd

/-- Whether the map has no entries. -/
def isEmpty (d : Dict α) : Bool := d.entries.isEmpty

/-- **The value of a key**, if it has one. -/
def get? (d : Dict α) (key : String) : Option α := d.entries.lookup key

/-- **A value is found under a key just when they are an entry.** -/
theorem get?_eq_some_iff (d : Dict α) {key : String} {value : α} :
    d.get? key = some value ↔ (key, value) ∈ d.entries := by
  obtain ⟨entries, nodup⟩ := d
  show entries.lookup key = some value ↔ (key, value) ∈ entries
  induction entries with
  | nil => simp
  | cons entry rest ih =>
    obtain ⟨name, first⟩ := entry
    rw [List.map_cons, List.nodup_cons] at nodup
    by_cases hkey : key = name
    · subst hkey
      rw [List.lookup_cons_self, List.mem_cons, Option.some_inj, Prod.mk.injEq]
      constructor
      · exact fun h => .inl ⟨rfl, h.symm⟩
      · rintro (⟨-, h⟩ | h)
        · exact h.symm
        · exact absurd (List.mem_map_of_mem h) nodup.1
    · rw [List.lookup_cons, beq_false_of_ne hkey, List.mem_cons, Prod.mk.injEq]
      rw [show ((key = name ∧ value = first) ∨ (key, value) ∈ rest) ↔ (key, value) ∈ rest from
        or_iff_right fun h => hkey h.1]
      exact ih nodup.2

/-! ## Inserting -/

/-- An entry put into a list of entries: in the place of its key, or at the end. -/
def put (key : String) (value : α) : List (String × α) → List (String × α)
  | [] => [(key, value)]
  | entry :: rest =>
    if entry.1 = key then (key, value) :: rest else entry :: put key value rest

/-- The keys after an entry was put: the same, or one more at the end. -/
theorem keys_put (key : String) (value : α) (entries : List (String × α)) :
    (put key value entries).map Prod.fst =
      if key ∈ entries.map Prod.fst then entries.map Prod.fst
      else entries.map Prod.fst ++ [key] := by
  induction entries with
  | nil => simp [put]
  | cons entry rest ih =>
    unfold put
    by_cases h : entry.1 = key
    · simp [h]
    · simp only [h, if_false, List.map_cons, ih, List.mem_cons, Ne.symm h, false_or]
      split <;> simp

/-- An entry with a new key is put at the end. -/
theorem put_of_not_mem {key : String} (value : α) {entries : List (String × α)}
    (h : key ∉ entries.map Prod.fst) : put key value entries = entries ++ [(key, value)] := by
  induction entries with
  | nil => rfl
  | cons entry rest ih =>
    rw [List.map_cons, List.mem_cons, not_or] at h
    rw [put, if_neg (Ne.symm h.1), ih h.2]
    rfl

/-- Putting an entry repeats no key. -/
theorem nodup_put (key : String) (value : α) {entries : List (String × α)}
    (h : (entries.map Prod.fst).Nodup) : ((put key value entries).map Prod.fst).Nodup := by
  rw [keys_put]
  split
  · exact h
  · rename_i hkey
    rw [List.nodup_append]
    refine ⟨h, by simp, ?_⟩
    intro a ha b hb
    rw [List.mem_singleton] at hb
    subst hb
    exact fun e => hkey (e ▸ ha)

/-- What is found after an entry was put: its value under its key, and under any other key what was
found before. -/
theorem lookup_put (key : String) (value : α) (entries : List (String × α)) (k : String) :
    (put key value entries).lookup k = if k = key then some value else entries.lookup k := by
  induction entries with
  | nil =>
    by_cases hk : k = key
    · simp [put, hk]
    · simp [put, List.lookup_cons, hk, beq_false_of_ne hk]
  | cons entry rest ih =>
    obtain ⟨name, old⟩ := entry
    by_cases he : name = key
    · by_cases hk : k = key
      · simp [put, he, hk]
      · simp [put, he, hk, List.lookup_cons, beq_false_of_ne hk]
    · by_cases hk : k = name
      · simp [put, he, hk]
      · simp [put, he, List.lookup_cons, beq_false_of_ne hk, ih]

/-- **A key given a value**: its old one is replaced where it stands, a new key goes to the end. -/
def insert (d : Dict α) (key : String) (value : α) : Dict α :=
  ⟨put key value d.entries, nodup_put key value d.nodup⟩

/-- Inserting adds its key at the end if it is new, and otherwise no key. -/
theorem keys_insert (d : Dict α) (key : String) (value : α) :
    (d.insert key value).keys = if key ∈ d.keys then d.keys else d.keys ++ [key] :=
  keys_put key value d.entries

/-- Inserting changes what is found under its key and nothing else. -/
theorem get?_insert (d : Dict α) (key : String) (value : α) (k : String) :
    (d.insert key value).get? k = if k = key then some value else d.get? k :=
  lookup_put key value d.entries k

/-- **The map of a list of entries**: each key at its first position with its last value. -/
def ofList (entries : List (String × α)) : Dict α :=
  entries.foldl (fun d entry => d.insert entry.1 entry.2) empty

/-- One more entry is inserted last. -/
theorem ofList_concat (entries : List (String × α)) (entry : String × α) :
    ofList (entries ++ [entry]) = (ofList entries).insert entry.1 entry.2 := by
  rw [ofList, List.foldl_append]
  rfl

/-- **Under a key the map of a list finds the last value given to it.** -/
theorem get?_ofList (entries : List (String × α)) (key : String) :
    (ofList entries).get? key = (entries.reverse.find? fun entry => entry.1 == key).map Prod.snd := by
  induction h : entries.reverse generalizing entries with
  | nil =>
    rw [List.reverse_eq_nil_iff.mp h]
    rfl
  | cons entry rest ih =>
    rw [List.reverse_eq_cons_iff.mp h, ofList_concat, get?_insert, ih _ (List.reverse_reverse rest)]
    by_cases hkey : entry.1 = key
    · simp [hkey]
    · simp [hkey, Ne.symm hkey]

/-- **A search among the keys finds what it finds among all keys given**: the keys stand in the order of
their first occurrence. -/
theorem find?_keys_ofList (entries : List (String × α)) (p : String → Bool) :
    (ofList entries).keys.find? p = (entries.map Prod.fst).find? p := by
  induction h : entries.reverse generalizing entries with
  | nil =>
    rw [List.reverse_eq_nil_iff.mp h]
    rfl
  | cons entry rest ih =>
    rw [List.reverse_eq_cons_iff.mp h, ofList_concat, keys_insert, List.map_append,
      List.find?_append, ← ih _ (List.reverse_reverse rest)]
    split
    · rename_i hmem
      cases hfind : (ofList rest.reverse).keys.find? p with
      | some key => rfl
      | none =>
        have hfalse := List.find?_eq_none.mp hfind entry.1 hmem
        simp [hfalse]
    · rw [List.find?_append]
      rfl

/-- **With different keys the map of a list has its entries**, in their order. -/
theorem entries_ofList (entries : List (String × α)) (h : (entries.map Prod.fst).Nodup) :
    (ofList entries).entries = entries := by
  induction hrev : entries.reverse generalizing entries with
  | nil =>
    rw [List.reverse_eq_nil_iff.mp hrev]
    rfl
  | cons entry rest ih =>
    have hentries := List.reverse_eq_cons_iff.mp hrev
    rw [hentries, List.map_append, List.nodup_append] at h
    have hrest := ih rest.reverse h.1 (List.reverse_reverse rest)
    rw [hentries, ofList_concat]
    show put entry.1 entry.2 (ofList rest.reverse).entries = _
    rw [hrest, put_of_not_mem]
    exact fun hmem => h.2.2 entry.1 hmem entry.1 (List.mem_singleton_self _) rfl

/-! ## Order -/

/-- **The same entries in the order of their keys.** -/
def sortKeys (d : Dict α) : Dict α where
  entries := d.entries.mergeSort fun a b => decide (a.1 ≤ b.1)
  nodup := ((List.mergeSort_perm d.entries _).map Prod.fst).nodup_iff.mpr d.nodup

end Dict

end InterfaceSchema
