import InterfaceSchema.Proofs.Catalog.Definitions
import Mathlib.Data.List.Pairwise

/-!
# Which members stand

Members of one name are merged and the last one wins. An item of a list therefore **stands** when no later
item has its name (`standing`), and what a map of the list holds is exactly what stands in it
(`Dict.mem_entries_ofList`). The items that stand keep the order of the list; the map has another order,
that of the first occurrences, so the two agree as sets of entries and not as lists.
-/

namespace InterfaceSchema

variable {α β : Type} {name : α → String}

/-- **The items that stand**: those that no later item of the same name replaces. -/
def standing (name : α → String) (items : List α) : List α := items.pwFilter fun a b => name a ≠ name b

/-- An item stands in front of others unless one of them has its name. -/
theorem standing_cons (name : α → String) (a : α) (rest : List α) :
    standing name (a :: rest) =
      if name a ∈ rest.map name then standing name rest else a :: standing name rest := by
  have hnew : (∀ b ∈ standing name rest, name a ≠ name b) ↔ name a ∉ rest.map name := by
    rw [standing, List.forall_mem_pwFilter]
    · simp [eq_comm]
    · intro x y z hxz
      by_contra! hxyz
      exact hxz (hxyz.1.trans hxyz.2)
  by_cases hmem : name a ∈ rest.map name
  · rw [if_pos hmem]
    exact List.pwFilter_cons_of_neg fun h => hnew.mp h hmem
  · rw [if_neg hmem]
    exact List.pwFilter_cons_of_pos (hnew.mpr hmem)

theorem standing_sublist (name : α → String) (items : List α) : (standing name items).Sublist items :=
  List.pwFilter_sublist items

/-- Where no name is repeated all items stand. -/
theorem standing_eq_self {items : List α} (h : (items.map name).Nodup) : standing name items = items :=
  List.pwFilter_eq_self.mpr (List.pairwise_map.mp h)

/-- Every name of a list is that of an item that stands. -/
theorem mem_map_standing_iff {items : List α} {n : String} :
    n ∈ (standing name items).map name ↔ n ∈ items.map name := by
  induction items with
  | nil => rfl
  | cons a rest ih =>
    rw [standing_cons]
    split
    · rename_i hmem
      rw [ih, List.map_cons, List.mem_cons]
      exact (or_iff_right_of_imp fun h => h ▸ hmem).symm
    · rw [List.map_cons, List.mem_cons, ih, List.map_cons, List.mem_cons]

/-- **Standing is a matter of names**: in lists whose items correspond under the same names, the items that
stand correspond. -/
theorem forall₂_standing {name' : β → String} {R : α → β → Prop}
    (hname : ∀ a b, R a b → name' b = name a) {as : List α} {bs : List β} (h : List.Forall₂ R as bs) :
    List.Forall₂ R (standing name as) (standing name' bs) := by
  induction h with
  | nil => exact .nil
  | cons hab hrest ih =>
    rw [standing_cons, standing_cons, hname _ _ hab, map_eq_map_of_forall₂ name name' hname hrest]
    split
    · exact ih
    · exact .cons hab ih

namespace Dict

/-- **The map of a list holds the entries that stand in it.** -/
theorem mem_entries_ofList {entries : List (String × α)} {entry : String × α} :
    entry ∈ (ofList entries).entries ↔ entry ∈ standing Prod.fst entries := by
  obtain ⟨key, value⟩ := entry
  rw [← get?_eq_some_iff, get?_ofList]
  induction entries with
  | nil => simp [standing]
  | cons entry rest ih =>
    -- A key is found from the end, and only if nowhere later then at the first entry.
    rw [List.reverse_cons, List.find?_append, Option.map_or, Option.or_eq_some_iff, ih, standing_cons]
    have hnone : (rest.reverse.find? fun e => e.1 == key).map Prod.snd = none ↔
        key ∉ rest.map Prod.fst := by
      simp only [Option.map_eq_none_iff, List.find?_eq_none, List.mem_reverse, List.mem_map,
        beq_iff_eq, not_exists, not_and]
    have hlast : ([entry].find? fun e => e.1 == key).map Prod.snd = some value ↔
        (key, value) = entry := by
      obtain ⟨k, v⟩ := entry
      by_cases hk : k = key
      · simp [hk, eq_comm]
      · simp [hk, Ne.symm hk]
    rw [hnone, hlast]
    split
    · rename_i hmem
      refine or_iff_left ?_
      rintro ⟨hnew, rfl⟩
      exact hnew hmem
    · rename_i hmem
      rw [List.mem_cons, or_comm]
      refine or_congr_left (and_iff_right_of_imp ?_)
      rintro rfl
      exact hmem

/-- **A map of members by their names** holds each member that stands, under its name. -/
theorem mem_entries_ofList_map {items : List α} {key : String} {item : α} :
    (key, item) ∈ (ofList (items.map fun i => (name i, i))).entries ↔
      item ∈ standing name items ∧ name item = key := by
  rw [mem_entries_ofList, standing, List.pwFilter_map, List.mem_map]
  constructor
  · rintro ⟨i, hi, heq⟩
    cases heq
    exact ⟨hi, rfl⟩
  · rintro ⟨hi, rfl⟩
    exact ⟨item, hi, rfl⟩

/-- The keys of a map of members are their names. -/
theorem mem_keys_ofList_map {items : List α} {key : String} :
    key ∈ (ofList (items.map fun i => (name i, i))).keys ↔ key ∈ items.map name := by
  rw [← mem_map_standing_iff, keys, List.mem_map, List.mem_map]
  constructor
  · rintro ⟨⟨key, item⟩, hmem, rfl⟩
    obtain ⟨hitem, hname⟩ := mem_entries_ofList_map.mp hmem
    exact ⟨item, hitem, hname⟩
  · rintro ⟨item, hitem, hname⟩
    exact ⟨(key, item), mem_entries_ofList_map.mpr ⟨hitem, hname⟩, rfl⟩

end Dict

end InterfaceSchema
