import InterfaceSchema.Catalog.Compile
import Mathlib.Data.String.Basic
import Mathlib.Data.List.Nodup

/-!
# Sorting by name and finding by halving

The lists of a catalog are sorted by name, and its index is filled by binary search in them. A search by
halving is right only where the names increase strictly: then the window always keeps the position of the
name that is sought, and one position remains.

Sorting therefore needs that the names differ. With that, **each item of a list is found in the sorted list
at a position where it stands**, so the index built from the names of a list leads back to the list.
-/

namespace InterfaceSchema

variable {α β : Type} {name : α → String}

/-! ## Sorting -/

/-- Sorting keeps the items. -/
theorem sortByName_perm (name : α → String) (items : List α) : (sortByName name items).Perm items :=
  List.mergeSort_perm items _

/-- **Items of different names are strictly sorted.** -/
theorem sortByName_pairwise {items : List α} (h : (items.map name).Nodup) :
    (sortByName name items).Pairwise fun a b => name a < name b := by
  have hle : (sortByName name items).Pairwise fun a b => name a ≤ name b := by
    refine (List.pairwise_mergeSort ?_ ?_ items).imp fun hab => of_decide_eq_true hab
    · intro a b c hab hbc
      rw [decide_eq_true_eq] at *
      exact le_trans hab hbc
    · intro a b
      rw [← Bool.decide_or, decide_eq_true_eq]
      exact le_total (name a) (name b)
  have hne : (sortByName name items).Pairwise fun a b => name a ≠ name b :=
    List.pairwise_map.mp (((sortByName_perm name items).map name).nodup_iff.mpr h)
  exact (hle.and hne).imp fun ⟨hab, hab'⟩ => lt_of_le_of_ne hab hab'

/-! ## Finding -/

/-- **Narrowing keeps the position that is sought**, and ends there. -/
theorem narrow_eq {sorted : List α} (hsorted : sorted.Pairwise fun a b => name a < name b) {k : Nat}
    (hk : k < sorted.length) {base size : Nat} (h : base + size ≤ sorted.length) (hlow : base ≤ k)
    (hhigh : k < base + size) : narrow name sorted (name sorted[k]) base size h = k := by
  -- The window shrinks by half of its size, so the induction is on the size, for a window anywhere.
  induction size using Nat.strong_induction_on generalizing base with
  | _ size ih =>
    rw [narrow]
    split
    · rename_i hsize
      have hlt := List.pairwise_iff_getElem.mp hsorted
      dsimp only
      split
      · rename_i hless
        -- From the middle on all names are greater than the one that is sought.
        refine ih _ (by omega) _ hlow ?_
        by_contra hmid
        rcases Nat.lt_or_eq_of_le (show base + size / 2 ≤ k by omega) with hmid | rfl
        · exact lt_asymm hless (hlt _ _ _ hk hmid)
        · exact lt_irrefl _ hless
      · rename_i hless
        refine ih _ (by omega) _ ?_ (by omega)
        by_contra hmid
        exact hless (hlt _ _ hk _ (by omega))
    · omega

/-- **A binary search finds exactly the positions of the name.** -/
theorem position?_eq_some_iff {sorted : List α} (hsorted : sorted.Pairwise fun a b => name a < name b)
    {target : String} {i : Nat} :
    position? name sorted target = some i ↔ ∃ h : i < sorted.length, name sorted[i] = target := by
  rw [position?]
  constructor
  · intro h
    split at h
    · rename_i hfound
      cases h
      obtain ⟨item, hitem, hname⟩ := Option.map_eq_some_iff.mp hfound
      obtain ⟨hlt, hget⟩ := List.getElem?_eq_some_iff.mp hitem
      exact ⟨hlt, by rw [hget, hname]⟩
    · cases h
  · rintro ⟨hlt, rfl⟩
    have hposition := narrow_eq hsorted hlt (Nat.zero_add sorted.length).le (Nat.zero_le i) (by omega)
    simp only [hposition]
    rw [List.getElem?_eq_getElem hlt, Option.map_some, if_pos rfl]

/-- **Each item of a list is found in the sorted list**, at a position where it stands. -/
theorem exists_position? {items : List α} (h : (items.map name).Nodup) {item : α} (hitem : item ∈ items) :
    ∃ i, position? name (sortByName name items) (name item) = some i ∧
      (sortByName name items)[i]? = some item := by
  obtain ⟨i, hlt, hget⟩ := List.getElem_of_mem ((sortByName_perm name items).mem_iff.mpr hitem)
  refine ⟨i, (position?_eq_some_iff (sortByName_pairwise h)).mpr ⟨hlt, by rw [hget]⟩, ?_⟩
  rw [List.getElem?_eq_getElem hlt, hget]

/-! ## The index -/

/-- **Looking up the names of a list visits its items in order**: whatever is made of the position where
an item stands is made of each item. -/
theorem filterMap_position? {items : List α} (h : (items.map name).Nodup) {f : String → Nat → Option β}
    {g : α → β} (hf : ∀ item i, (sortByName name items)[i]? = some item → f (name item) i = some (g item)) :
    ((items.map name).filterMap fun n => (position? name (sortByName name items) n).bind (f n)) =
      items.map g := by
  rw [List.filterMap_map, ← List.filterMap_eq_map]
  refine List.filterMap_congr fun item hitem => ?_
  obtain ⟨i, hposition, hget⟩ := exists_position? h hitem
  rw [Function.comp_apply, hposition, Option.bind_some, hf item i hget]
  rfl

/-- **No name is dropped from the index**: its keys are the names of the list, in the order of the list. -/
theorem keys_indexEntries {items : List α} (h : (items.map name).Nodup) (kind : Nat → DefinitionRef) :
    (indexEntries name kind (sortByName name items) (items.map name)).map Prod.fst = items.map name := by
  rw [indexEntries, List.map_filterMap]
  refine Eq.trans ?_ (filterMap_position? h (f := fun n _ => some n) fun _ _ _ => rfl)
  refine List.filterMap_congr fun n _ => ?_
  cases position? name (sortByName name items) n <;> rfl

/-- **The index leads back to the list**: resolving its entries gives the items, in the order of the
list, under their names. -/
theorem resolve_indexEntries {items : List α} (h : (items.map name).Nodup)
    {kind : Nat → DefinitionRef} {resolve : DefinitionRef → Option β} (wrap : α → β)
    (hresolve : ∀ i, resolve (kind i) = (sortByName name items)[i]?.map wrap) :
    ((indexEntries name kind (sortByName name items) (items.map name)).filterMap fun entry =>
        (resolve entry.2).map fun d => (entry.1, d)) =
      items.map fun item => (name item, wrap item) := by
  rw [indexEntries, List.filterMap_filterMap]
  refine Eq.trans ?_ (filterMap_position? h
    (f := fun n i => (resolve (kind i)).map fun d => (n, d)) fun item i hget => ?_)
  · refine List.filterMap_congr fun n _ => ?_
    cases position? name (sortByName name items) n <;> rfl
  · rw [hresolve, hget]
    rfl

/-- **An entry of the index points at the item of its name.** -/
theorem of_mem_indexEntries {items : List α} (h : (items.map name).Nodup) {kind : Nat → DefinitionRef}
    {n : String} {ref : DefinitionRef}
    (hmem : (n, ref) ∈ indexEntries name kind (sortByName name items) (items.map name)) :
    n ∈ items.map name ∧ ∃ i, ref = kind i ∧
      ∃ hi : i < (sortByName name items).length, name (sortByName name items)[i] = n := by
  obtain ⟨n', hn', hentry⟩ := List.mem_filterMap.mp hmem
  obtain ⟨i, hposition, heq⟩ := Option.map_eq_some_iff.mp hentry
  cases heq
  exact ⟨hn', i, rfl, (position?_eq_some_iff (sortByName_pairwise h)).mp hposition⟩

end InterfaceSchema
