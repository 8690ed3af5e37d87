import InterfaceSchema.Machine.Compile
import InterfaceSchema.Proofs.Machine.Vectors

/-!
# Compiling in machine words does not stop

The reader of a declaration is a sequence of calls on one table, and its nesting is that of the
declarations, which is finite: a schema reads objects, an object reads fields, a field reads a type, and a
type reads numbers. So cycles and overlaps of the buffer are of no consequence. Whatever the bytes are,
there is one lemma for each kind of declaration, and it is put together from those of its parts
(`Reads.declarations`, `Reads.declaration?`), down to the calls on tables.

**No distance stops a compile, however long the buffer is.** The root stands at a word of four bytes, and a
table leads to others by a field, an offset, an index and a second offset, each of four bytes or less. So the
declarations of a schema lie low: a few times one `stride` above the start, where distances fit. `Table.Near`
counts the levels that are left.

After the gate and the reading, nothing is left that could stop but the names of objects, which are taken by
index from a list of as many names.
-/

namespace InterfaceSchema

/-! ## How far tables lead -/

/-- **How far a table leads at most**: to a field, from there by an offset to a vector, along its words, and by
another offset to an element. -/
def stride : Nat := 2 ^ 35

/-- **A low position**: from here on distances fit for some levels of tables. -/
def Low (levels pos : Nat) : Prop := pos + levels * stride + 2 ^ 31 ≤ Machine.maxLength

/-- An offset leads no further than four bytes can say. -/
theorem Buffer.lt_of_follow? {b : Buffer} {pos target : Nat} (h : b.follow? pos = some target) :
    target < pos + 2 ^ 32 := by
  unfold follow? at h
  split at h
  · cases h
  · rename_i distance hdistance
    have hlt : distance < 2 ^ 32 := Machine.lt_of_word? hdistance
    split at h
    · cases h
      omega
    · cases h

namespace Table

variable {b : Buffer} {t inner : Table} {levels slot : Nat}

/-- **A table that stands low**, if it stands anywhere. -/
def Near (levels : Nat) (t : Table) : Prop := ∀ pos, t.pos = some pos → Low levels pos

/-- A table with a field stands before it, by no more than two bytes can say. -/
theorem exists_pos_of_field? {field : Nat} (h : t.field? slot = some field) :
    ∃ pos, t.pos = some pos ∧ field < pos + 2 ^ 16 := by
  unfold field? at h
  split at h
  · rename_i pos _ hpos _
    refine ⟨pos, hpos, ?_⟩
    dsimp only at h
    split at h
    · cases h
    · split_ifs at h
      split at h
      · cases h
      · rename_i distance _
        have hlt := distance.toNat_lt
        split_ifs at h
        cases h
        omega
  · cases h

/-- A table is bound where it was asked for. -/
theorem eq_of_bind? {pos : Nat} (h : bind? b pos = some t) : t = ⟨b, some pos⟩ := by
  unfold bind? at h
  dsimp only at h
  split at h
  · cases h
  · split_ifs at h
    exact (Option.some.inj h).symm

/-- **An offset word in the reach of a low table** leads to one that stands low. -/
theorem near_follow {word : Nat} (h : Low levels (word + 2 ^ 32)) : (follow b word).Near levels := by
  intro pos hpos
  unfold follow at hpos
  split at hpos
  · cases hpos
  · rename_i target htarget
    have hlt := b.lt_of_follow? htarget
    cases hbind : bind? b target with
    | none =>
      rw [hbind] at hpos
      cases hpos
    | some t =>
      rw [hbind, eq_of_bind? hbind] at hpos
      cases hpos
      unfold Low at *
      omega

namespace Near

/-- A field of a low table is low. -/
theorem low_field (h : t.Near (levels + 1)) {field : Nat} (hfield : t.field? slot = some field) :
    Low levels (field + 2 ^ 32) := by
  obtain ⟨pos, hpos, hlt⟩ := exists_pos_of_field? hfield
  have hlow := h pos hpos
  unfold Low stride at *
  omega

/-- The words of a vector of a low table are low. -/
theorem low_wordPos (h : t.Near (levels + 1)) {i : Nat} (hi : i < (t.vector slot).length) :
    Low levels ((t.vector slot).wordPos i + 2 ^ 32) := by
  unfold vector at *
  split at hi
  · exact absurd hi (Nat.not_lt_zero i)
  · rename_i target htarget
    obtain ⟨field, hfield, hfollow⟩ := Option.bind_eq_some_iff.mp htarget
    obtain ⟨pos, hpos, hlt⟩ := exists_pos_of_field? hfield
    have hlow := h pos hpos
    have hnext := Buffer.lt_of_follow? hfollow
    have hlength : i < 2 ^ 32 := by
      refine Nat.lt_of_lt_of_le hi (Nat.le_trans (Nat.min_le_left _ _) ?_)
      cases hword : t.buffer.word? 4 target with
      | none => exact Nat.zero_le _
      | some n => exact Nat.le_of_lt (Machine.lt_of_word? hword)
    show Low levels (target + 4 + 4 * i + 2 ^ 32)
    unfold Low stride at *
    omega

/-- **A table inside a low table stands low**, one level further on. -/
theorem table? (h : t.Near (levels + 1)) (hinner : t.table? slot = some inner) : inner.Near levels := by
  obtain ⟨target, htarget, hbind⟩ := Option.bind_eq_some_iff.mp hinner
  obtain ⟨field, hfield, hfollow⟩ := Option.bind_eq_some_iff.mp htarget
  have heq : follow t.buffer field = inner := by
    rw [follow, hfollow]
    dsimp only
    rw [hbind, Option.getD_some]
  exact heq ▸ near_follow (h.low_field hfield)

/-- **So do the tables of its vectors.** -/
theorem tables (h : t.Near (levels + 1)) (hinner : inner ∈ t.tables slot) : inner.Near levels := by
  obtain ⟨i, hi, rfl⟩ := List.mem_map.mp hinner
  exact near_follow (h.low_wordPos (List.mem_range.mp hi))

end Near

end Table

/-- **The root stands low**, for its offset is a word of four bytes. -/
theorem near_rootTable {b : Buffer} {t : Table} (h : rootTable b = .ok t) : t.Near 3 := by
  have hroot : (b.word? 4 0).getD 0 < 2 ^ 32 := by
    cases hword : b.word? 4 0 with
    | none => exact Nat.two_pow_pos 32
    | some n => exact Machine.lt_of_word? hword
  unfold rootTable at h
  dsimp only at h
  split_ifs at h
  split at h
  · cases h
  · rename_i t' hbind
    cases h
    cases Table.eq_of_bind? hbind
    rintro pos hpos
    cases hpos
    unfold Low stride Machine.maxLength
    omega

end InterfaceSchema

namespace InterfaceSchema.Machine

variable {α β : Type} {b : Buffer} {levels : Nat}

/-- After a computation with a result comes what is computed from it. -/
theorem bind_ok {x : Checked α} {a : α} {f : α → Checked β} {c : β} (hx : x = .ok a) (hf : f a = .ok c) :
    (x >>= f) = .ok c := by
  rw [hx]
  exact hf

/-- **A computation on each element of a list**, each with a result. -/
theorem mapM_ok {f : α → Checked β} {g : α → β} {items : List α} (h : ∀ a ∈ items, f a = .ok (g a)) :
    items.mapM f = .ok (items.map g) := by
  induction items with
  | nil => rfl
  | cons a items ih =>
    rw [List.mapM_cons, List.map_cons]
    refine bind_ok (h a List.mem_cons_self) ?_
    exact bind_ok (ih fun a' ha' => h a' (List.mem_cons_of_mem a ha')) rfl

/-! ## Declarations from tables -/

namespace Table

variable {t : Table}

/-- The distance of a low table fits. -/
theorem fits_of_near (hb : t.buffer.size ≤ maxLength) (h : t.exact.Near levels) : t.Fits := by
  by_cases hpos : t.pos = nowhere
  · intro back hback
    rw [hpos, int32?_nowhere hb] at hback
    cases hback
  · have hlow : Low levels t.pos.toNat := h _ (if_neg hpos)
    unfold Low at hlow
    exact distanceFits_of_le (by omega)

/-- An offset word in the reach of a low table leads to a distance that fits. -/
theorem followFits_of_low {word : Nat} (h : Low levels (word + 2 ^ 32)) : FollowFits b word := by
  intro target htarget
  have hlt := b.lt_of_follow? htarget
  unfold Low at h
  exact distanceFits_of_le (by omega)

/-- Documentation is read. -/
theorem docs_eq (hb : t.buffer.size ≤ maxLength) (hfits : t.Fits) (slot : Nat) :
    t.docs slot = .ok (t.exact.docs (UInt16.ofNat slot).toNat) :=
  bind_ok ((runs_strings hb _).eq_ok hfits) rfl

end Table

/-- **A reader of declarations runs** on every low table and agrees with one on natural numbers. -/
def Reads (levels : Nat) (read : Table → Checked α) (exactRead : InterfaceSchema.Table → α) : Prop :=
  ∀ t : Table, t.buffer.size ≤ maxLength → t.exact.Near levels → read t = .ok (exactRead t.exact)

namespace Reads

variable {read : Table → Checked α} {exactRead : InterfaceSchema.Table → α} {t : Table}

/-- **The declarations in a vector** are read one by one. -/
theorem declarations (h : Reads levels read exactRead) (hb : t.buffer.size ≤ maxLength)
    (ht : t.exact.Near (levels + 1)) (slot : Nat) :
    t.declarations read slot = .ok ((t.exact.tables (UInt16.ofNat slot).toNat).map exactRead) := by
  obtain ⟨tables, hok, htables, hinside⟩ := (Table.runs_tables hb (.ofNat slot)).exists_ok
    ⟨Table.fits_of_near hb ht, fun i hi => Table.followFits_of_low (ht.low_wordPos hi)⟩
  refine bind_ok hok ?_
  rw [← htables, List.map_map]
  refine mapM_ok fun inner hinner => h inner ?_ (ht.tables (htables ▸ List.mem_map_of_mem hinner))
  rwa [(hinside inner hinner).1]

/-- **The declaration in a slot** is read if it is there. -/
theorem declaration? (h : Reads levels read exactRead) (hb : t.buffer.size ≤ maxLength)
    (ht : t.exact.Near (levels + 1)) (slot : Nat) :
    t.declaration? read slot = .ok ((t.exact.table? (UInt16.ofNat slot).toNat).map exactRead) := by
  obtain ⟨o, hok, ho, hinside⟩ := (Table.runs_table? hb (.ofNat slot)).exists_ok
    ⟨Table.fits_of_near hb ht, fun field hfield => Table.followFits_of_low (ht.low_field hfield)⟩
  refine bind_ok hok ?_
  rw [← ho]
  cases o with
  | none => rfl
  | some inner => exact bind_ok (h inner (by rwa [(hinside inner rfl).1]) (ht.table? ho.symm)) rfl

end Reads

/-- An attribute is read. -/
theorem reads_attributeDecl : Reads levels attributeDecl AttributeDecl.ofTable := by
  intro t hb ht
  have hfits := Table.fits_of_near hb ht
  refine bind_ok ((Table.runs_string hb _).eq_ok hfits) ?_
  refine bind_ok ((Table.runs_string hb _).eq_ok hfits) ?_
  rfl

/-- A type is read. -/
theorem reads_typeDecl : Reads levels typeDecl TypeDecl.ofTable := by
  intro t hb ht
  have hfits := Table.fits_of_near hb ht
  refine bind_ok ((Table.runs_scalar hb int8?_eq _ _).eq_ok hfits) ?_
  refine bind_ok ((Table.runs_scalar hb int8?_eq _ _).eq_ok hfits) ?_
  refine bind_ok ((Table.runs_scalar hb (int32?_eq hb) _ _).eq_ok hfits) ?_
  rfl

/-- An enum value is read. -/
theorem reads_enumValueDecl : Reads (levels + 1) enumValueDecl EnumValueDecl.ofTable := by
  intro t hb ht
  have hfits := Table.fits_of_near hb ht
  refine bind_ok ((Table.runs_string hb _).eq_ok hfits) ?_
  refine bind_ok ((Table.runs_scalar hb (int64?_eq hb) _ _).eq_ok hfits) ?_
  refine bind_ok (reads_typeDecl.declaration? hb ht _) ?_
  refine bind_ok (Table.docs_eq hb hfits _) ?_
  rfl

/-- An enum is read. -/
theorem reads_enumDecl : Reads (levels + 2) enumDecl EnumDecl.ofTable := by
  intro t hb ht
  have hfits := Table.fits_of_near hb ht
  refine bind_ok ((Table.runs_string hb _).eq_ok hfits) ?_
  refine bind_ok (reads_enumValueDecl.declarations hb ht _) ?_
  refine bind_ok ((Table.runs_scalar hb bool?_eq _ _).eq_ok hfits) ?_
  refine bind_ok (reads_typeDecl.declaration? hb ht _) ?_
  refine bind_ok (reads_attributeDecl.declarations hb ht _) ?_
  refine bind_ok (Table.docs_eq hb hfits _) ?_
  rfl

/-- A field is read. -/
theorem reads_fieldDecl : Reads (levels + 1) fieldDecl FieldDecl.ofTable := by
  intro t hb ht
  have hfits := Table.fits_of_near hb ht
  refine bind_ok ((Table.runs_string hb _).eq_ok hfits) ?_
  refine bind_ok (reads_typeDecl.declaration? hb ht _) ?_
  refine bind_ok ((Table.runs_scalar hb (uint16?_eq hb) _ _).eq_ok hfits) ?_
  refine bind_ok ((Table.runs_scalar hb (uint16?_eq hb) _ _).eq_ok hfits) ?_
  refine bind_ok ((Table.runs_scalar hb (int64?_eq hb) _ _).eq_ok hfits) ?_
  refine bind_ok ((Table.runs_scalar hb (real?_eq hb) _ _).eq_ok hfits) ?_
  refine bind_ok ((Table.runs_scalar hb bool?_eq _ _).eq_ok hfits) ?_
  refine bind_ok ((Table.runs_scalar hb bool?_eq _ _).eq_ok hfits) ?_
  refine bind_ok ((Table.runs_scalar hb bool?_eq _ _).eq_ok hfits) ?_
  refine bind_ok (reads_attributeDecl.declarations hb ht _) ?_
  refine bind_ok (Table.docs_eq hb hfits _) ?_
  rfl

/-- An object is read. -/
theorem reads_objectDecl : Reads (levels + 2) objectDecl ObjectDecl.ofTable := by
  intro t hb ht
  have hfits := Table.fits_of_near hb ht
  refine bind_ok ((Table.runs_string hb _).eq_ok hfits) ?_
  refine bind_ok (reads_fieldDecl.declarations hb ht _) ?_
  refine bind_ok ((Table.runs_scalar hb bool?_eq _ _).eq_ok hfits) ?_
  refine bind_ok ((Table.runs_scalar hb (int32?_eq hb) _ _).eq_ok hfits) ?_
  refine bind_ok ((Table.runs_scalar hb (int32?_eq hb) _ _).eq_ok hfits) ?_
  refine bind_ok (reads_attributeDecl.declarations hb ht _) ?_
  refine bind_ok (Table.docs_eq hb hfits _) ?_
  rfl

/-- The name of an object is read. -/
theorem reads_objectName : Reads levels objectName (·.string ObjectSlot.name) :=
  fun _ hb ht => (Table.runs_string hb _).eq_ok (Table.fits_of_near hb ht)

/-- A call is read. -/
theorem reads_callDecl : Reads (levels + 1) callDecl CallDecl.ofTable := by
  intro t hb ht
  have hfits := Table.fits_of_near hb ht
  refine bind_ok ((Table.runs_string hb _).eq_ok hfits) ?_
  refine bind_ok (reads_objectName.declaration? hb ht _) ?_
  refine bind_ok (reads_objectName.declaration? hb ht _) ?_
  refine bind_ok (reads_attributeDecl.declarations hb ht _) ?_
  refine bind_ok (Table.docs_eq hb hfits _) ?_
  rfl

/-- A service is read. -/
theorem reads_serviceDecl : Reads (levels + 2) serviceDecl ServiceDecl.ofTable := by
  intro t hb ht
  have hfits := Table.fits_of_near hb ht
  refine bind_ok ((Table.runs_string hb _).eq_ok hfits) ?_
  refine bind_ok (reads_callDecl.declarations hb ht _) ?_
  refine bind_ok (reads_attributeDecl.declarations hb ht _) ?_
  refine bind_ok (Table.docs_eq hb hfits _) ?_
  rfl

/-- **A schema is read**, whatever its bytes are. -/
theorem reads_schemaDecl : Reads (levels + 3) schemaDecl SchemaDecl.ofTable := by
  intro t hb ht
  have hfits := Table.fits_of_near hb ht
  refine bind_ok ((Table.runs_string hb _).eq_ok hfits) ?_
  refine bind_ok ((Table.runs_string hb _).eq_ok hfits) ?_
  refine bind_ok (reads_objectDecl.declaration? hb ht _) ?_
  refine bind_ok (reads_enumDecl.declarations hb ht _) ?_
  refine bind_ok (reads_objectDecl.declarations hb ht _) ?_
  refine bind_ok (reads_serviceDecl.declarations hb ht _) ?_
  rfl

/-! ## The gate -/

/-- No table is bound past the end. -/
theorem bind?_eq_none {pos : Nat} (h : b.size ≤ pos) : InterfaceSchema.Table.bind? b pos = none := by
  have hword : b.int32? pos = none := by
    rw [Buffer.int32?, Buffer.uint32?, Buffer.word?, b.slice?_eq_none (by omega)]
    rfl
  simp only [InterfaceSchema.Table.bind?, InterfaceSchema.Table.vtable?, hword]

/-- **The gate runs**, for the root offset is low, and a table that passes it is attached. -/
theorem runs_rootTable (hb : b.size ≤ maxLength) :
    Runs True (rootTable b) fun r => r.map Table.exact = InterfaceSchema.rootTable b ∧
      ∀ t, r = .ok t → t.buffer = b ∧ t.Attached := by
  have hsize : (UInt64.ofNat headerSize).toNat = headerSize := rfl
  have hword : (b.word? 4 0).getD 0 = ((uint32? b 0).getD 0).toNat := (toNat_getD_uint32? hb 0).symm
  unfold rootTable InterfaceSchema.rootTable
  simp only [UInt64.lt_iff_toNat_lt, UInt64.le_iff_toNat_le, hsize, toNat_length hb]
  by_cases hshort : b.size < headerSize
  · rw [if_pos hshort, if_pos hshort]
    exact .pure ⟨rfl, nofun⟩
  rw [if_neg hshort, if_neg hshort, slice, b.slice?_eq_some (Nat.not_lt.mp hshort)]
  refine (Runs.pure rfl).bind fun bytes hbytes => ?_
  cases hbytes
  simp only [ne_eq, Option.some_inj, UInt32.toNat_toUInt64, hword]
  split
  · exact .pure ⟨rfl, nofun⟩
  -- The machine refuses a root past the end by a check of its own, where binding would refuse it as well.
  have hroot := UInt32.toNat_toUInt64 ((uint32? b 0).getD 0)
  generalize (uint32? b 0).getD 0 = root at hroot
  by_cases hlow : root.toNat < headerSize
  · rw [if_pos (.inl hlow), if_pos hlow]
    exact .pure ⟨rfl, nofun⟩
  rw [if_neg hlow]
  by_cases hhigh : b.size ≤ root.toNat
  · rw [if_pos (.inr hhigh), bind?_eq_none hhigh]
    exact .pure ⟨rfl, nofun⟩
  rw [if_neg (not_or.mpr ⟨hlow, hhigh⟩)]
  have hfits : DistanceFits b root.toUInt64.toNat := by
    have hlt := root.toNat_lt
    exact distanceFits_of_le (by unfold maxLength; omega)
  refine ((Table.runs_bind? hb _).mono fun _ => hfits).bind fun o ⟨ho, hattached⟩ => ?_
  rw [← hroot, ← ho]
  cases o with
  | none => exact .pure ⟨rfl, nofun⟩
  | some t =>
    refine .pure ⟨rfl, fun t' ht' => ?_⟩
    cases ht'
    exact hattached t rfl

/-! ## Compiling -/

/-- An element of a list is taken by an index of it. -/
theorem nth_eq_ok {items : List α} {i : Nat} {a : α} (h : items[i]? = some a) : nth items i = .ok a := by
  obtain ⟨hlt, rfl⟩ := List.getElem?_eq_some_iff.mp h
  rw [nth, dif_pos hlt]
  rfl

/-- **Objects are found under their own names.** -/
theorem nameObjects_eq (objects : List ObjectDecl) : nameObjects objects = .ok objects := by
  have hfst : objects.zipIdx.map Prod.fst = objects := List.zipIdx_map_fst 0 objects
  unfold nameObjects
  -- Each object is paired with its index, and it is the pairs that are walked.
  conv => rhs; rw [← hfst]
  refine mapM_ok fun ⟨o, i⟩ hmem => ?_
  have hname : (objects.map (·.name))[i]? = some o.name := by
    rw [List.getElem?_map, List.mk_mem_zipIdx_iff_getElem?.mp hmem, Option.map_some]
  exact bind_ok (nth_eq_ok hname) rfl

/-- **A compile runs on every buffer that there can be** and answers the catalog or the error that the reader
of natural numbers answers. -/
theorem compile_eq (hb : b.size ≤ maxLength) (source : Source) :
    compile b source = .ok (InterfaceSchema.compile b source) := by
  obtain ⟨r, hok, hroot, hattached⟩ := (runs_rootTable hb).exists_ok trivial
  refine bind_ok hok ?_
  unfold InterfaceSchema.compile readSchema
  rw [← hroot]
  cases r with
  | error cause => rfl
  | ok t =>
    have hbuffer : t.buffer.size ≤ maxLength := by rwa [(hattached t rfl).1]
    refine bind_ok (reads_schemaDecl t hbuffer (near_rootTable hroot.symm)) ?_
    exact bind_ok (nameObjects_eq _) rfl

end InterfaceSchema.Machine
