import InterfaceSchema.Proofs.Machine.Agreement

/-!
# Tables in machine words

Every call on a table starts by reading the word at its position. If that fails the table has no vtable and
all its slots are absent – this is how a detached table reads, for nothing can be read at the greatest word.
If it does not, the position is inside the buffer, and **all sums that follow stay near what was read**: the
vtable by its two size words, an entry by the size that the vtable declares, a field by a two-byte distance.

So a call runs on any table, wherever it was said to stand. A table that was bound has more: its first word
and the two size words of its vtable are inside the buffer (`Table.Attached`).
-/

namespace InterfaceSchema.Machine

variable {b : Buffer}

/-- A small word is the same as a signed word. -/
theorem toInt_toInt64 {n : UInt64} (h : n.toNat < 2 ^ 63) : n.toInt64.toInt = n.toNat := by
  have hn : n.toInt64 = Int64.ofNat n.toNat := by rw [← UInt64.toInt64_ofNat', UInt64.ofNat_toNat]
  rw [hn, Int64.toInt_ofNat_of_lt h]

/-- A signed word that is not negative is the same as an unsigned word. -/
theorem toNat_toUInt64 {d : Int64} (h : 0 ≤ d.toInt) :
    d.toUInt64.toNat = d.toInt.toNat ∧ d.toUInt64.toNat < 2 ^ 63 := by
  have hd : d.toUInt64.toNat = d.toInt.toNat :=
    Int64.toNat_toUInt64_of_le (Int64.le_iff_toInt_le.mpr h)
  have hlt := d.toInt_lt
  exact ⟨hd, by omega⟩

/-- A signed word is not negative when its number is not. -/
theorem zero_le_iff {d : Int64} : 0 ≤ d ↔ 0 ≤ d.toInt := Int64.le_iff_toInt_le

/-- **A distance is subtracted exactly** from a position where it fits. -/
theorem runs_distance (hb : b.size ≤ maxLength) {pos : UInt64} {back : Int32}
    (hback : b.int32? pos.toNat = some back) :
    Runs (DistanceFits b pos.toNat) (distance pos.toInt64 back.toInt64) fun d =>
      d.toInt = pos.toNat - back.toInt := by
  have hend : pos.toNat + 4 ≤ b.size := le_size_of_int32? hback
  have hexact : pos.toInt64.toInt - back.toInt64.toInt = pos.toNat - back.toInt := by
    rw [toInt_toInt64 (by rw [maxLength] at hb; omega), Int32.toInt_toInt64]
  have hhigh := back.toInt_lt
  have hmin : Int64.minValue.toInt = -2 ^ 63 := rfl
  have hmax : Int64.maxValue.toInt = maxLength := rfl
  -- A difference is never too small, for the position is not negative; it is too great only for a negative word.
  by_cases hfits : (pos.toNat : Int) - back.toInt ≤ maxLength
  · obtain ⟨hdistance, hd⟩ := distance_of_inRange (a := pos.toInt64) (c := back.toInt64)
      (by omega) (by omega)
    exact .inl ⟨_, hdistance, hd.trans hexact⟩
  · refine .inr ⟨?_, fun h => hfits (h back hback)⟩
    rw [distance, if_neg (by omega)]

namespace Table

/-- **The table as natural numbers have it**: one that stands at the greatest word stands nowhere. -/
def exact (t : Table) : InterfaceSchema.Table :=
  ⟨t.buffer, if t.pos = nowhere then none else some t.pos.toNat⟩

/-- Nothing can be read at the greatest word. -/
theorem int32?_nowhere (hb : b.size ≤ maxLength) : b.int32? nowhere.toNat = none := by
  have hnowhere : nowhere.toNat = 2 ^ 64 - 1 := rfl
  unfold maxLength at hb
  rw [Buffer.int32?, Buffer.uint32?, Buffer.word?, b.slice?_eq_none (by omega)]
  rfl

/-- A table has the vtable that the word at its position says, and none where no word can be read. -/
theorem vtable?_exact {t : Table} (hb : t.buffer.size ≤ maxLength) :
    t.exact.vtable? = (⟨t.buffer, some t.pos.toNat⟩ : InterfaceSchema.Table).vtable? := by
  unfold exact
  split
  · rename_i hpos
    simp only [InterfaceSchema.Table.vtable?, hpos, int32?_nowhere hb]
  · rfl

/-- A vtable lies at the distance that the word at the table's position says. -/
theorem of_vtable?_eq_some {pos v : Nat}
    (h : (⟨b, some pos⟩ : InterfaceSchema.Table).vtable? = some v) :
    ∃ back, b.int32? pos = some back ∧ (pos : Int) - back.toInt = v := by
  unfold InterfaceSchema.Table.vtable? at h
  dsimp only at h
  split at h
  · cases h
  · rename_i back hback
    split at h
    · rename_i hnonneg
      exact ⟨back, hback, by rw [← Option.some_inj.mp h, Int.toNat_of_nonneg hnonneg]⟩
    · cases h

/-- **The distance of a table fits**, so that its vtable can be looked for. -/
def Fits (t : Table) : Prop := DistanceFits t.buffer t.pos.toNat

/-- **The distance of the table that an offset word leads to fits**, if it leads to one. -/
def FollowFits (b : Buffer) (pos : Nat) : Prop :=
  ∀ target, b.follow? pos = some target → DistanceFits b target

/-- An offset word whose table does not fit leads to one. -/
theorem not_followFits_iff {pos : Nat} :
    ¬ FollowFits b pos ↔ ∃ target, b.follow? pos = some target ∧ ¬ DistanceFits b target := by
  simp only [FollowFits, Classical.not_forall, exists_prop]

/-- **The vtable is found where it is**, and only after the word at the table was read. -/
theorem runs_vtable? (t : Table) (hb : t.buffer.size ≤ maxLength) :
    Runs t.Fits t.vtable? fun o => o.map UInt64.toNat = t.exact.vtable? ∧
      ∀ v ∈ o, v.toNat < 2 ^ 63 ∧ t.pos.toNat + 4 ≤ t.buffer.size := by
  rw [vtable?_exact hb, InterfaceSchema.Table.vtable?, vtable?, int32?_eq hb]
  dsimp only
  cases hword : t.buffer.int32? t.pos.toNat with
  | none => exact .pure ⟨rfl, nofun⟩
  | some back =>
    have hend : t.pos.toNat + 4 ≤ t.buffer.size := le_size_of_int32? hword
    refine (runs_distance hb hword).map fun d hd => ?_
    dsimp only
    rw [← hd]
    by_cases hnonneg : 0 ≤ d.toInt
    · obtain ⟨hexact, hlt⟩ := toNat_toUInt64 hnonneg
      rw [if_pos (zero_le_iff.mpr hnonneg), if_pos hnonneg]
      refine ⟨by rw [Option.map_some, hexact], ?_⟩
      rintro v hv
      cases hv
      exact ⟨hlt, hend⟩
    · rw [if_neg fun h => hnonneg (zero_le_iff.mp h), if_neg hnonneg]
      exact ⟨rfl, nofun⟩

/-- **A table that was bound**: its first word is inside the buffer, and so are the two size words of its
vtable, which does not lie before the start. -/
structure Attached (t : Table) : Prop where
  pos_le : t.pos.toNat + 4 ≤ t.buffer.size
  vtable_le : ∃ back, t.buffer.int32? t.pos.toNat = some back ∧ 0 ≤ (t.pos.toNat : Int) - back.toInt ∧
    (t.pos.toNat : Int) - back.toInt + 4 ≤ t.buffer.size

/-- A word that can be read is no nowhere. -/
theorem exact_of_le {t : Table} (hb : t.buffer.size ≤ maxLength)
    (h : t.pos.toNat + 4 ≤ t.buffer.size) : t.exact = ⟨t.buffer, some t.pos.toNat⟩ := by
  have hne : t.pos ≠ nowhere := by
    intro hpos
    have hnowhere : nowhere.toNat = 2 ^ 64 - 1 := rfl
    unfold maxLength at hb
    rw [hpos] at h
    omega
  rw [exact, if_neg hne]

/-- **A table is bound where it can be**, and then its header and that of its vtable are inside the
buffer. -/
theorem runs_bind? (hb : b.size ≤ maxLength) (pos : UInt64) :
    Runs (DistanceFits b pos.toNat) (bind? b pos) fun o => o.map exact = InterfaceSchema.Table.bind? b pos.toNat ∧
      ∀ t ∈ o, t.buffer = b ∧ t.Attached := by
  have hexact := vtable?_exact (t := ⟨b, pos⟩) hb
  refine Runs.bind (runs_vtable? ⟨b, pos⟩ hb) fun o ⟨ho, hbound⟩ => ?_
  rw [hexact] at ho
  rw [InterfaceSchema.Table.bind?, ← ho]
  cases o with
  | none => exact .pure ⟨rfl, nofun⟩
  | some v =>
    obtain ⟨hv, hpos⟩ := hbound v rfl
    have htwo : (2 : UInt64).toNat = 2 := rfl
    refine (runs_add (by omega)).map fun size hsize => ?_
    rw [uint16?_eq hb, hsize, Option.map_some]
    dsimp only
    cases hword : b.uint16? (v.toNat + 2) with
    | none =>
      rw [htwo, hword]
      exact ⟨rfl, nofun⟩
    | some n =>
      rw [htwo, hword]
      refine ⟨congrArg some (exact_of_le hb hpos), ?_⟩
      rintro t ht
      cases ht
      obtain ⟨back, hback, hdistance⟩ : ∃ back, b.int32? pos.toNat = some back ∧
          (pos.toNat : Int) - back.toInt = v.toNat := of_vtable?_eq_some ho.symm
      have hend : v.toNat + 2 + 2 ≤ b.size := le_size_of_uint16? hword
      refine ⟨rfl, hpos, back, hback, ?_, ?_⟩
      · show 0 ≤ (pos.toNat : Int) - back.toInt
        omega
      · show (pos.toNat : Int) - back.toInt + 4 ≤ b.size
        omega

/-! ## Beyond the reach -/

/-- **A table whose distance does not fit stops the program**, wherever it is to be bound. -/
theorem bind?_eq_error (hb : b.size ≤ maxLength) {pos : UInt64} (h : ¬ DistanceFits b pos.toNat) :
    bind? b pos = .error .distance := by
  obtain ⟨back, hnot⟩ := Classical.not_forall.mp h
  obtain ⟨hback, hgreat⟩ := Classical.not_imp.mp hnot
  have hend := le_size_of_int32? hback
  have hmax : Int64.maxValue.toInt = maxLength := rfl
  have hexact : pos.toInt64.toInt = pos.toNat := toInt_toInt64 (by rw [maxLength] at hb; omega)
  have hdistance : distance pos.toInt64 back.toInt64 = .error .distance := by
    rw [distance, hexact, Int32.toInt_toInt64, if_neg (by omega)]
  have hvtable : (⟨b, pos⟩ : Table).vtable? = .error .distance := by
    rw [vtable?, int32?_eq hb, hback]
    dsimp only
    rw [hdistance]
    rfl
  rw [bind?, hvtable]
  rfl

/-- A buffer of zeros that ends with the least signed word. -/
def lastLow (zeros : Nat) : Buffer := .ofList (List.replicate zeros 0 ++ [0, 0, 0, 0x80])

theorem size_lastLow (zeros : Nat) : (lastLow zeros).size = zeros + 4 := by
  show (List.replicate zeros (0 : UInt8) ++ [0, 0, 0, 0x80]).length = _
  rw [List.length_append, List.length_replicate]
  rfl

theorem int32?_lastLow (zeros : Nat) : (lastLow zeros).int32? zeros = some Int32.minValue := by
  have hdrop : (lastLow zeros).toList.drop zeros = [0, 0, 0, 0x80] := List.drop_left' List.length_replicate
  have hslice := (lastLow zeros).slice?_eq_some (Nat.le_of_eq (size_lastLow zeros).symm)
  rw [Buffer.int32?, Buffer.uint32?, Buffer.word?, hslice, hdrop]
  rfl

/-- The least signed word is too low for the last two gigabytes. -/
theorem not_distanceFits_lastLow {zeros : Nat} (h : 2 ^ 63 - 2 ^ 31 ≤ zeros) :
    ¬ DistanceFits (lastLow zeros) zeros := by
  intro hfits
  have hgreat := hfits Int32.minValue (int32?_lastLow zeros)
  have hmin : Int32.minValue.toInt = -2 ^ 31 := rfl
  unfold maxLength at hgreat
  omega

/-- **The reach is the best bound.** In every length beyond it there is a buffer with a table whose distance
overflows, the one that ends with the least signed word. -/
theorem bind?_faults {n : Nat} (hreach : reach < n) (hn : n ≤ maxLength) :
    ∃ b : Buffer, b.size = n ∧ ∃ pos, bind? b pos = .error .distance := by
  unfold reach at hreach
  have hsize : (lastLow (n - 4)).size = n := by
    rw [size_lastLow]
    omega
  have hpos : (UInt64.ofNat (n - 4)).toNat = n - 4 := by
    rw [UInt64.toNat_ofNat', Nat.mod_eq_of_lt (by unfold maxLength at hn; omega)]
  have hfits : ¬ DistanceFits (lastLow (n - 4)) (n - 4) := not_distanceFits_lastLow (by omega)
  exact ⟨lastLow (n - 4), hsize, .ofNat (n - 4), bind?_eq_error (by rwa [hsize]) (by rwa [hpos])⟩

/-! ## Fields -/

/-- The field of a slot is that of the table at the position, and absent where nothing can be read. -/
theorem field?_exact {t : Table} (hb : t.buffer.size ≤ maxLength) (slot : Nat) :
    t.exact.field? slot = (⟨t.buffer, some t.pos.toNat⟩ : InterfaceSchema.Table).field? slot := by
  have hvtable := vtable?_exact hb
  unfold exact at *
  split
  · rename_i hpos
    rw [if_pos hpos] at hvtable
    simp only [InterfaceSchema.Table.field?, ← hvtable]
    rfl
  · rfl

/-- **A field is found where it is**, and none of the sums on the way is too great. -/
theorem runs_field? (t : Table) (hb : t.buffer.size ≤ maxLength) (slot : UInt16) :
    Runs t.Fits (t.field? slot) fun o => o.map UInt64.toNat = t.exact.field? slot.toNat := by
  -- What is read of the vtable need not be inside: each sum is small because of the word read before it.
  have hexact := vtable?_exact hb
  rw [field?_exact hb]
  refine (runs_vtable? t hb).bind fun o ⟨ho, hbound⟩ => ?_
  rw [hexact] at ho
  rw [InterfaceSchema.Table.field?, ← ho]
  cases o with
  | none => exact .pure rfl
  | some v =>
    obtain ⟨hv, hpos⟩ := hbound v rfl
    rw [Option.map_some]
    dsimp only
    rw [uint16?_eq hb]
    cases hsize : t.buffer.uint16? v.toNat with
    | none => exact .pure rfl
    | some size =>
      have hslot : slot.toUInt64.toNat = slot.toNat := UInt16.toNat_toUInt64 slot
      have hslot' := slot.toNat_lt
      have htwo : (2 : UInt64).toNat = 2 := rfl
      have hfour : (4 : UInt64).toNat = 4 := rfl
      have hend : v.toNat + 2 ≤ t.buffer.size := le_size_of_uint16? hsize
      unfold maxLength at hb
      dsimp only
      refine (runs_mul (by rw [htwo, hslot]; omega)).bind fun product hproduct => ?_
      rw [htwo, hslot] at hproduct
      refine (runs_add (by rw [hfour]; omega)).bind fun entry hentry => ?_
      rw [hfour, hproduct] at hentry
      refine (runs_add (by rw [htwo]; omega)).bind fun last hlast => ?_
      rw [htwo, hentry] at hlast
      simp only [UInt64.lt_iff_toNat_lt, UInt16.toNat_toUInt64, hlast]
      by_cases hpast : size.toNat < 4 + 2 * slot.toNat + 2
      · rw [if_pos hpast]
        exact .pure (by rw [if_pos hpast]; rfl)
      · rw [if_neg hpast]
        refine (runs_add (by omega)).bind fun place hplace => ?_
        rw [hentry] at hplace
        rw [uint16?_eq hb, hplace]
        cases t.buffer.uint16? (v.toNat + (4 + 2 * slot.toNat)) with
        | none => exact .pure (by rw [if_neg hpast]; rfl)
        | some distance =>
          have hdistance : distance.toUInt64.toNat = distance.toNat := UInt16.toNat_toUInt64 distance
          have hdistance' := distance.toNat_lt
          dsimp only
          by_cases hzero : distance = 0
          · rw [if_pos hzero]
            exact .pure (by rw [if_neg hpast, if_pos hzero]; rfl)
          · rw [if_neg hzero]
            refine (runs_add (by rw [hdistance]; omega)).map fun field hfield => ?_
            rw [if_neg hpast, if_neg hzero, Option.map_some, hfield, hdistance]

/-! ## What stands in a field -/

variable {α : Type} {t : Table}

/-- **A number or truth value is read** as the reader of its kind reads it. -/
theorem runs_scalar (hb : t.buffer.size ≤ maxLength) {read : Buffer → UInt64 → Option α}
    {exactRead : Buffer → Nat → Option α}
    (hread : ∀ pos, read t.buffer pos = exactRead t.buffer pos.toNat) (slot : UInt16) (default : α) :
    Runs t.Fits (t.scalar read slot default)
      (· = ((t.exact.field? slot.toNat).bind (exactRead t.buffer)).getD default) := by
  refine (runs_field? t hb slot).map fun o ho => ?_
  rw [← ho]
  cases o with
  | none => rfl
  | some pos => rw [Option.bind_some, hread, Option.map_some, Option.bind_some]

/-- **The offset in a slot is followed**, to a position inside the buffer. -/
theorem runs_target? (hb : t.buffer.size ≤ maxLength) (slot : UInt16) :
    Runs t.Fits (t.target? slot) fun o =>
      o.map UInt64.toNat = (t.exact.field? slot.toNat).bind t.buffer.follow? ∧
        ∀ pos ∈ o, pos.toNat < t.buffer.size := by
  refine (runs_field? t hb slot).map fun o ho => ?_
  rw [← ho]
  cases o with
  | none => exact ⟨rfl, nofun⟩
  | some pos =>
    have hfollow := follow?_eq hb pos
    refine ⟨hfollow, fun target htarget => ?_⟩
    rw [Option.bind_some] at htarget
    rw [htarget, Option.map_some] at hfollow
    exact Buffer.follow?_lt hfollow.symm

/-- **A string is read.** -/
theorem runs_string? (hb : t.buffer.size ≤ maxLength) (slot : UInt16) :
    Runs t.Fits (t.string? slot) (· = t.exact.string? slot.toNat) := by
  refine (runs_target? hb slot).bind fun o ho => ?_
  unfold InterfaceSchema.Table.string?
  show Runs _ _ (· = ((t.exact.field? slot.toNat).bind t.buffer.follow?).bind t.buffer.string?)
  rw [← ho.1]
  cases o with
  | none => exact .pure rfl
  | some pos =>
    dsimp only
    rw [string?_eq hb]
    exact .pure rfl

theorem runs_string (hb : t.buffer.size ≤ maxLength) (slot : UInt16) :
    Runs t.Fits (t.string slot) (· = t.exact.string slot.toNat) :=
  (runs_string? hb slot).map fun o ho => by rw [ho]; rfl

/-- **A table inside a table is bound**, and stands where it is attached. -/
theorem runs_table? (hb : t.buffer.size ≤ maxLength) (slot : UInt16) :
    Runs (t.Fits ∧ ∀ field, t.exact.field? slot.toNat = some field → FollowFits t.buffer field)
      (t.table? slot) fun o => o.map exact = t.exact.table? slot.toNat ∧
        ∀ inner ∈ o, inner.buffer = t.buffer ∧ inner.Attached := by
  refine ((runs_target? hb slot).mono And.left).bind fun o ho => ?_
  unfold InterfaceSchema.Table.table?
  show Runs _ _ fun o : Option Table => o.map exact =
    ((t.exact.field? slot.toNat).bind t.buffer.follow?).bind (InterfaceSchema.Table.bind? t.buffer) ∧ _
  rw [← ho.1]
  cases o with
  | none => exact .pure ⟨rfl, nofun⟩
  | some pos =>
    obtain ⟨field, hfield, htarget⟩ := Option.bind_eq_some_iff.mp ho.1.symm
    exact (runs_bind? hb pos).mono fun hfits => hfits.2 field hfield pos.toNat htarget

/-- A table inside a table whose distance does not fit stops the program. -/
theorem table?_eq_error (hb : t.buffer.size ≤ maxLength) (hfits : t.Fits) {slot : UInt16} {field : Nat}
    (hfield : t.exact.field? slot.toNat = some field) (h : ¬ FollowFits t.buffer field) :
    t.table? slot = .error .distance := by
  obtain ⟨target, hfollow, hdistance⟩ := not_followFits_iff.mp h
  obtain ⟨o, htarget, ho, -⟩ := (runs_target? hb slot).exists_ok hfits
  rw [hfield, Option.bind_some, hfollow] at ho
  obtain ⟨pos, rfl, rfl⟩ := Option.map_eq_some_iff.mp ho
  rw [table?, htarget]
  exact bind?_eq_error hb hdistance

/-! ## Detached tables -/

/-- **A table that stands nowhere**: all its slots are absent, and every call answers its default. -/
structure Detached (t : Table) : Prop where
  pos_eq : t.pos = nowhere
  field? : ∀ slot, t.field? slot = .ok none
  scalar : ∀ {α : Type} (read : Buffer → UInt64 → Option α) slot default,
    t.scalar read slot default = .ok default
  string? : ∀ slot, t.string? slot = .ok none
  string : ∀ slot, t.string slot = .ok ""
  table? : ∀ slot, t.table? slot = .ok none
  vector : ∀ slot, t.vector slot = .ok (.empty t.buffer)

/-- **A detached table reads as all defaults.** -/
theorem detached_detached (hb : b.size ≤ maxLength) : (detached b).Detached := by
  have hfield : ∀ slot, (detached b).field? slot = .ok none := by
    intro slot
    rw [Table.field?, Table.vtable?, detached, int32?_eq hb, int32?_nowhere hb]
    rfl
  have htarget : ∀ slot, (detached b).target? slot = .ok none := by
    intro slot
    rw [Table.target?, hfield]
    rfl
  refine ⟨rfl, hfield, fun read slot default => ?_, fun slot => ?_, fun slot => ?_, fun slot => ?_,
    fun slot => ?_⟩
  · rw [Table.scalar, hfield]
    rfl
  · rw [Table.string?, htarget]
    rfl
  · rw [Table.string, Table.string?, htarget]
    rfl
  · rw [Table.table?, htarget]
    rfl
  · rw [Table.vector, htarget]
    rfl

/-- **What was bound has a distance that fits**, for its vtable is inside the buffer. -/
theorem Attached.fits (hb : t.buffer.size ≤ maxLength) (h : t.Attached) : t.Fits := by
  intro back hback
  obtain ⟨back', hback', -, hend⟩ := h.vtable_le
  cases hback.symm.trans hback'
  omega

/-- A table that stands nowhere has no distance. -/
theorem Detached.fits (hb : t.buffer.size ≤ maxLength) (h : t.Detached) : t.Fits := by
  intro back hback
  rw [h.pos_eq, int32?_nowhere hb] at hback
  cases hback

/-- The detached table is that of natural numbers. -/
theorem exact_detached (b : Buffer) : (detached b).exact = .detached b := by
  rw [exact, detached, if_pos rfl]
  rfl

/-- **Following an offset word leads to a table**, attached or detached. -/
theorem runs_follow (hb : b.size ≤ maxLength) (pos : UInt64) :
    Runs (FollowFits b pos.toNat) (follow b pos) fun t =>
      t.exact = InterfaceSchema.Table.follow b pos.toNat ∧ t.buffer = b ∧ (t.Attached ∨ t.Detached) := by
  have hfollow := follow?_eq hb pos
  unfold FollowFits
  rw [follow, InterfaceSchema.Table.follow, ← hfollow]
  cases follow? b pos with
  | none => exact .pure ⟨exact_detached b, rfl, .inr (detached_detached hb)⟩
  | some target =>
    refine ((runs_bind? hb target).mono fun hfits => hfits target.toNat rfl).map fun o ho => ?_
    rw [Option.map_some]
    dsimp only
    rw [← ho.1]
    cases o with
    | none => exact ⟨exact_detached b, rfl, .inr (detached_detached hb)⟩
    | some t => exact ⟨rfl, (ho.2 t rfl).1, .inl (ho.2 t rfl).2⟩

/-- An offset word that leads to a table whose distance does not fit stops the program. -/
theorem follow_eq_error (hb : b.size ≤ maxLength) {pos : UInt64} (h : ¬ FollowFits b pos.toNat) :
    follow b pos = .error .distance := by
  obtain ⟨target, hfollow, hdistance⟩ := not_followFits_iff.mp h
  obtain ⟨word, hword, rfl⟩ := Option.map_eq_some_iff.mp ((follow?_eq hb pos).trans hfollow)
  rw [follow, hword]
  dsimp only
  rw [bind?_eq_error hb hdistance]
  rfl

end Table

/-- **Following an offset word leads to a string**, perhaps the empty one. -/
theorem followString_eq (hb : b.size ≤ maxLength) (pos : UInt64) :
    followString b pos = .ok (InterfaceSchema.Table.followString b pos.toNat) := by
  have hfollow := follow?_eq hb pos
  rw [followString, InterfaceSchema.Table.followString, ← hfollow]
  cases follow? b pos with
  | none => rfl
  | some target =>
    dsimp only
    rw [string?_eq hb]
    rfl

end InterfaceSchema.Machine
