import InterfaceSchema.Proofs.Machine.Declarations

/-!
# No bytes stop the reader

Calls on a buffer can be chained: a table hands out tables and vectors, a vector its elements and a walk,
and a walk more elements, of which some are tables again. Where the chain starts is free – at the root, or at
any word at all, inside the buffer or not – and so is every slot and index on the way. `Reached` are the views
that such chains lead to.

What makes every call on them safe is one invariant, `View.Inside`: a table is attached or reads as all
defaults, a vector ends inside the buffer, a walk has not passed the end of its vector. **Every call preserves
it** (`View.Inside.table?` and the lemmas after it), so it holds of all views that are reached
(`Reached.inside`). And on every view that has it each call runs (`View.Inside.safe`).

There is no induction on the buffer and none on the depth of its tables, since a view is a place and not what
is found there: a chain may go round in a circle for as long as it likes.

**One operation asks for more.** To bind a table its distance is subtracted, and in a buffer whose length is
within two gigabytes of the greatest signed word that difference may be too great (`Table.bind?_faults`). A call
that binds no table never stops, and one that binds a table stops just where the distance of that table does not
fit. No distance that a compile takes is so great, whatever the length.
-/

namespace InterfaceSchema.Machine

variable {b : Buffer}

/-! ## Views -/

/-- **What calls on a buffer hand out.** -/
inductive View where
  | table (t : Table)
  | vector (v : Vector)
  | cursor (c : Cursor)

/-- **The views that a chain of calls leads to.** Calls that stop the program lead nowhere. -/
inductive Reached (b : Buffer) : View → Prop where
  /-- The root table. -/
  | opened {t : Table} (h : rootTable b = .ok (.ok t)) : Reached b (.table t)
  /-- A table bound at any word. -/
  | bound {pos : UInt64} {t : Table} (h : Table.bind? b pos = .ok (some t)) : Reached b (.table t)
  /-- A table followed to from any word. -/
  | followed {pos : UInt64} {t : Table} (h : Table.follow b pos = .ok t) : Reached b (.table t)
  /-- A table in a slot. -/
  | table {t inner : Table} {slot : UInt16} (ht : Reached b (.table t))
      (h : t.table? slot = .ok (some inner)) : Reached b (.table inner)
  /-- A vector in a slot. -/
  | vector {t : Table} {v : Vector} {slot : UInt16} (ht : Reached b (.table t))
      (h : t.vector slot = .ok v) : Reached b (.vector v)
  /-- A table in a vector. -/
  | element {v : Vector} {t : Table} {i : UInt64} (hv : Reached b (.vector v))
      (h : v.get Table.follow i = .ok t) : Reached b (.table t)
  /-- A walk over a vector. -/
  | cursor {v : Vector} (hv : Reached b (.vector v)) : Reached b (.cursor v.cursor)
  /-- A table that a walk comes by. -/
  | item {c rest : Cursor} {t : Table} (hc : Reached b (.cursor c))
      (h : c.step Table.follow = .ok (some t, rest)) : Reached b (.table t)
  /-- The walk after a step over tables. -/
  | tables {c rest : Cursor} {item : Option Table} (hc : Reached b (.cursor c))
      (h : c.step Table.follow = .ok (item, rest)) : Reached b (.cursor rest)
  /-- The walk after a step over strings. -/
  | strings {c rest : Cursor} {item : Option String} (hc : Reached b (.cursor c))
      (h : c.step followString = .ok (item, rest)) : Reached b (.cursor rest)

/-! ## The invariant -/

/-- **A view inside a buffer.** -/
def View.Inside (b : Buffer) : View → Prop
  | table t => t.buffer = b ∧ (t.Attached ∨ t.Detached)
  | vector v => v.buffer = b ∧ v.Inside
  | cursor c => c.vector.buffer = b ∧ c.Inside

namespace View.Inside

variable {t inner : Table} {v : Vector} {c rest : Cursor}

/-- A table in a slot is inside. -/
theorem table? (hb : b.size ≤ maxLength) (ht : (View.table t).Inside b) {slot : UInt16}
    (h : t.table? slot = .ok (some inner)) : (View.table inner).Inside b := by
  obtain ⟨rfl, -⟩ := ht
  obtain ⟨hbuffer, hattached⟩ := ((Table.runs_table? hb slot).of_eq_ok h).2 inner rfl
  exact ⟨hbuffer, .inl hattached⟩

/-- A vector in a slot is inside. -/
theorem vector (hb : b.size ≤ maxLength) (ht : (View.table t).Inside b) {slot : UInt16}
    (h : t.vector slot = .ok v) : (View.vector v).Inside b := by
  obtain ⟨rfl, -⟩ := ht
  exact ((Table.runs_vector hb slot).of_eq_ok h).2

/-- A table in a vector is inside. An index past the end leads to none. -/
theorem get (hb : b.size ≤ maxLength) (hv : (View.vector v).Inside b) {i : UInt64}
    (h : v.get Table.follow i = .ok t) : (View.table t).Inside b := by
  by_cases hi : i < v.length
  · exact ((Vector.runs_get hb (decodes_follow hb) hv.1 hv.2 hi).of_eq_ok h).2
  · rw [Vector.get, if_neg hi] at h
    cases h

/-- The table that a step comes by is inside. -/
theorem item (hb : b.size ≤ maxLength) (hc : (View.cursor c).Inside b)
    (h : c.step Table.follow = .ok (some t, rest)) : (View.table t).Inside b :=
  ((Cursor.runs_step hb (decodes_follow hb) hc.1 hc.2).of_eq_ok h).2.1 t rfl

/-- The walk after a step is inside, whatever is decoded. -/
theorem step {α β : Type} {fits : Nat → Prop} {decode : Buffer → UInt64 → Checked α} {exact' : α → β}
    {exactDecode : Buffer → Nat → β} {P : α → Prop} (hb : b.size ≤ maxLength)
    (hdecode : Decodes b fits decode exact' exactDecode P) (hc : (View.cursor c).Inside b) {item : Option α}
    (h : c.step decode = .ok (item, rest)) : (View.cursor rest).Inside b := by
  obtain ⟨-, -, hvector, hinside⟩ := (Cursor.runs_step hb hdecode hc.1 hc.2).of_eq_ok h
  exact ⟨(congrArg Vector.buffer hvector).trans hc.1, hinside⟩

end View.Inside

/-- **Every view that is reached is inside the buffer**, by induction on the chain of calls. -/
theorem Reached.inside (hb : b.size ≤ maxLength) {view : View} (h : Reached b view) : view.Inside b := by
  induction h with
  | opened h =>
    obtain ⟨hbuffer, hattached⟩ := ((runs_rootTable hb).of_eq_ok h).2 _ rfl
    exact ⟨hbuffer, .inl hattached⟩
  | bound h =>
    obtain ⟨hbuffer, hattached⟩ := ((Table.runs_bind? hb _).of_eq_ok h).2 _ rfl
    exact ⟨hbuffer, .inl hattached⟩
  | followed h => exact ((Table.runs_follow hb _).of_eq_ok h).2
  | table _ h ih => exact ih.table? hb h
  | vector _ h ih => exact ih.vector hb h
  | element _ h ih => exact ih.get hb h
  | cursor _ ih => exact ⟨ih.1, Cursor.inside_cursor ih.2⟩
  | item _ h ih => exact ih.item hb h
  | tables _ h ih => exact ih.step hb (decodes_follow hb) h
  | strings _ h ih => exact ih.step hb (decodes_followString hb) h

/-! ## The calls -/

/-- **Every call on a table runs**, with any slot, and answers what is there. One that binds another table runs
when the distance of that one fits, and otherwise stops the program. -/
structure Table.Safe (t : Table) : Prop where
  field? : ∀ slot, ∃ o, t.field? slot = .ok o ∧ o.map UInt64.toNat = t.exact.field? slot.toNat
  bool : ∀ slot default, t.scalar bool? slot default = .ok (t.exact.bool slot.toNat default)
  int8 : ∀ slot default, t.scalar int8? slot default = .ok (t.exact.int8 slot.toNat default)
  uint16 : ∀ slot default, t.scalar uint16? slot default = .ok (t.exact.uint16 slot.toNat default)
  int32 : ∀ slot default, t.scalar int32? slot default = .ok (t.exact.int32 slot.toNat default)
  int64 : ∀ slot default, t.scalar int64? slot default = .ok (t.exact.int64 slot.toNat default)
  real : ∀ slot default, t.scalar real? slot default = .ok (t.exact.real slot.toNat default)
  string? : ∀ slot, t.string? slot = .ok (t.exact.string? slot.toNat)
  string : ∀ slot, t.string slot = .ok (t.exact.string slot.toNat)
  vector : ∀ slot, ∃ v, t.vector slot = .ok v ∧ v.exact = t.exact.vector slot.toNat
  table? : ∀ slot, (∀ field, t.exact.field? slot.toNat = some field → FollowFits t.buffer field) →
    ∃ o, t.table? slot = .ok o ∧ o.map exact = t.exact.table? slot.toNat
  faults : ∀ slot field, t.exact.field? slot.toNat = some field → ¬ FollowFits t.buffer field →
    t.table? slot = .error .distance

/-- **Every element of a vector is read** from its offset word, a string always, a table when its distance
fits, and otherwise the program stops. -/
structure Vector.Safe (v : Vector) : Prop where
  string : ∀ i < v.length, ∃ s, v.get followString i = .ok s ∧
    v.exact.get InterfaceSchema.Table.followString i.toNat = .ok s
  table : ∀ i < v.length, Table.FollowFits v.buffer (v.exact.wordPos i.toNat) →
    ∃ t, v.get Table.follow i = .ok t ∧ v.exact.get InterfaceSchema.Table.follow i.toNat = .ok t.exact
  faults : ∀ i < v.length, ¬ Table.FollowFits v.buffer (v.exact.wordPos i.toNat) →
    v.get Table.follow i = .error .distance

/-- **A walk goes on for any number of steps.** It answers the elements from the next one on in order, with
what is still to come before each, and after the last one nothing. Over documentation it answers the lines
trimmed. Over tables it goes on while the distances of those that it comes by fit. -/
structure Cursor.Safe (c : Cursor) : Prop where
  strings : ∀ steps, ∃ rows, c.walk followString steps = .ok rows ∧
    (rows.map fun row => (row.1.toNat, row.2)) =
      c.vector.exact.answers InterfaceSchema.Table.followString c.next.toNat steps
  lines : ∀ steps, c.lines steps =
    .ok ((c.vector.exact.answers InterfaceSchema.Table.followString c.next.toNat steps).map
      fun row => row.2.map trim)
  tables : ∀ steps, c.Fits (Table.FollowFits c.vector.buffer) steps →
    ∃ rows, c.walk Table.follow steps = .ok rows ∧
      (rows.map fun row => (row.1.toNat, row.2.map Table.exact)) =
        c.vector.exact.answers InterfaceSchema.Table.follow c.next.toNat steps
  faults : c.next < c.vector.length →
    ¬ Table.FollowFits c.vector.buffer (c.vector.exact.wordPos c.next.toNat) →
      c.step Table.follow = .error .distance

/-- **Every call on a view runs.** -/
def View.Safe : View → Prop
  | table t => t.Safe
  | vector v => v.Safe
  | cursor c => c.Safe

/-- A call on a table asks that the distance of the table itself fits, and no more unless it binds another. -/
theorem Table.safe {t : Table} (hb : t.buffer.size ≤ maxLength) (hfits : t.Fits) : t.Safe where
  field? slot := (runs_field? t hb slot).exists_ok hfits
  bool slot default := (runs_scalar hb bool?_eq slot default).eq_ok hfits
  int8 slot default := (runs_scalar hb int8?_eq slot default).eq_ok hfits
  uint16 slot default := (runs_scalar hb (uint16?_eq hb) slot default).eq_ok hfits
  int32 slot default := (runs_scalar hb (int32?_eq hb) slot default).eq_ok hfits
  int64 slot default := (runs_scalar hb (int64?_eq hb) slot default).eq_ok hfits
  real slot default := (runs_scalar hb (real?_eq hb) slot default).eq_ok hfits
  string? slot := (runs_string? hb slot).eq_ok hfits
  string slot := (runs_string hb slot).eq_ok hfits
  vector slot := ((runs_vector hb slot).imp fun _ h => h.1).exists_ok hfits
  table? slot hinner := ((runs_table? hb slot).imp fun _ h => h.1).exists_ok ⟨hfits, hinner⟩
  faults _ _ hfield hnot := table?_eq_error hb hfits hfield hnot

/-- An element is read because its offset word is inside the buffer. -/
theorem Vector.safe {v : Vector} (hb : v.buffer.size ≤ maxLength) (hv : v.Inside) : v.Safe where
  string _ hi := by
    obtain ⟨s, hok, hget, -⟩ := (runs_get hb (decodes_followString hb) rfl hv hi).exists_ok trivial
    exact ⟨s, hok, hget.symm⟩
  table _ hi hfits := by
    obtain ⟨t, hok, hget, -⟩ := (runs_get hb (decodes_follow hb) rfl hv hi).exists_ok hfits
    exact ⟨t, hok, hget.symm⟩
  faults _ hi hnot := get_follow_eq_error hb hv hi hnot

/-- A walk goes on because it never passes the end. -/
theorem Cursor.safe {c : Cursor} (hb : c.vector.buffer.size ≤ maxLength) (hc : c.Inside) : c.Safe where
  strings steps := by
    obtain ⟨rows, hok, hrows, -⟩ :=
      (runs_walk hb (decodes_followString hb) steps rfl hc).exists_ok fun _ _ _ _ => trivial
    simp only [Option.map_id, id] at hrows
    exact ⟨rows, hok, hrows⟩
  lines steps := (runs_lines hb steps rfl hc).eq_ok trivial
  tables steps hfits :=
    ((runs_walk hb (decodes_follow hb) steps rfl hc).imp fun _ h => h.1).exists_ok hfits
  faults hlt hnot := step_eq_error hlt (Vector.get_follow_eq_error hb hc.vector hlt hnot)

/-- **Every call on a view inside the buffer runs.** The distance of a table that is attached fits, for its
vtable is inside the buffer, and a table that is detached has none. -/
theorem View.Inside.safe (hb : b.size ≤ maxLength) {view : View} (h : view.Inside b) : view.Safe := by
  cases view with
  | table t =>
    obtain ⟨rfl, hattached | hdetached⟩ := h
    · exact Table.safe hb (hattached.fits hb)
    · exact Table.safe hb (hdetached.fits hb)
  | vector v =>
    obtain ⟨rfl, hv⟩ := h
    exact Vector.safe hb hv
  | cursor c =>
    obtain ⟨rfl, hc⟩ := h
    exact Cursor.safe hb hc

/-! ## The whole buffer -/

/-- **What is safe to do with a buffer**: to open it and to compile it, to start a chain of calls at any word,
and to make any call on what is reached, which is inside the buffer. -/
structure Safe (b : Buffer) : Prop where
  opened : ∃ r, rootTable b = .ok r ∧ r.map Table.exact = InterfaceSchema.rootTable b
  compiled : ∀ source, compile b source = .ok (InterfaceSchema.compile b source)
  inside : ∀ view, Reached b view → view.Inside b
  calls : ∀ view, Reached b view → view.Safe
  string? : ∀ pos, string? b pos = .ok (b.string? pos.toNat)
  followedString : ∀ pos, followString b pos = .ok (InterfaceSchema.Table.followString b pos.toNat)
  /-- A table is bound at any word where its distance fits, … -/
  bound : ∀ pos : UInt64, DistanceFits b pos.toNat →
    ∃ o, Table.bind? b pos = .ok o ∧ o.map Table.exact = InterfaceSchema.Table.bind? b pos.toNat
  followed : ∀ pos : UInt64, Table.FollowFits b pos.toNat →
    ∃ t, Table.follow b pos = .ok t ∧ t.exact = InterfaceSchema.Table.follow b pos.toNat
  /-- … and stops the program where it does not, … -/
  boundFaults : ∀ pos : UInt64, ¬ DistanceFits b pos.toNat → Table.bind? b pos = .error .distance
  followedFaults : ∀ pos : UInt64, ¬ Table.FollowFits b pos.toNat → Table.follow b pos = .error .distance
  /-- … which is nowhere in a buffer that ends within the reach of distances. -/
  fits : b.size ≤ reach → ∀ pos, DistanceFits b pos ∧ Table.FollowFits b pos

/-- **No bytes stop the reader or the compile.** Whatever is in a buffer – cycles, overlaps, offsets and
lengths that lead past its end – it is opened and compiled, every chain of calls on it leads to views inside it,
and each call answers what the reader of natural numbers answers. Up to the length `reach`, two gigabytes short
of the greatest signed word, there is no exception; above it there is one, for a table whose distance is no
signed word. -/
theorem safe_of_size_le (hb : b.size ≤ maxLength) : Safe b where
  opened := ((runs_rootTable hb).imp fun _ h => h.1).exists_ok trivial
  compiled := compile_eq hb
  inside _ h := h.inside hb
  calls _ h := (h.inside hb).safe hb
  string? := string?_eq hb
  followedString := followString_eq hb
  bound pos hfits := ((Table.runs_bind? hb pos).imp fun _ h => h.1).exists_ok hfits
  followed pos hfits := ((Table.runs_follow hb pos).imp fun _ h => h.1).exists_ok hfits
  boundFaults _ hnot := Table.bind?_eq_error hb hnot
  followedFaults _ hnot := Table.follow_eq_error hb hnot
  fits hreach pos :=
    ⟨distanceFits_of_size_le hreach pos, fun target _ => distanceFits_of_size_le hreach target⟩

/-- A schema whose vtable overlaps its only field and whose vector of objects declares more elements than
any buffer has. The one it holds is an offset to itself, read as a table that is its own vtable. -/
def selfReferencing : Buffer :=
  .ofList [0x08, 0, 0, 0, 0x42, 0x46, 0x42, 0x53, 0xFC, 0xFF, 0xFF, 0xFF, 0x06, 0, 0, 0, 0x08, 0, 0, 0,
    0, 0, 0, 0, 0xFF, 0xFF, 0xFF, 0xFF, 0, 0, 0, 0]

theorem safe_selfReferencing : selfReferencing.size ≤ maxLength ∧ Safe selfReferencing :=
  ⟨by decide, safe_of_size_le (by decide)⟩

/-- A schema of one object, whose one line of documentation has a space on either side. -/
def indented : Buffer :=
  .ofList [0x10, 0, 0, 0, 0x42, 0x46, 0x42, 0x53, 0x08, 0, 0x0C, 0, 0x04, 0, 0x08, 0, 0x08, 0, 0, 0,
    0x08, 0, 0, 0, 0x4A, 0, 0, 0, 0x01, 0, 0, 0, 0x16, 0, 0, 0, 0x12, 0, 0x10, 0, 0x04, 0, 0x08, 0, 0,
    0, 0, 0, 0, 0, 0, 0, 0x0C, 0, 0x12, 0, 0, 0, 0x0C, 0, 0, 0, 0x10, 0, 0, 0, 0x10, 0, 0, 0, 0x03, 0,
    0, 0, 0x42, 0x6F, 0x78, 0, 0, 0, 0, 0, 0x01, 0, 0, 0, 0x04, 0, 0, 0, 0x03, 0, 0, 0, 0x20, 0x61,
    0x20, 0, 0, 0, 0, 0]

/-- **Not every call runs, and not every walk answers what its vector holds.** In a buffer beyond the reach of
distances a table cannot be bound without stopping the program. And a walk over documentation answers the lines
trimmed, where the vector has them as they stand. -/
theorem lastLow_faults_and_indented_trims :
    (Table.lastLow (2 ^ 63 - 2 ^ 31)).size ≤ maxLength ∧
      Table.bind? (Table.lastLow (2 ^ 63 - 2 ^ 31)) (.ofNat (2 ^ 63 - 2 ^ 31)) = .error .distance ∧
      ∃ v, Reached indented (.vector v) ∧ v.length = 1 ∧ v.get followString 0 = .ok " a " ∧
        v.cursor.lines 2 = .ok [some "a", none] := by
  have hsize : (Table.lastLow (2 ^ 63 - 2 ^ 31)).size ≤ maxLength := by
    rw [Table.size_lastLow, maxLength]
    omega
  have hnot : ¬ DistanceFits (Table.lastLow (2 ^ 63 - 2 ^ 31)) (UInt64.ofNat (2 ^ 63 - 2 ^ 31)).toNat :=
    Table.not_distanceFits_lastLow (Nat.le_refl _)
  have hroot : rootTable indented = .ok (.ok ⟨indented, 16⟩) := by decide +kernel
  have hobjects : Table.vector ⟨indented, 16⟩ 0 = .ok ⟨indented, 32, 1⟩ := by decide +kernel
  have hobject : Vector.get ⟨indented, 32, 1⟩ Table.follow 0 = .ok ⟨indented, 54⟩ := by decide +kernel
  have hdocs : Table.vector ⟨indented, 54⟩ 6 = .ok ⟨indented, 86, 1⟩ := by decide +kernel
  exact ⟨hsize, Table.bind?_eq_error hsize hnot, ⟨indented, 86, 1⟩,
    .vector (.element (.vector (.opened hroot) hobjects) hobject) hdocs, rfl, by decide +kernel,
    by decide +kernel⟩

end InterfaceSchema.Machine
