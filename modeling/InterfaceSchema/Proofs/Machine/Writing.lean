import InterfaceSchema.Machine.Writer
import InterfaceSchema.Proofs.Bytes.Edits
import InterfaceSchema.Proofs.Machine.Agreement

/-!
# What was written is read

A buffer is written by a sequence of steps, appends and patches in any order, and afterwards read at any
word. Two facts about one step carry the whole: what a step writes stands where it puts it
(`holds_edit`), and a stretch that a step spares goes on standing (`holds_of_spares`). Along a sequence the
second is an induction (`holds_run`), and so whatever was written last at a position is what is read there,
by the reader of its kind.

**A step is stopped before it changes anything.** The end of a patch is a sum of words, which fails exactly
where the sum is past the end of all words, and so past the end of every buffer: whether the sum or the bound
stops a patch, it is stopped just when its stretch crosses the end, counted in whole numbers. So a sequence of
steps does what it does on numbers (`run?_exact`).

Reads are stopped by nothing. One that crosses the end reads nothing, wherever it starts (`Ends`).
-/

namespace InterfaceSchema

/-- **A datum that can be read back**: the length of a string fits the word that stores it. -/
def Datum.Storable : Datum → Prop
  | .string text => (Utf8.encode text).length < 2 ^ 32
  | _ => True

namespace Machine

variable {w w' : Writer} {b : Buffer} {e : Edit} {edits : List Edit}

/-! ## Patches -/

/-- A patch takes the bytes of its word. -/
theorem PatchWord.toNat_width (word : PatchWord) : word.width.toNat = word.datum.width := by
  cases word with
  | uint16 value => exact (LittleEndian.length_encode 2 _).symm
  | int32 value => exact (LittleEndian.length_encode 4 _).symm
  | uint32 value => exact (LittleEndian.length_encode 4 _).symm

/-- **A patch whose stretch is inside is made.** -/
theorem patch_of_le (hw : w.size ≤ maxLength) {pos : UInt64} {word : PatchWord}
    (h : pos.toNat + word.datum.width ≤ w.size) :
    ∃ patched, patch w pos word = .ok patched ∧ w.patch? pos.toNat word.datum.bytes = some patched := by
  have hwidth := word.toNat_width
  unfold maxLength at hw
  obtain ⟨hadd, hlast⟩ := add_of_lt (show pos.toNat + word.width.toNat < 2 ^ 64 by omega)
  rw [hwidth] at hlast
  rw [patch, hadd]
  show ∃ patched, (if (pos + word.width).toNat ≤ w.size then _ else _) = Except.ok patched ∧ _
  rw [if_pos (by omega), hlast]
  exact ⟨_, rfl, if_pos h⟩

/-- **A patch whose stretch crosses the end is stopped.** -/
theorem patch_of_lt {pos : UInt64} {word : PatchWord} (h : w.size < pos.toNat + word.datum.width) :
    ∃ fault, patch w pos word = .error fault := by
  have hwidth := word.toNat_width
  rw [patch]
  by_cases hsum : pos.toNat + word.width.toNat < 2 ^ 64
  · obtain ⟨hadd, hlast⟩ := add_of_lt hsum
    rw [hadd]
    show ∃ fault, (if (pos + word.width).toNat ≤ w.size then _ else _) = Except.error fault
    rw [if_neg (by omega)]
    exact ⟨_, rfl⟩
  · rw [add, if_neg hsum]
    exact ⟨_, rfl⟩

/-- **A patch is made just when it is on numbers**, and does the same. -/
theorem toOption_patch (hw : w.size ≤ maxLength) (pos : UInt64) (word : PatchWord) :
    (patch w pos word).toOption = w.patch? pos.toNat word.datum.bytes := by
  rcases Nat.lt_or_ge w.size (pos.toNat + word.datum.width) with hlt | hle
  · obtain ⟨fault, hfault⟩ := patch_of_lt hlt
    rw [hfault, Writer.patch?_eq_none_iff.mpr hlt]
    rfl
  · obtain ⟨patched, hpatched, hpatch⟩ := patch_of_le hw hle
    rw [hpatched, hpatch]
    rfl

/-- A patch that is made is one that is not refused. -/
theorem patch?_of_patch (hw : w.size ≤ maxLength) {pos : UInt64} {word : PatchWord}
    (h : patch w pos word = .ok w') : w.patch? pos.toNat word.datum.bytes = some w' := by
  rw [← toOption_patch hw, h]
  rfl

/-! ## One step -/

/-- **A step is made just when it is on numbers**, and does the same. -/
theorem toOption_edit (hw : w.size ≤ maxLength) (e : Edit) : (edit w e).toOption = w.edit? e.exact := by
  cases e with
  | append datum => rfl
  | patch pos word => exact toOption_patch hw pos word

/-- A step adds what it appends. -/
theorem size_edit (hw : w.size ≤ maxLength) (h : edit w e = .ok w') : w'.size = w.size + e.added := by
  cases e with
  | append datum =>
    cases h
    exact Writer.size_append w datum.bytes
  | patch pos word => exact Writer.size_patch? (patch?_of_patch hw h)

/-- **What a step writes stands where it puts it.** -/
theorem holds_edit (hw : w.size ≤ maxLength) (h : edit w e = .ok w') :
    w'.buffer.Holds (e.pos w).toNat e.datum.bytes := by
  cases e with
  | append datum =>
    cases h
    unfold maxLength at hw
    have hpos : (UInt64.ofNat w.size).toNat = w.size := by
      rw [UInt64.toNat_ofNat', Nat.mod_eq_of_lt (by omega)]
    rw [Edit.pos, hpos]
    exact Writer.holds_append w datum.bytes
  | patch pos word => exact Writer.holds_patch? (patch?_of_patch hw h)

/-- **A stretch that a step spares goes on standing.** -/
theorem holds_of_spares (hw : w.size ≤ maxLength) (h : edit w e = .ok w') {pos : Nat} {bytes : List UInt8}
    (hholds : w.buffer.Holds pos bytes) (hspares : e.Spares pos bytes.length) :
    w'.buffer.Holds pos bytes := by
  cases e with
  | append datum =>
    cases h
    exact hholds.append datum.bytes
  | patch pos' word => exact hholds.patch? (patch?_of_patch hw h) hspares

/-! ## Sequences of steps -/

/-- A sequence goes on where its first part ended. -/
theorem run_append {before after : List Edit} (h : run w before = (w', none)) :
    run w (before ++ after) = run w' after := by
  induction before generalizing w with
  | nil =>
    cases h
    rfl
  | cons e before ih =>
    rw [run] at h
    rw [List.cons_append, run]
    split at h
    · exact ih h
    · cases h

/-- Steps taken one after the other, the first of which is made. -/
theorem run_cons (h : edit w e = .ok w') (rest : List Edit) : run w (e :: rest) = run w' rest := by
  rw [run, h]

/-- **No sequence writes more than it appends.** -/
theorem size_run_le (hroom : w.size + added edits ≤ maxLength) :
    (run w edits).1.size ≤ w.size + added edits := by
  induction edits generalizing w with
  | nil => exact Nat.le_refl _
  | cons e rest ih =>
    have hadded : added (e :: rest) = e.added + added rest := rfl
    rw [run]
    split
    · rename_i next hnext
      have hsize := size_edit (by omega) hnext
      have hrest := ih (w := next) (by omega)
      omega
    · exact Nat.le_add_right _ _

/-- **A sequence of steps is a sequence on numbers**, refused just when it is stopped. -/
theorem run?_exact (hroom : w.size + added edits ≤ maxLength) :
    w.run? (edits.map Edit.exact) = if (run w edits).2 = none then some (run w edits).1 else none := by
  induction edits generalizing w with
  | nil => rfl
  | cons e rest ih =>
    have hadded : added (e :: rest) = e.added + added rest := rfl
    have hedit := toOption_edit (show w.size ≤ maxLength by omega) e
    rw [List.map_cons, Writer.run?, List.foldlM_cons, ← hedit, run]
    cases hnext : edit w e with
    | error fault => rfl
    | ok next =>
      have hsize := size_edit (by omega) hnext
      exact ih (by omega)

/-- **A stretch that all steps spare goes on standing** along a sequence, also if that is stopped. -/
theorem holds_run (hroom : w.size + added edits ≤ maxLength) {pos : Nat} {bytes : List UInt8}
    (hholds : w.buffer.Holds pos bytes) (hspares : ∀ e ∈ edits, e.Spares pos bytes.length) :
    (run w edits).1.buffer.Holds pos bytes := by
  induction edits generalizing w with
  | nil => exact hholds
  | cons e rest ih =>
    have hadded : added (e :: rest) = e.added + added rest := rfl
    rw [run]
    split
    · rename_i next hnext
      have hsize := size_edit (by omega) hnext
      refine ih (by omega) ?_ fun e' he' => hspares e' (List.mem_cons_of_mem e he')
      exact holds_of_spares (by omega) hnext hholds (hspares e List.mem_cons_self)
    · exact hholds

/-! ## Reading -/

/-- **What stands at a position is read there**, by the reader of its kind. -/
theorem readAt_of_holds (hb : b.size ≤ maxLength) {pos : UInt64} {d : Datum} (hd : d.Storable)
    (h : b.Holds pos.toNat d.bytes) : ReadAt b pos d := by
  cases d with
  | bool value => exact (bool?_eq pos).trans h.bool?
  | int8 value => exact (int8?_eq pos).trans h.int8?
  | uint8 value => exact (uint8?_eq pos).trans h.uint8?
  | uint16 value => exact (uint16?_eq hb pos).trans h.uint16?
  | int32 value => exact (int32?_eq hb pos).trans h.int32?
  | uint32 value => exact (uint32?_eq hb pos).trans h.uint32?
  | int64 value => exact (int64?_eq hb pos).trans h.int64?
  | real bits => exact (real?_eq hb pos).trans h.real?
  | raw bytes =>
    have hend := h.add_length_le
    unfold maxLength at hb
    have hlength : (UInt64.ofNat bytes.length).toNat = bytes.length := by
      rw [UInt64.toNat_ofNat', Nat.mod_eq_of_lt (by rw [Datum.bytes] at hend; omega)]
    rw [ReadAt, slice?_eq hb, hlength]
    exact h.slice?
  | string text =>
    rw [ReadAt, string?_eq hb, h.string? hd]

/-- **A buffer ends**: a read that would cross the end reads nothing, wherever it starts. -/
structure Ends (b : Buffer) : Prop where
  slice? : ∀ pos length, b.size < pos.toNat + length.toNat → slice? b pos length = none
  one : ∀ pos, b.size < pos.toNat + 1 → uint8? b pos = none ∧ int8? b pos = none ∧ bool? b pos = none
  two : ∀ pos, b.size < pos.toNat + 2 → uint16? b pos = none
  four : ∀ pos, b.size < pos.toNat + 4 →
    uint32? b pos = none ∧ int32? b pos = none ∧ follow? b pos = none ∧ string? b pos = .ok none
  eight : ∀ pos, b.size < pos.toNat + 8 → int64? b pos = none ∧ real? b pos = none
  string? : ∀ pos length, uint32? b pos = some length → b.size < pos.toNat + 4 + length.toNat →
    string? b pos = .ok none

/-- **Every buffer ends.** A position near the greatest word is past the end as any other. -/
theorem ends (hb : b.size ≤ maxLength) : Ends b where
  slice? pos length h := by rw [slice?_eq hb, b.slice?_eq_none h]
  one pos h := by
    rw [uint8?_eq, int8?_eq, bool?_eq, Buffer.int8?, Buffer.bool?, Buffer.uint8?, Buffer.word?,
      b.slice?_eq_none h]
    exact ⟨rfl, rfl, rfl⟩
  two pos h := by
    rw [uint16?_eq hb, Buffer.uint16?, Buffer.word?, b.slice?_eq_none h]
    rfl
  four pos h := by
    have hword : uint32? b pos = none := by
      rw [uint32?_eq hb, Buffer.uint32?, Buffer.word?, b.slice?_eq_none h]
      rfl
    rw [int32?, follow?, string?, hword]
    exact ⟨rfl, rfl, rfl, rfl⟩
  eight pos h := by
    rw [int64?_eq hb, real?_eq hb, Buffer.int64?, Buffer.real?, Buffer.word?, b.slice?_eq_none h]
    exact ⟨rfl, rfl⟩
  string? pos length hlength h := by
    rw [uint32?_eq hb, Buffer.uint32?, Option.map_eq_some_iff] at hlength
    obtain ⟨n, hn, rfl⟩ := hlength
    have hlt : n < 2 ^ 32 := lt_of_word? hn
    rw [UInt32.toNat_ofNat', Nat.mod_eq_of_lt hlt] at h
    rw [string?_eq hb, Buffer.string?, hn]
    dsimp only
    rw [b.slice?_eq_none h]
    rfl

/-! ## The whole -/

/-- **What holds of a sequence of steps** on a writer, taken up to the first that is stopped. -/
structure Kept (start : Writer) (edits : List Edit) : Prop where
  /-- An append adds the bytes of its datum behind those before. -/
  append : ∀ before datum after w, edits = before ++ .append datum :: after →
    run start before = (w, none) → ∃ w', run start (before ++ [.append datum]) = (w', none) ∧
      w'.toList = w.toList ++ datum.bytes ∧ datum.bytes.length = datum.extent
  /-- A patch whose stretch is inside changes the bytes of its stretch. -/
  patch : ∀ before pos word after w, edits = before ++ .patch pos word :: after →
    run start before = (w, none) → pos.toNat + word.datum.extent ≤ w.size →
      ∃ w', run start (before ++ [.patch pos word]) = (w', none) ∧
        w'.toList = w.toList.take pos.toNat ++ word.datum.bytes ++
          w.toList.drop (pos.toNat + word.datum.extent)
  /-- A patch whose stretch crosses the end stops the sequence, with what was written before it. -/
  stopped : ∀ before pos word after w, edits = before ++ .patch pos word :: after →
    run start before = (w, none) → w.size < pos.toNat + word.datum.extent →
      ∃ fault, run start edits = (w, some fault)
  /-- What a step writes and no later one overwrites is read in the end. -/
  readBack : ∀ before e after w w', edits = before ++ e :: after → run start before = (w, none) →
    run start (before ++ [e]) = (w', none) →
    (∀ later ∈ after, later.Spares (e.pos w).toNat e.datum.extent) →
      ReadAt (run start edits).1.buffer (e.pos w) e.datum
  /-- Past the end nothing is read. -/
  ends : Ends (run start edits).1.buffer

/-- What the parts of a sequence append, together. -/
theorem added_append (before after : List Edit) : added (before ++ after) = added before + added after := by
  induction before with
  | nil => exact (Nat.zero_add _).symm
  | cons e before ih => rw [List.cons_append, added, added, ih, Nat.add_assoc]

/-- A step that is made, at the end of a sequence. -/
theorem run_append_singleton {before : List Edit} {start : Writer} (h : run start before = (w, none))
    (hedit : edit w e = .ok w') : run start (before ++ [e]) = (w', none) := by
  rw [run_append h, run_cons hedit]
  rfl

/-- **Within a sequence there is room** for what its rest appends. -/
theorem size_add_le {before after : List Edit} {start : Writer}
    (hroom : start.size + added (before ++ after) ≤ maxLength) (h : run start before = (w, none)) :
    w.size + added after ≤ maxLength := by
  rw [added_append] at hroom
  have hsize := @size_run_le start before (by omega)
  rw [h] at hsize
  dsimp only at hsize
  omega

/-- **What was written is read**, whatever was written before and after it, in every buffer that there can
be. -/
theorem run_kept (start : Writer) (edits : List Edit) (hstorable : ∀ e ∈ edits, e.datum.Storable)
    (hroom : start.size + added edits ≤ maxLength) : Kept start edits where
  append := by
    intro before datum after w hedits hw
    exact ⟨_, run_append_singleton hw rfl, Writer.toList_append w datum.bytes, datum.width_eq_extent⟩
  patch := by
    rintro before pos word after w rfl hw hinside
    have hsize := size_add_le hroom hw
    rw [← word.datum.width_eq_extent] at hinside ⊢
    obtain ⟨patched, hpatched, hpatch⟩ := patch_of_le (by omega) hinside
    exact ⟨patched, run_append_singleton hw hpatched, Writer.toList_patch? hpatch⟩
  stopped := by
    rintro before pos word after w rfl hw hcrosses
    rw [← word.datum.width_eq_extent] at hcrosses
    obtain ⟨fault, hfault⟩ := patch_of_lt hcrosses
    refine ⟨fault, ?_⟩
    rw [run_append hw, run, edit, hfault]
  readBack := by
    rintro before e after w w' rfl hw hw' hspares
    -- What the step wrote stands right after it, and all that follow spare it.
    have hsize := size_add_le hroom hw
    rw [run_append hw, run] at hw'
    split at hw'
    · rename_i next hnext
      rw [run_append hw, run_cons hnext]
      have hadded : added (e :: after) = e.added + added after := rfl
      have hnextSize := size_edit (by omega) hnext
      refine readAt_of_holds ?_ (hstorable e (by simp)) ?_
      · exact (@size_run_le next after (by omega)).trans (by omega)
      · refine holds_run (by omega) (holds_edit (by omega) hnext) fun later hlater => ?_
        rw [show e.datum.bytes.length = _ from e.datum.width_eq_extent]
        exact hspares later hlater
    · cases hw'
  ends := ends ((size_run_le hroom).trans hroom)

/-- A placeholder with a text behind it, patched to lead there: the offset and the text are read back. -/
theorem run_kept_forwardOffset :
    let edits : List Edit :=
      [.append (.uint32 0), .append (.int32 (-5)), .append (.string "né"), .patch 0 (.uint32 8)]
    (∀ e ∈ edits, e.datum.Storable) ∧ Writer.empty.size + added edits ≤ maxLength ∧
      ReadAt (run .empty edits).1.buffer 0 (.uint32 8) ∧
        ReadAt (run .empty edits).1.buffer 8 (.string "né") := by
  intro edits
  have hstorable : ∀ e ∈ edits, e.datum.Storable := by
    simp only [edits, List.forall_mem_cons, List.not_mem_nil, false_implies, implies_true, and_true]
    exact ⟨trivial, trivial, show (Utf8.encode "né").length < 2 ^ 32 by decide, trivial⟩
  have hroom : Writer.empty.size + added edits ≤ maxLength := by decide
  have hkept := run_kept .empty edits hstorable hroom
  refine ⟨hstorable, hroom, ?_, ?_⟩
  · refine hkept.readBack [.append (.uint32 0), .append (.int32 (-5)), .append (.string "né")] _ [] _ _ rfl
      rfl rfl ?_
    simp
  · refine hkept.readBack [.append (.uint32 0), .append (.int32 (-5))] (.append (.string "né"))
      [.patch 0 (.uint32 8)] _ _ rfl rfl rfl ?_
    simp only [List.forall_mem_cons, List.not_mem_nil, false_implies, implies_true, and_true]
    intro i hi _
    have hpos : 8 ≤ i := hi
    have hpatch : (0 : UInt64).toNat + (PatchWord.uint32 8).datum.width = 4 := rfl
    omega

end Machine

end InterfaceSchema
