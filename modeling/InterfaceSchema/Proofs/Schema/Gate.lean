import InterfaceSchema.Proofs.Machine.Safety
import InterfaceSchema.Schema.Gate

/-!
# The gate

A buffer is let in or refused by three checks in a fixed order. `rootTable` makes them with readers that may
fail; `Buffer.Identified` and `Buffer.Bindable` are what they come to, said of the bytes alone. The two agree
(`rootTable_eq`) because a reader fails only where its stretch crosses the end: the signed word is read just
when it is inside the buffer, and the second size of a vtable just when the vtable has room for two.

**In machine words the gate never stops.** The one operation that could is the difference that leads to the
vtable, and a root offset, a word of four bytes, is too low for that, however long the buffer is.
-/

namespace InterfaceSchema

variable {b : Buffer} {pos : Nat}

namespace Buffer

/-- A word inside the buffer is the number of its bytes. -/
theorem word?_eq_unsignedAt (h : pos + 4 ≤ b.size) : b.word? 4 pos = some (b.unsignedAt pos) := by
  rw [word?, slice?_eq_some b h]
  rfl

/-- A signed word inside the buffer is the number of its bytes in two's complement. -/
theorem int32?_eq_signedAt (h : pos + 4 ≤ b.size) :
    ∃ back, b.int32? pos = some back ∧ back.toInt = b.signedAt pos := by
  refine ⟨(UInt32.ofNat (b.unsignedAt pos)).toInt32, ?_, ?_⟩
  · rw [int32?, uint32?, word?_eq_unsignedAt h, Option.map_some, Option.map_some]
  · rw [UInt32.toInt32_ofNat', Int32.toInt_ofNat']
    rfl

/-- A signed word that crosses the end is not read. -/
theorem int32?_eq_none (h : b.size < pos + 4) : b.int32? pos = none := by
  rw [int32?, uint32?, word?, slice?_eq_none b h]
  rfl

/-- A two-byte word is read just when it is inside the buffer. -/
theorem isSome_uint16?_iff : (b.uint16? pos).isSome ↔ pos + 2 ≤ b.size := by
  rw [uint16?, word?, Option.isSome_map, Option.isSome_map]
  by_cases h : pos + 2 ≤ b.size
  · rw [slice?_eq_some b h]
    exact iff_of_true rfl h
  · rw [slice?_eq_none b (Nat.not_le.mp h)]
    exact iff_of_false Bool.false_ne_true h

end Buffer

/-! ## The verdict -/

/-- **A table is bound behind the header just where it can be.** -/
theorem bind?_eq (hpos : headerSize ≤ pos) :
    Table.bind? b pos = if b.Bindable pos then some ⟨b, some pos⟩ else none := by
  unfold Table.bind? Table.vtable?
  by_cases hword : pos + 4 ≤ b.size
  · obtain ⟨back, hback, hsigned⟩ := Buffer.int32?_eq_signedAt hword
    dsimp only
    rw [hback]
    dsimp only
    rw [hsigned]
    by_cases hnonneg : 0 ≤ (pos : Int) - b.signedAt pos
    · rw [if_pos hnonneg]
      dsimp only
      refine if_congr (Buffer.isSome_uint16?_iff.trans ?_) rfl rfl
      constructor
      · intro hend
        exact ⟨hpos, hword, hnonneg, by omega⟩
      · intro hbindable
        have hend := hbindable.vtable_inside
        omega
    · rw [if_neg hnonneg, if_neg fun hbindable => hnonneg hbindable.vtable_nonneg]
  · dsimp only
    rw [Buffer.int32?_eq_none (Nat.not_le.mp hword), if_neg fun hbindable => hword hbindable.word_inside]

/-- **The gate is three checks of the bytes**, in this order. -/
theorem rootTable_eq (b : Buffer) :
    rootTable b =
      if b.size < headerSize then .error (.tooShort b.size)
      else if ¬ b.Identified then .error .missingIdentifier
      else if b.Bindable b.rootOffset then .ok ⟨b, some b.rootOffset⟩
      else .error (.badRootOffset b.rootOffset) := by
  unfold rootTable
  by_cases hshort : b.size < headerSize
  · rw [if_pos hshort, if_pos hshort]
  have hsize : 8 ≤ b.size := Nat.not_lt.mp hshort
  have hidentified : b.slice? 4 4 ≠ some fileIdentifier ↔ ¬ b.Identified := by
    rw [b.slice?_eq_some hsize, ne_eq, Option.some_inj]
    rfl
  have hroot : (b.word? 4 0).getD 0 = b.rootOffset := by
    rw [Buffer.word?_eq_unsignedAt (by omega), Option.getD_some]
    rfl
  rw [if_neg hshort, if_neg hshort, hroot]
  refine if_congr hidentified rfl ?_
  dsimp only
  by_cases hlow : b.rootOffset < headerSize
  · rw [if_pos hlow, if_neg fun hbindable => Nat.not_le.mpr hlow hbindable.behind_header]
  · rw [if_neg hlow, bind?_eq (Nat.not_lt.mp hlow)]
    by_cases hbindable : b.Bindable b.rootOffset
    · rw [if_pos hbindable, if_pos hbindable]
    · rw [if_neg hbindable, if_neg hbindable]

/-! ## In machine words -/

namespace Machine

/-- **The gate answers in every buffer that there can be**, what it answers in natural numbers; and a table
that it lets in stands at the root offset, attached. -/
theorem exists_rootTable (hb : b.size ≤ maxLength) :
    ∃ verdict, rootTable b = .ok verdict ∧ verdict.map Table.exact = InterfaceSchema.rootTable b ∧
      ∀ t, verdict = .ok t → t.buffer = b ∧ t.pos ≠ nowhere ∧ t.pos.toNat = b.rootOffset ∧ t.Attached := by
  obtain ⟨verdict, hverdict, hexact, hattached⟩ := (runs_rootTable hb).exists_ok trivial
  refine ⟨verdict, hverdict, hexact, ?_⟩
  rintro t rfl
  obtain ⟨hbuffer, ht⟩ := hattached t rfl
  have hopen : InterfaceSchema.rootTable b = .ok t.exact := hexact.symm
  have hpos : t.exact.pos = some b.rootOffset := by
    rw [rootTable_eq] at hopen
    split_ifs at hopen
    rw [← Except.ok.inj hopen]
  unfold Table.exact at hpos
  dsimp only at hpos
  split_ifs at hpos with hnowhere
  exact ⟨hbuffer, hnowhere, Option.some_inj.mp hpos, ht⟩

end Machine

/-! ## What is let in -/

/-- **What the gate lets in, and what it says of the rest.** A buffer that is shorter than the header is too
short; one that is not does without the identifier or has it; and then the root offset leads to a table
that can be bound, where the root stands, or the offset itself is what is refused. In machine words the gate
says the same of every buffer that there can be, and none of its sums and differences stops it. -/
theorem rootTable_bindable (b : Buffer) :
    (∀ n, rootTable b = .error (.tooShort n) ↔ b.size < headerSize ∧ n = b.size) ∧
    (rootTable b = .error .missingIdentifier ↔ headerSize ≤ b.size ∧ ¬ b.Identified) ∧
    (∀ t, rootTable b = .ok t ↔ headerSize ≤ b.size ∧ b.Identified ∧ b.Bindable b.rootOffset ∧
      t = ⟨b, some b.rootOffset⟩) ∧
    (∀ r, rootTable b = .error (.badRootOffset r) ↔ headerSize ≤ b.size ∧ b.Identified ∧
      ¬ b.Bindable b.rootOffset ∧ r = b.rootOffset) ∧
    (b.size ≤ Machine.maxLength → ∃ verdict, Machine.rootTable b = .ok verdict ∧
      verdict.map Machine.Table.exact = rootTable b ∧
      ∀ t, verdict = .ok t →
        t.buffer = b ∧ t.pos ≠ Machine.nowhere ∧ t.pos.toNat = b.rootOffset ∧ t.Attached) := by
  have hgate := rootTable_eq b
  rw [← and_assoc, ← and_assoc, ← and_assoc]
  refine ⟨?_, Machine.exists_rootTable⟩
  by_cases hshort : b.size < headerSize
  · rw [if_pos hshort] at hgate
    simp [hgate, hshort, Nat.not_le.mpr hshort, eq_comm]
  rw [if_neg hshort] at hgate
  have hlong : headerSize ≤ b.size := Nat.not_lt.mp hshort
  by_cases hidentified : b.Identified
  · rw [if_neg (not_not.mpr hidentified)] at hgate
    by_cases hbindable : b.Bindable b.rootOffset
    · rw [if_pos hbindable] at hgate
      simp [hgate, hshort, hlong, hidentified, hbindable, eq_comm]
    · rw [if_neg hbindable] at hgate
      simp [hgate, hshort, hlong, hidentified, hbindable, eq_comm]
  · rw [if_pos hidentified] at hgate
    simp [hgate, hshort, hlong, hidentified]

/-- The root stands right behind the header, and its vtable behind it: the signed word is negative. -/
theorem rootTable_bindable_selfReferencing :
    Machine.selfReferencing.size ≤ Machine.maxLength ∧
      Machine.selfReferencing.Bindable Machine.selfReferencing.rootOffset ∧
      rootTable Machine.selfReferencing = .ok ⟨Machine.selfReferencing, some 8⟩ ∧
      ∃ verdict, Machine.rootTable Machine.selfReferencing = .ok verdict ∧
        verdict.map Machine.Table.exact = rootTable Machine.selfReferencing := by
  have hbindable : Machine.selfReferencing.Bindable Machine.selfReferencing.rootOffset := by decide
  have hsize : Machine.selfReferencing.size ≤ Machine.maxLength := by decide
  obtain ⟨-, -, hopen, -, hwords⟩ := rootTable_bindable Machine.selfReferencing
  obtain ⟨verdict, hverdict, hexact, -⟩ := hwords hsize
  exact ⟨hsize, hbindable, (hopen _).mpr ⟨by decide, by decide, hbindable, rfl⟩, verdict, hverdict, hexact⟩

end InterfaceSchema
