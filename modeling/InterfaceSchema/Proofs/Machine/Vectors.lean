import InterfaceSchema.Proofs.Machine.Tables
import Mathlib.Data.List.Basic

/-!
# Vectors in machine words

A vector is the one view that is not read anew by each call: where it starts and how long it is was found
when it was made, and an element is reached by a product and a sum that nothing checks. They cannot
overflow, because **every vector ends inside its buffer** (`Vector.Inside`), whatever length was declared:
the length was cut down to the room there was.

A walk keeps a second invariant, that it has not passed the end (`Cursor.Inside`), which its steps preserve.
From it follow the sum of the next index and the difference that says how many elements are still to come.
What a walk answers is then known for any number of steps: the elements in order, with what is still to come
before each, and nothing for ever after.

Elements are decoded by what follows their offset words. `Decodes` says of such a decoder that it runs and
agrees with one on natural numbers, and at which words: a string is decoded at any, a table where its distance
fits.
-/

namespace InterfaceSchema

namespace OffsetVector

variable {α : Type}

/-- What a walk over a vector answers at an index: how many elements are still to come, and the element. -/
def answer (v : OffsetVector) (decode : Buffer → Nat → α) (i : Nat) : Nat × Option α :=
  (v.length - i, (v.get decode i).toOption)

/-- **What a walk answers in a number of steps** from an index on. -/
def answers (v : OffsetVector) (decode : Buffer → Nat → α) (next steps : Nat) : List (Nat × Option α) :=
  (List.range' next steps).map (v.answer decode)

theorem answers_succ (v : OffsetVector) (decode : Buffer → Nat → α) (next steps : Nat) :
    v.answers decode next (steps + 1) = v.answer decode next :: v.answers decode (next + 1) steps := by
  rw [answers, List.range'_succ, List.map_cons]
  rfl

/-- **Past the end there is nothing**, for ever. -/
theorem answers_of_le (v : OffsetVector) (decode : Buffer → Nat → α) {next : Nat} (h : v.length ≤ next)
    (steps : Nat) : v.answers decode next steps = List.replicate steps (0, none) := by
  refine List.eq_replicate_iff.mpr ⟨by rw [answers, List.length_map, List.length_range'], ?_⟩
  intro row hrow
  obtain ⟨i, hi, rfl⟩ := List.mem_map.mp hrow
  have hle : v.length ≤ i := Nat.le_trans h (List.mem_range'_1.mp hi).1
  rw [answer, get, if_neg (Nat.not_lt.mpr hle), Nat.sub_eq_zero_of_le hle]
  rfl

/-- **A step answers the element at the next index**, and the answers after it are those of the walk that is
left. -/
theorem Cursor.answers_step (c : Cursor) (decode : Buffer → Nat → α) (steps : Nat) :
    c.vector.answers decode c.next (steps + 1) =
      (c.remaining, (c.step decode).1) :: c.vector.answers decode (c.step decode).2.next steps := by
  rw [answers_succ, answer, get, Cursor.step]
  by_cases hlt : c.next < c.vector.length
  · rw [if_pos hlt, if_pos hlt]
    rfl
  · rw [if_neg hlt, if_neg hlt, c.vector.answers_of_le decode (Nat.not_lt.mp hlt),
      c.vector.answers_of_le decode (by omega)]
    rfl

/-- A step goes on by one element at most. -/
theorem Cursor.next_step (c : Cursor) (decode : Buffer → Nat → α) :
    c.next ≤ (c.step decode).2.next ∧ (c.step decode).2.next ≤ c.next + 1 := by
  rw [Cursor.step]
  split
  · exact ⟨Nat.le_succ _, Nat.le_refl _⟩
  · exact ⟨Nat.le_refl _, Nat.le_succ _⟩

/-- **A walk from the first element answers all elements**, when it goes far enough. -/
theorem filterMap_answers (v : OffsetVector) (decode : Buffer → Nat → α) :
    (v.answers decode 0 (v.length + 1)).filterMap Prod.snd = v.toList decode := by
  have hlast : v.answer decode v.length = (0, none) := by
    rw [answer, get, if_neg (Nat.lt_irrefl _), Nat.sub_self]
    rfl
  rw [answers, ← List.range_eq_range', List.range_succ, List.map_append, List.filterMap_append,
    List.map_singleton, hlast, toList, List.filterMap_map, ← List.filterMap_eq_map]
  show _ ++ [] = _
  rw [List.append_nil]
  refine List.filterMap_congr fun i hi => ?_
  show (v.get decode i).toOption = _
  rw [get, if_pos (List.mem_range.mp hi)]
  rfl

end OffsetVector

namespace Machine

variable {α β : Type} {b : Buffer} {fits : Nat → Prop}

/-- **A decoder of elements runs** at the words that fit and agrees with one on natural numbers, when what it
decodes is taken in its exact form; and what it decodes has a property. -/
def Decodes (b : Buffer) (fits : Nat → Prop) (decode : Buffer → UInt64 → Checked α) (exact : α → β)
    (exactDecode : Buffer → Nat → β) (P : α → Prop) : Prop :=
  ∀ pos, Runs (fits pos.toNat) (decode b pos) fun a => exact a = exactDecode b pos.toNat ∧ P a

/-- Tables are decoded where their distances fit, attached or detached. -/
theorem decodes_follow (hb : b.size ≤ maxLength) :
    Decodes b (Table.FollowFits b) Table.follow Table.exact InterfaceSchema.Table.follow fun t =>
      t.buffer = b ∧ (t.Attached ∨ t.Detached) :=
  Table.runs_follow hb

/-- Strings are decoded everywhere. -/
theorem decodes_followString (hb : b.size ≤ maxLength) :
    Decodes b (fun _ => True) followString id InterfaceSchema.Table.followString fun _ => True := by
  intro pos
  rw [followString_eq hb]
  exact .pure ⟨rfl, trivial⟩

namespace Vector

/-- **The vector as natural numbers have it.** -/
def exact (v : Vector) : OffsetVector := ⟨v.buffer, v.start.toNat, v.length.toNat⟩

/-- **A vector that is empty or ends inside its buffer.** Its length was stored in four bytes, so room for
its elements can be reserved. -/
structure Inside (v : Vector) : Prop where
  ends : v.length = 0 ∨ v.start.toNat + 4 * v.length.toNat ≤ v.buffer.size
  length_lt : v.length.toNat < 2 ^ 32

/-- The vector without elements is inside. -/
theorem inside_empty (b : Buffer) : (empty b).Inside := ⟨.inl rfl, Nat.two_pow_pos 32⟩

/-- **The words of a vector fit.** -/
def Fits (v : Vector) (fits : Nat → Prop) : Prop := ∀ i < v.length.toNat, fits (v.exact.wordPos i)

/-- **A vector is made at a position inside the buffer** and ends inside it. -/
theorem runs_atPos (hb : b.size ≤ maxLength) {pos : UInt64} (hpos : pos.toNat < b.size) :
    Runs True (atPos b pos) fun v => v.exact = .atPos b pos.toNat ∧ v.buffer = b ∧ v.Inside := by
  have hfour : (4 : UInt64).toNat = 4 := rfl
  have hsum : pos.toNat + (4 : UInt64).toNat < 2 ^ 64 := by
    unfold maxLength at hb
    omega
  refine (runs_add hsum).bind fun start hstart => ?_
  refine (runs_add hsum).map fun start' hstart' => ?_
  rw [hfour] at hstart hstart'
  have hdeclared : ((uint32? b pos).getD 0).toUInt64.toNat = (b.word? 4 pos.toNat).getD 0 := by
    rw [UInt32.toNat_toUInt64, toNat_getD_uint32? hb]
  have hroom : (monus (Machine.length b) start / 4).toNat = (b.size - (pos.toNat + 4)) / 4 := by
    rw [UInt64.toNat_div, toNat_monus, toNat_length hb, hstart, hfour]
  -- The sum is taken twice, once for the room and once for the start.
  have hexact : exact ⟨b, start', if ((uint32? b pos).getD 0).toUInt64 ≤ monus (Machine.length b) start / 4
      then ((uint32? b pos).getD 0).toUInt64 else monus (Machine.length b) start / 4⟩ =
        .atPos b pos.toNat := by
    rw [exact, OffsetVector.atPos, hstart', ← hdeclared, ← hroom, Nat.min_def]
    simp only [UInt64.le_iff_toNat_le]
    split <;> rfl
  refine ⟨hexact, rfl, ?_, ?_⟩
  · rcases OffsetVector.atPos_inside b pos.toNat with hempty | hend
    · rw [← hexact] at hempty
      exact .inl (UInt64.toNat_inj.mp hempty)
    · rw [← hexact] at hend
      exact .inr hend
  · show (exact _).length < 2 ^ 32
    rw [hexact, OffsetVector.atPos, ← toNat_getD_uint32? hb]
    exact Nat.lt_of_le_of_lt (Nat.min_le_left _ _) ((uint32? b pos).getD 0).toNat_lt

/-- **An element is decoded where its offset word stands**, which a product and a sum of words find. -/
theorem get_eq {v : Vector} (hb : v.buffer.size ≤ maxLength) (hv : v.Inside) {i : UInt64} (hi : i < v.length) :
    ∃ pos : UInt64, pos.toNat = v.exact.wordPos i.toNat ∧
      ∀ decode : Buffer → UInt64 → Checked α, v.get decode i = decode v.buffer pos := by
  have hfour : (4 : UInt64).toNat = 4 := rfl
  have hlt : i.toNat < v.length.toNat := UInt64.lt_iff_toNat_lt.mp hi
  have hend : v.start.toNat + 4 * v.length.toNat ≤ v.buffer.size := by
    rcases hv.ends with hempty | hend
    · rw [hempty] at hlt
      exact absurd hlt (Nat.not_lt_zero _)
    · exact hend
  unfold maxLength at hb
  obtain ⟨hmul, hproduct⟩ := mul_of_lt (show (4 : UInt64).toNat * i.toNat < 2 ^ 64 by rw [hfour]; omega)
  obtain ⟨hadd, hpos⟩ :=
    add_of_lt (show v.start.toNat + (4 * i).toNat < 2 ^ 64 by rw [hproduct, hfour]; omega)
  refine ⟨v.start + 4 * i, by rw [hpos, hproduct]; rfl, fun decode => ?_⟩
  rw [get, if_pos hi, hmul]
  show (add v.start (4 * i) >>= fun pos => decode v.buffer pos) = _
  rw [hadd]
  rfl

/-- **An element is decoded** when its offset word fits. -/
theorem runs_get {decode : Buffer → UInt64 → Checked α} {exact' : α → β}
    {exactDecode : Buffer → Nat → β} {P : α → Prop} (hb : b.size ≤ maxLength)
    (hdecode : Decodes b fits decode exact' exactDecode P) {v : Vector} (hbuffer : v.buffer = b)
    (hv : v.Inside) {i : UInt64} (hi : i < v.length) :
    Runs (fits (v.exact.wordPos i.toNat)) (v.get decode i) fun a =>
      .ok (exact' a) = v.exact.get exactDecode i.toNat ∧ P a := by
  subst hbuffer
  obtain ⟨pos, hpos, hget⟩ := get_eq (α := α) hb hv hi
  rw [hget, ← hpos]
  refine (hdecode pos).imp fun a ha => ⟨?_, ha.2⟩
  rw [OffsetVector.get, if_pos (show i.toNat < v.exact.length from UInt64.lt_iff_toNat_lt.mp hi), ha.1, hpos]
  rfl

/-- A table in a vector whose distance does not fit stops the program. -/
theorem get_follow_eq_error {v : Vector} (hb : v.buffer.size ≤ maxLength) (hv : v.Inside) {i : UInt64}
    (hi : i < v.length) (h : ¬ Table.FollowFits v.buffer (v.exact.wordPos i.toNat)) :
    v.get Table.follow i = .error .distance := by
  obtain ⟨pos, hpos, hget⟩ := get_eq (α := Table) hb hv hi
  rw [hget]
  exact Table.follow_eq_error hb (hpos ▸ h)

end Vector

/-- **The vector in a slot**, which ends inside the buffer. -/
theorem Table.runs_vector {t : Table} (hb : t.buffer.size ≤ maxLength) (slot : UInt16) :
    Runs t.Fits (t.vector slot) fun v =>
      v.exact = t.exact.vector slot.toNat ∧ v.buffer = t.buffer ∧ v.Inside := by
  refine (runs_target? hb slot).bind fun o ⟨ho, hinside⟩ => ?_
  have htarget : (t.exact.field? slot.toNat).bind t.exact.buffer.follow? = o.map UInt64.toNat := ho.symm
  rw [InterfaceSchema.Table.vector, htarget]
  cases o with
  | none => exact .pure ⟨rfl, rfl, Vector.inside_empty _⟩
  | some pos => exact (Vector.runs_atPos hb (hinside pos rfl)).mono fun _ => trivial

namespace Cursor

/-- **The walk as natural numbers have it.** -/
def exact (c : Cursor) : OffsetVector.Cursor := ⟨c.vector.exact, c.next.toNat⟩

/-- **A walk that has not passed the end** of a vector inside its buffer. -/
structure Inside (c : Cursor) : Prop where
  vector : c.vector.Inside
  next_le : c.next.toNat ≤ c.vector.length.toNat

/-- **The words that a walk comes by fit**, in a number of steps. -/
def Fits (c : Cursor) (fits : Nat → Prop) (steps : Nat) : Prop :=
  ∀ i, c.next.toNat ≤ i → i < c.next.toNat + steps → i < c.vector.length.toNat →
    fits (c.vector.exact.wordPos i)

/-- The words that a walk comes by later are among those that it comes by. -/
theorem Fits.after {c rest : Cursor} {steps : Nat} (hfits : c.Fits fits (steps + 1))
    (hvector : rest.vector = c.vector) (hnext : c.next.toNat ≤ rest.next.toNat)
    (hnext' : rest.next.toNat ≤ c.next.toNat + 1) : rest.Fits fits steps := by
  intro i hi hlast hlt
  rw [hvector] at hlt ⊢
  exact hfits i (by omega) (by omega) hlt

/-- A walk starts inside. -/
theorem inside_cursor {v : Vector} (h : v.Inside) : v.cursor.Inside := ⟨h, Nat.zero_le _⟩

/-- **What is still to come is never less than nothing.** -/
theorem runs_remaining {c : Cursor} (h : c.Inside) :
    Runs True c.remaining fun n => n.toNat = c.vector.length.toNat - c.next.toNat :=
  runs_sub h.next_le

/-- **A step answers the next element and goes on behind it**, or answers nothing and stays. Either way the
walk has not passed the end. -/
theorem runs_step {decode : Buffer → UInt64 → Checked α} {exact' : α → β}
    {exactDecode : Buffer → Nat → β} {P : α → Prop} (hb : b.size ≤ maxLength)
    (hdecode : Decodes b fits decode exact' exactDecode P) {c : Cursor} (hbuffer : c.vector.buffer = b)
    (h : c.Inside) :
    Runs (c.Fits fits 1) (c.step decode) fun r =>
      (r.1.map exact', r.2.exact) = c.exact.step exactDecode ∧ (∀ a ∈ r.1, P a) ∧
        r.2.vector = c.vector ∧ r.2.Inside := by
  have hone : (1 : UInt64).toNat = 1 := rfl
  unfold step OffsetVector.Cursor.step
  by_cases hend : c.vector.length ≤ c.next
  · have hnot : ¬ c.exact.next < c.exact.vector.length := Nat.not_lt.mpr (UInt64.le_iff_toNat_le.mp hend)
    rw [if_pos hend, if_neg hnot]
    exact .pure ⟨rfl, nofun, rfl, h⟩
  · have hlt : c.next < c.vector.length := UInt64.not_le.mp hend
    have hlt' : c.next.toNat < c.vector.length.toNat := UInt64.lt_iff_toNat_lt.mp hlt
    have hlast := c.vector.length.toNat_lt
    rw [if_neg hend, if_pos (show c.exact.next < c.exact.vector.length from hlt')]
    refine ((Vector.runs_get hb hdecode hbuffer h.vector hlt).mono fun hfits =>
      hfits _ (Nat.le_refl _) (Nat.lt_succ_self _) hlt').bind fun item hitem => ?_
    refine (runs_add (by rw [hone]; omega)).map fun next hnext => ?_
    rw [hone] at hnext
    obtain ⟨hget, hP⟩ := hitem
    rw [OffsetVector.get, if_pos (show c.next.toNat < c.vector.exact.length from hlt'),
      Except.ok.injEq] at hget
    refine ⟨?_, ?_, rfl, h.vector, ?_⟩
    · rw [Option.map_some, hget, exact, hnext]
      rfl
    · rintro a ha
      cases ha
      exact hP
    · rw [hnext]
      exact hlt'

/-- A walk stops the program where its vector does. -/
theorem step_eq_error {decode : Buffer → UInt64 → Checked α} {c : Cursor} {e : Fault}
    (hlt : c.next < c.vector.length) (h : c.vector.get decode c.next = .error e) : c.step decode = .error e := by
  rw [step, if_neg (UInt64.not_le.mpr hlt), h]
  rfl

/-- **A walk answers one index after the other.** The elements come in order, with what is still to come
before each, and past the end there is nothing. -/
theorem runs_walk {decode : Buffer → UInt64 → Checked α} {exact' : α → β}
    {exactDecode : Buffer → Nat → β} {P : α → Prop} (hb : b.size ≤ maxLength)
    (hdecode : Decodes b fits decode exact' exactDecode P) (steps : Nat) {c : Cursor}
    (hbuffer : c.vector.buffer = b) (h : c.Inside) :
    Runs (c.Fits fits steps) (c.walk decode steps) fun rows =>
      (rows.map fun row => (row.1.toNat, row.2.map exact')) =
          c.vector.exact.answers exactDecode c.next.toNat steps ∧
        ∀ row ∈ rows, ∀ a ∈ row.2, P a := by
  -- The walk stays within one vector, so the induction is on the steps, for a walk at any index of it.
  induction steps generalizing c with
  | zero => exact .pure ⟨rfl, nofun⟩
  | succ steps ih =>
    refine ((runs_remaining h).mono fun _ => trivial).bind fun remaining hremaining => ?_
    refine ((runs_step hb hdecode hbuffer h).mono fun hfits i hnext hlast => hfits i hnext (by omega)).bind
      fun ⟨item, rest⟩ ⟨hitem, hP, hvector, hrest⟩ => ?_
    have hstep := c.exact.answers_step exactDecode steps
    have hnext := c.exact.next_step exactDecode
    rw [← hitem] at hstep hnext
    have hrun := (ih (hvector ▸ hbuffer) hrest).mono fun hfits =>
      Fits.after hfits hvector hnext.1 hnext.2
    rw [hvector] at hrun
    refine hrun.map fun rows ⟨hrows, hPs⟩ => ⟨?_, ?_⟩
    · rw [List.map_cons, hrows]
      show (remaining.toNat, _) :: _ = _
      rw [hremaining]
      exact hstep.symm
    · exact List.forall_mem_cons.mpr ⟨hP, hPs⟩

/-- **A walk over documentation answers the strings of the vector trimmed**, and past the end nothing. -/
theorem runs_lines (hb : b.size ≤ maxLength) (steps : Nat) {c : Cursor} (hbuffer : c.vector.buffer = b)
    (h : c.Inside) :
    Runs True (c.lines steps) (· = (c.vector.exact.answers InterfaceSchema.Table.followString c.next.toNat
      steps).map fun row => row.2.map trim) := by
  induction steps generalizing c with
  | zero => exact .pure rfl
  | succ steps ih =>
    refine ((runs_step hb (decodes_followString hb) hbuffer h).mono fun _ _ _ _ _ => trivial).bind
      fun ⟨line, rest⟩ ⟨hline, _, hvector, hrest⟩ => ?_
    have hstep := c.exact.answers_step InterfaceSchema.Table.followString steps
    rw [← hline, Option.map_id] at hstep
    have hrun := ih (hvector ▸ hbuffer) hrest
    rw [hvector] at hrun
    refine hrun.map fun lines hlines => ?_
    rw [hlines]
    exact (congrArg (List.map fun row => row.2.map trim) hstep).symm

end Cursor

/-- **All elements of a vector are read**, in order. -/
theorem Vector.runs_toList {decode : Buffer → UInt64 → Checked α} {exact' : α → β}
    {exactDecode : Buffer → Nat → β} {P : α → Prop} (hb : b.size ≤ maxLength)
    (hdecode : Decodes b fits decode exact' exactDecode P) {v : Vector} (hbuffer : v.buffer = b)
    (hv : v.Inside) :
    Runs (v.Fits fits) (v.toList decode) fun items =>
      items.map exact' = v.exact.toList exactDecode ∧ ∀ a ∈ items, P a := by
  refine ((Cursor.runs_walk hb hdecode (v.length.toNat + 1) hbuffer (Cursor.inside_cursor hv)).mono
    fun hfits i _ _ hlt => hfits i hlt).map fun rows ⟨hrows, hP⟩ => ?_
  refine ⟨?_, fun a ha => ?_⟩
  · rw [← OffsetVector.filterMap_answers]
    have hfilter := congrArg (List.filterMap Prod.snd) hrows
    rw [List.filterMap_map] at hfilter
    rw [List.map_filterMap]
    exact hfilter
  · obtain ⟨row, hrow, hsome⟩ := List.mem_filterMap.mp ha
    exact hP row hrow a hsome

/-- **The tables of a vector** are attached or detached. -/
theorem Table.runs_tables {t : Table} (hb : t.buffer.size ≤ maxLength) (slot : UInt16) :
    Runs (t.Fits ∧ ∀ i < (t.exact.vector slot.toNat).length,
        FollowFits t.buffer ((t.exact.vector slot.toNat).wordPos i))
      (t.tables slot) fun ts => ts.map exact = t.exact.tables slot.toNat ∧
        ∀ inner ∈ ts, inner.buffer = t.buffer ∧ (inner.Attached ∨ inner.Detached) := by
  refine ((runs_vector hb slot).mono And.left).bind fun v ⟨hv, hbuffer, hinside⟩ => ?_
  rw [InterfaceSchema.Table.tables, ← hv]
  exact (Vector.runs_toList hb (decodes_follow hb) hbuffer hinside).mono And.right

/-- **The strings of a vector.** -/
theorem Table.runs_strings {t : Table} (hb : t.buffer.size ≤ maxLength) (slot : UInt16) :
    Runs t.Fits (t.strings slot) (· = t.exact.strings slot.toNat) := by
  refine (runs_vector hb slot).bind fun v ⟨hv, hbuffer, hinside⟩ => ?_
  rw [InterfaceSchema.Table.strings, ← hv]
  refine ((Vector.runs_toList hb (decodes_followString hb) hbuffer hinside).mono
    fun _ _ _ => trivial).imp fun items hitems => ?_
  rw [← hitems.1, List.map_id]

end Machine

end InterfaceSchema
