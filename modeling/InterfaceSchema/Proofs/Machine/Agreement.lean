import InterfaceSchema.Machine.Reader

/-!
# The two readers agree

Reading in machine words and reading with natural numbers give the same answers, and the machine does not
stop. The reason is the same for every sum that is taken as it comes: **something was read just before, at a
position that the sum does not pass by much**, and what can be read ends below the length of the buffer,
which is at most the greatest signed word. An index is small, an entry of a vtable smaller, and what is left
between a signed and an unsigned word is room enough for both.

One operation has no such reason. The distance from a table to its vtable is subtracted as a signed word,
and may be negative: near the end of a buffer that comes within two gigabytes of the greatest signed word
the difference need not be a signed word. `DistanceFits` says of a position that it is, and `Runs` what is
proved of a computation – that it ends with a result of which something holds, as long as the distances on its
way fit. In a buffer up to the length `reach` they all do.
-/

namespace InterfaceSchema.Machine

variable {α β : Type} {b : Buffer} {fits fits' : Prop}

/-- The length of the longest buffer, the greatest signed word. -/
def maxLength : Nat := 2 ^ 63 - 1

/-- **The reach of distances**, the length up to which no distance overflows. -/
def reach : Nat := 2 ^ 63 - 2 ^ 31 + 3

/-- **The distance at a position fits**: it is a signed word, if a word stands there to subtract. -/
def DistanceFits (b : Buffer) (pos : Nat) : Prop :=
  ∀ back, b.int32? pos = some back → (pos : Int) - back.toInt ≤ maxLength

/-- **A computation runs** and its result has a property, when something fits. If it does not, the computation
may be stopped by a distance, and by nothing else. -/
def Runs (fits : Prop) (x : Checked α) (P : α → Prop) : Prop :=
  (∃ a, x = .ok a ∧ P a) ∨ (x = .error .distance ∧ ¬ fits)

namespace Runs

theorem pure {P : α → Prop} {a : α} (h : P a) : Runs fits (.ok a) P := .inl ⟨a, rfl, h⟩

/-- What is known of a result may be weakened. -/
theorem imp {x : Checked α} {P Q : α → Prop} (h : Runs fits x P) (hPQ : ∀ a, P a → Q a) :
    Runs fits x Q := by
  rcases h with ⟨a, hx, ha⟩ | hfault
  · exact .inl ⟨a, hx, hPQ a ha⟩
  · exact .inr hfault

/-- More may be asked to fit. -/
theorem mono {x : Checked α} {P : α → Prop} (h : Runs fits x P) (hfits : fits' → fits) :
    Runs fits' x P := by
  rcases h with hok | ⟨hx, hnot⟩
  · exact .inl hok
  · exact .inr ⟨hx, fun h' => hnot (hfits h')⟩

/-- **Computations in sequence run** when each runs on the results of those before. -/
theorem bind {x : Checked α} {f : α → Checked β} {P : α → Prop} {Q : β → Prop} (h : Runs fits x P)
    (hf : ∀ a, P a → Runs fits (f a) Q) : Runs fits (x >>= f) Q := by
  rcases h with ⟨a, rfl, ha⟩ | ⟨rfl, hnot⟩
  · exact hf a ha
  · exact .inr ⟨rfl, hnot⟩

/-- A result that is put into another form. -/
theorem map {x : Checked α} {f : α → β} {P : α → Prop} {Q : β → Prop} (h : Runs fits x P)
    (hf : ∀ a, P a → Q (f a)) : Runs fits (x >>= fun a => .ok (f a)) Q :=
  h.bind fun a ha => .pure (hf a ha)

/-- **Where everything fits there is a result.** -/
theorem exists_ok {x : Checked α} {P : α → Prop} (h : Runs fits x P) (hfits : fits) :
    ∃ a, x = .ok a ∧ P a := by
  rcases h with hok | ⟨-, hnot⟩
  · exact hok
  · exact absurd hfits hnot

/-- Where there is one result it is that one. -/
theorem eq_ok {x : Checked α} {a : α} (h : Runs fits x (· = a)) (hfits : fits) : x = .ok a := by
  obtain ⟨_, hx, rfl⟩ := h.exists_ok hfits
  exact hx

/-- What is known of a computation that runs is known of its result, whatever fits. -/
theorem of_eq_ok {x : Checked α} {P : α → Prop} {a : α} (h : Runs fits x P) (hx : x = .ok a) : P a := by
  subst hx
  rcases h with ⟨a', ha', hP⟩ | ⟨hfault, -⟩
  · cases ha'
    exact hP
  · cases hfault

end Runs

/-! ## Arithmetic -/

theorem runs_add {a c : UInt64} (h : a.toNat + c.toNat < 2 ^ 64) :
    Runs fits (add a c) fun s => s.toNat = a.toNat + c.toNat :=
  .inl ⟨_, (add_of_lt h).1, (add_of_lt h).2⟩

theorem runs_sub {a c : UInt64} (h : c.toNat ≤ a.toNat) :
    Runs fits (sub a c) fun d => d.toNat = a.toNat - c.toNat :=
  .inl ⟨_, (sub_of_le h).1, (sub_of_le h).2⟩

theorem runs_mul {a c : UInt64} (h : a.toNat * c.toNat < 2 ^ 64) :
    Runs fits (mul a c) fun p => p.toNat = a.toNat * c.toNat :=
  .inl ⟨_, (mul_of_lt h).1, (mul_of_lt h).2⟩

/-- A sum that is given up is one that is no word. -/
theorem add?_eq_none_iff {a c : UInt64} : add? a c = none ↔ 2 ^ 64 ≤ a.toNat + c.toNat := by
  unfold add? add
  split
  · rename_i h
    exact iff_of_false nofun (Nat.not_le.mpr h)
  · rename_i h
    exact iff_of_true rfl (Nat.not_lt.mp h)

theorem toNat_of_add? {a c s : UInt64} (h : add? a c = some s) : s.toNat = a.toNat + c.toNat := by
  unfold add? add at h
  split at h
  · rename_i hlt
    cases h
    exact (add_of_lt hlt).2
  · cases h

/-! ## Reading -/

theorem toNat_length (hb : b.size ≤ maxLength) : (length b).toNat = b.size := by
  unfold maxLength at hb
  rw [length, UInt64.toNat_ofNat', Nat.mod_eq_of_lt (by omega)]

/-- **The same bytes are read.** A stretch whose end is no word is beyond every buffer. -/
theorem slice?_eq (hb : b.size ≤ maxLength) (pos length : UInt64) :
    slice? b pos length = b.slice? pos.toNat length.toNat := by
  unfold slice?
  split
  · rename_i h
    rw [add?_eq_none_iff] at h
    unfold maxLength at hb
    rw [b.slice?_eq_none (by omega)]
  · rfl

theorem word?_eq (hb : b.size ≤ maxLength) (width pos : UInt64) :
    word? b width pos = b.word? width.toNat pos.toNat := by
  rw [word?, slice?_eq hb]
  rfl

theorem uint16?_eq (hb : b.size ≤ maxLength) (pos : UInt64) : uint16? b pos = b.uint16? pos.toNat := by
  rw [uint16?, word?_eq hb]
  rfl

theorem uint32?_eq (hb : b.size ≤ maxLength) (pos : UInt64) : uint32? b pos = b.uint32? pos.toNat := by
  rw [uint32?, word?_eq hb]
  rfl

theorem int32?_eq (hb : b.size ≤ maxLength) (pos : UInt64) : int32? b pos = b.int32? pos.toNat := by
  rw [int32?, uint32?_eq hb]
  rfl

theorem int64?_eq (hb : b.size ≤ maxLength) (pos : UInt64) : int64? b pos = b.int64? pos.toNat := by
  rw [int64?, word?_eq hb]
  rfl

theorem real?_eq (hb : b.size ≤ maxLength) (pos : UInt64) : real? b pos = b.real? pos.toNat := by
  rw [real?, word?_eq hb]
  rfl

/-- A byte is read by its index just when it is a word of one byte. -/
theorem uint8?_eq (pos : UInt64) : uint8? b pos = b.uint8? pos.toNat := by
  unfold uint8? Buffer.uint8? Buffer.word?
  by_cases h : pos.toNat + 1 ≤ b.size
  · have hlt : pos.toNat < b.toList.length := h
    rw [b.slice?_eq_some h, List.drop_eq_getElem_cons hlt, List.take_succ_cons, List.take_zero,
      Option.map_some, LittleEndian.decode_cons, LittleEndian.decode_nil, Nat.mul_zero, Nat.add_zero,
      Option.map_some, UInt8.ofNat_toNat]
    exact Array.getElem?_eq_getElem h
  · rw [b.slice?_eq_none (Nat.not_le.mp h), Array.getElem?_eq_none (Nat.not_lt.mp h)]
    rfl

theorem int8?_eq (pos : UInt64) : int8? b pos = b.int8? pos.toNat := by
  rw [int8?, uint8?_eq]
  rfl

theorem bool?_eq (pos : UInt64) : bool? b pos = b.bool? pos.toNat := by
  rw [bool?, uint8?_eq]
  rfl

/-- What can be read is inside the buffer. -/
theorem le_size_of_word? {width pos n : Nat} (h : b.word? width pos = some n) :
    pos + width ≤ b.size := by
  refine Nat.le_of_not_lt fun hlt => ?_
  rw [Buffer.word?, b.slice?_eq_none hlt] at h
  cases h

theorem le_size_of_uint16? {pos : Nat} {n : UInt16} (h : b.uint16? pos = some n) : pos + 2 ≤ b.size := by
  obtain ⟨word, hword, -⟩ := Option.map_eq_some_iff.mp h
  exact le_size_of_word? hword

theorem le_size_of_int32? {pos : Nat} {n : Int32} (h : b.int32? pos = some n) : pos + 4 ≤ b.size := by
  obtain ⟨unsigned, hunsigned, -⟩ := Option.map_eq_some_iff.mp h
  obtain ⟨word, hword, -⟩ := Option.map_eq_some_iff.mp hunsigned
  exact le_size_of_word? hword

/-- **Distances fit at low positions**: a signed word of four bytes cannot make up for the rest. -/
theorem distanceFits_of_le {pos : Nat} (h : pos + 2 ^ 31 ≤ maxLength) : DistanceFits b pos := by
  intro back _
  have hlow := back.le_toInt
  unfold maxLength at *
  omega

/-- **All distances fit in a buffer that ends within their reach**, for no word can be read higher up. -/
theorem distanceFits_of_size_le (hb : b.size ≤ reach) (pos : Nat) : DistanceFits b pos := by
  intro back hback
  have hend := le_size_of_int32? hback
  unfold reach at hb
  exact distanceFits_of_le (by unfold maxLength; omega) back hback

/-- A stored word is below the capacity of its width. -/
theorem lt_of_word? {width pos n : Nat} (h : b.word? width pos = some n) :
    n < LittleEndian.capacity width := by
  have hsize := le_size_of_word? h
  rw [Buffer.word?, b.slice?_eq_some hsize, Option.map_some, Option.some_inj] at h
  have hlt := LittleEndian.decode_lt ((b.toList.drop pos).take width)
  rwa [List.length_take_of_le (by rw [List.length_drop, b.length_toList]; omega), h] at hlt

/-- A four-byte word is kept in a longer one. -/
theorem toNat_uint32 {pos n : Nat} (h : b.word? 4 pos = some n) :
    (UInt32.ofNat n).toUInt64.toNat = n := by
  have hlt : n < 2 ^ 32 := lt_of_word? h
  rw [UInt32.toNat_toUInt64, UInt32.toNat_ofNat', Nat.mod_eq_of_lt hlt]

/-- A four-byte word that is zero where none can be read. -/
theorem toNat_getD_uint32? (hb : b.size ≤ maxLength) (pos : UInt64) :
    ((uint32? b pos).getD 0).toNat = (b.word? 4 pos.toNat).getD 0 := by
  rw [uint32?_eq hb, Buffer.uint32?]
  cases hword : b.word? 4 pos.toNat with
  | none => rfl
  | some n => exact (UInt32.toNat_toUInt64 _).symm.trans (toNat_uint32 hword)

/-- **The same offsets are followed**, to positions inside the buffer. -/
theorem follow?_eq (hb : b.size ≤ maxLength) (pos : UInt64) :
    (follow? b pos).map UInt64.toNat = b.follow? pos.toNat := by
  rw [follow?, uint32?_eq hb, Buffer.uint32?, Buffer.follow?]
  cases hword : b.word? 4 pos.toNat with
  | none => rfl
  | some n =>
    have hn := toNat_uint32 hword
    rw [Option.map_some]
    dsimp only
    cases hsum : add? pos (UInt32.ofNat n).toUInt64 with
    | none =>
      rw [add?_eq_none_iff, hn] at hsum
      unfold maxLength at hb
      rw [if_neg (by omega)]
      rfl
    | some target =>
      have htarget := toNat_of_add? hsum
      rw [hn] at htarget
      simp only [UInt64.lt_iff_toNat_lt, toNat_length hb, htarget]
      split
      · rw [Option.map_some, htarget]
      · rfl

/-- **The same strings are read.** The sum is taken only after a word was read. -/
theorem string?_eq (hb : b.size ≤ maxLength) (pos : UInt64) :
    string? b pos = .ok (b.string? pos.toNat) := by
  rw [string?, uint32?_eq hb, Buffer.uint32?, Buffer.string?]
  cases hword : b.word? 4 pos.toNat with
  | none => rfl
  | some n =>
    have hend := le_size_of_word? hword
    unfold maxLength at hb
    have hfour : (4 : UInt64).toNat = 4 := rfl
    obtain ⟨hsum, hstart⟩ := add_of_lt (show pos.toNat + (4 : UInt64).toNat < 2 ^ 64 by omega)
    rw [Option.map_some]
    dsimp only
    rw [hsum]
    show Except.ok ((slice? b (pos + 4) (UInt32.ofNat n).toUInt64).map Utf8.decode) = _
    rw [slice?_eq hb, hstart, toNat_uint32 hword]
    rfl

end InterfaceSchema.Machine
