import InterfaceSchema.Bytes.Utf8
import Mathlib.Data.Char
import Mathlib.Data.List.Lex

/-!
# UTF-8 keeps texts and their order

The bytes of a text determine it: reading them back gives the text (`Utf8.decode_encode`), since the
first byte of a character promises exactly the continuation bytes that `Utf8.encode` writes for it, and
none of the forms that the reader refuses – overlong ones, surrogates, values above U+10FFFF – is ever
written.

They also keep its place in the order of texts (`Utf8.encode_lt_encode`): comparing names by code points
is comparing their bytes. A character that is longer than another has the greater first byte, and among
characters of one length the bytes are the digits of the code, most significant first.
-/

namespace InterfaceSchema.Utf8

/-! ## Reading one character -/

/-- A number below 256 is the number of its byte. -/
theorem toNat_ofNat_of_lt {n : Nat} (h : n < 256) : (UInt8.ofNat n).toNat = n := by
  rw [UInt8.toNat_ofNat', Nat.mod_eq_of_lt h]

/-- The first bytes of multi-byte sequences, by their numbers. -/
theorem lead?_eq (byte : UInt8) :
    lead? byte =
      if 0xC2 ≤ byte.toNat ∧ byte.toNat ≤ 0xDF then some ⟨1, 0x80, 0xBF, byte.toNat % 0x20⟩
      else if byte.toNat = 0xE0 then some ⟨2, 0xA0, 0xBF, 0⟩
      else if byte.toNat = 0xED then some ⟨2, 0x80, 0x9F, 0xD⟩
      else if 0xE1 ≤ byte.toNat ∧ byte.toNat ≤ 0xEF then some ⟨2, 0x80, 0xBF, byte.toNat % 0x10⟩
      else if byte.toNat = 0xF0 then some ⟨3, 0x90, 0xBF, 0⟩
      else if 0xF1 ≤ byte.toNat ∧ byte.toNat ≤ 0xF3 then some ⟨3, 0x80, 0xBF, byte.toNat % 0x08⟩
      else if byte.toNat = 0xF4 then some ⟨3, 0x80, 0x8F, 4⟩
      else none := by
  simp only [lead?, UInt8.le_iff_toNat_le, Bool.and_eq_true, decide_eq_true_eq, beq_iff_eq,
    ← UInt8.toNat_inj, UInt8.reduceToNat]

/-- A sequence goes on after a second byte in the range that the first byte allows. -/
theorem sequence_cons {first second : UInt8} {lead : Lead} (hfirst : 0x80 ≤ first.toNat)
    (hlead : lead? first = some lead) (hlow : lead.low.toNat ≤ second.toNat)
    (hhigh : second.toNat ≤ lead.high.toNat) (rest : List UInt8) :
    sequence first (second :: rest)
      = continuation (lead.owed - 1) (lead.bits * 64 + second.toNat % 64) rest := by
  have hne : ¬ first < 0x80 := by
    rw [UInt8.lt_iff_toNat_lt]
    exact Nat.not_lt.mpr hfirst
  have hrange : (decide (lead.low ≤ second) && decide (second ≤ lead.high)) = true := by
    simp only [Bool.and_eq_true, decide_eq_true_eq, UInt8.le_iff_toNat_le]
    exact ⟨hlow, hhigh⟩
  unfold sequence
  rw [if_neg hne, hlead]
  simp only [hrange, if_true]

/-- A continuation byte adds its six bits. -/
theorem continuation_cons {n : Nat} (hn : n < 64) (owed bits : Nat) (rest : List UInt8) :
    continuation (owed + 1) bits (UInt8.ofNat (n + 0x80) :: rest)
      = continuation owed (bits * 64 + n) rest := by
  have hb : (UInt8.ofNat (n + 0x80)).toNat = n + 0x80 := toNat_ofNat_of_lt (by omega)
  have hcont : isContinuation (UInt8.ofNat (n + 0x80)) = true := by
    simp only [isContinuation, Bool.and_eq_true, decide_eq_true_eq, UInt8.le_iff_toNat_le, hb,
      UInt8.reduceToNat]
    omega
  rw [continuation, if_pos hcont, hb, show (n + 0x80) % 64 = n by omega]

/-- What the first byte of a three-byte character promises: the second byte is neither overlong nor a
surrogate's. -/
theorem lead?_three {n : Nat} (hlow : 0x7FF < n) (hhigh : n ≤ 0xFFFF)
    (hvalid : n < 0xD800 ∨ 0xDFFF < n) :
    ∃ lead, lead? (UInt8.ofNat (n / 4096 % 16 + 0xE0)) = some lead ∧
      lead.low.toNat ≤ n / 64 % 64 + 0x80 ∧ n / 64 % 64 + 0x80 ≤ lead.high.toNat ∧
      lead.owed = 2 ∧ lead.bits = n / 4096 := by
  rw [lead?_eq, toNat_ofNat_of_lt (by omega), if_neg (by omega)]
  by_cases h0 : n / 4096 = 0
  · exact ⟨_, if_pos (by omega), by simp only [UInt8.reduceToNat]; omega,
      by simp only [UInt8.reduceToNat]; omega, rfl, h0.symm⟩
  by_cases h13 : n / 4096 = 13
  · rw [if_neg (by omega)]
    exact ⟨_, if_pos (by omega), by simp only [UInt8.reduceToNat]; omega,
      by simp only [UInt8.reduceToNat]; omega, rfl, h13.symm⟩
  · rw [if_neg (by omega), if_neg (by omega)]
    exact ⟨_, if_pos (by omega), by simp only [UInt8.reduceToNat]; omega,
      by simp only [UInt8.reduceToNat]; omega, rfl, by simp only; omega⟩

/-- What the first byte of a four-byte character promises: the second byte is neither overlong nor above
the last code. -/
theorem lead?_four {n : Nat} (hlow : 0xFFFF < n) (hhigh : n < 0x110000) :
    ∃ lead, lead? (UInt8.ofNat (n / 262144 % 8 + 0xF0)) = some lead ∧
      lead.low.toNat ≤ n / 4096 % 64 + 0x80 ∧ n / 4096 % 64 + 0x80 ≤ lead.high.toNat ∧
      lead.owed = 3 ∧ lead.bits = n / 262144 := by
  rw [lead?_eq, toNat_ofNat_of_lt (by omega), if_neg (by omega), if_neg (by omega),
    if_neg (by omega), if_neg (by omega)]
  by_cases h0 : n / 262144 = 0
  · exact ⟨_, if_pos (by omega), by simp only [UInt8.reduceToNat]; omega,
      by simp only [UInt8.reduceToNat]; omega, rfl, h0.symm⟩
  by_cases h4 : n / 262144 = 4
  · rw [if_neg (by omega), if_neg (by omega)]
    exact ⟨_, if_pos (by omega), by simp only [UInt8.reduceToNat]; omega,
      by simp only [UInt8.reduceToNat]; omega, rfl, h4.symm⟩
  · rw [if_neg (by omega)]
    exact ⟨_, if_pos (by omega), by simp only [UInt8.reduceToNat]; omega,
      by simp only [UInt8.reduceToNat]; omega, rfl, by simp only; omega⟩

/-- A byte that continues a sequence carries one digit of six bits. -/
theorem toNat_digit (n : Nat) : (UInt8.ofNat (n % 64 + 0x80)).toNat = n % 64 + 0x80 :=
  toNat_ofNat_of_lt (by omega)

/-- A sequence of one byte. -/
theorem sequence_one {n : Nat} (h : n ≤ 0x7F) (rest : List UInt8) :
    sequence (UInt8.ofNat n) rest = (Char.ofNat n, rest) := by
  have hb := toNat_ofNat_of_lt (show n < 256 by omega)
  have hlt : UInt8.ofNat n < 0x80 := by
    rw [UInt8.lt_iff_toNat_lt, hb]
    exact Nat.lt_succ_of_le h
  unfold sequence
  rw [if_pos hlt, hb]

/-- A sequence of two bytes. -/
theorem sequence_two {n : Nat} (hlow : 0x7F < n) (h : n ≤ 0x7FF) (rest : List UInt8) :
    sequence (UInt8.ofNat (n / 64 % 0x20 + 0xC0)) (UInt8.ofNat (n % 64 + 0x80) :: rest) =
      (Char.ofNat n, rest) := by
  have hb := toNat_ofNat_of_lt (show n / 64 % 0x20 + 0xC0 < 256 by omega)
  have hlead := lead?_eq (UInt8.ofNat (n / 64 % 0x20 + 0xC0))
  rw [hb, if_pos (by omega)] at hlead
  rw [sequence_cons (by omega) hlead (by rw [toNat_digit]; simp only [UInt8.reduceToNat]; omega)
    (by rw [toNat_digit]; simp only [UInt8.reduceToNat]; omega), toNat_digit]
  have hvalue : (n / 64 % 0x20 + 0xC0) % 0x20 * 64 + (n % 64 + 0x80) % 64 = n := by omega
  simp only [Nat.sub_self, continuation, hvalue]

/-- A sequence of three bytes, of which no surrogate has one. -/
theorem sequence_three {n : Nat} (hlow : 0x7FF < n) (h : n ≤ 0xFFFF)
    (hvalid : n < 0xD800 ∨ 0xDFFF < n) (rest : List UInt8) :
    sequence (UInt8.ofNat (n / 4096 % 0x10 + 0xE0))
        (UInt8.ofNat (n / 64 % 64 + 0x80) :: UInt8.ofNat (n % 64 + 0x80) :: rest) =
      (Char.ofNat n, rest) := by
  have hb := toNat_ofNat_of_lt (show n / 4096 % 0x10 + 0xE0 < 256 by omega)
  obtain ⟨lead, hlead, hbelow, habove, howed, hbits⟩ := lead?_three (n := n) (by omega) h (by omega)
  rw [sequence_cons (by omega) hlead (by rwa [toNat_digit]) (by rwa [toNat_digit]), howed, hbits,
    toNat_digit, continuation_cons (Nat.mod_lt n (by decide))]
  have hvalue : (n / 4096 * 64 + (n / 64 % 64 + 0x80) % 64) * 64 + n % 64 = n := by omega
  simp only [continuation, hvalue]

/-- A sequence of four bytes. -/
theorem sequence_four {n : Nat} (hlow : 0xFFFF < n) (h : n < 0x110000) (rest : List UInt8) :
    sequence (UInt8.ofNat (n / 262144 % 0x08 + 0xF0))
        (UInt8.ofNat (n / 4096 % 64 + 0x80) :: UInt8.ofNat (n / 64 % 64 + 0x80) ::
          UInt8.ofNat (n % 64 + 0x80) :: rest) =
      (Char.ofNat n, rest) := by
  have hb := toNat_ofNat_of_lt (show n / 262144 % 0x08 + 0xF0 < 256 by omega)
  obtain ⟨lead, hlead, hbelow, habove, howed, hbits⟩ := lead?_four (n := n) (by omega) (by omega)
  rw [sequence_cons (by omega) hlead (by rwa [toNat_digit]) (by rwa [toNat_digit]), howed, hbits,
    toNat_digit, continuation_cons (Nat.mod_lt _ (by decide)),
    continuation_cons (Nat.mod_lt n (by decide))]
  have hvalue : ((n / 262144 * 64 + (n / 4096 % 64 + 0x80) % 64) * 64 + n / 64 % 64) * 64
      + n % 64 = n := by omega
  simp only [continuation, hvalue]

/-- **A character is read back from its bytes**, whatever follows them. -/
theorem sequence_utf8EncodeChar (c : Char) :
    ∃ first bytes, String.utf8EncodeChar c = first :: bytes ∧
      ∀ rest, sequence first (bytes ++ rest) = (c, rest) := by
  have hc : Char.ofNat c.val.toNat = c := Char.ofNat_toNat c
  have hv : c.val.toNat < 0xD800 ∨ 0xDFFF < c.val.toNat ∧ c.val.toNat < 0x110000 := c.valid
  generalize hn : c.val.toNat = n at hc hv
  unfold String.utf8EncodeChar
  simp only [hn]
  by_cases h1 : n ≤ 0x7F
  · rw [if_pos h1]
    refine ⟨_, _, rfl, fun rest => ?_⟩
    rw [List.nil_append, sequence_one h1, hc]
  rw [if_neg h1]
  by_cases h2 : n ≤ 0x7FF
  · rw [if_pos h2]
    refine ⟨_, _, rfl, fun rest => ?_⟩
    rw [List.singleton_append, sequence_two (by omega) h2, hc]
  rw [if_neg h2]
  by_cases h3 : n ≤ 0xFFFF
  · rw [if_pos h3]
    refine ⟨_, _, rfl, fun rest => ?_⟩
    rw [List.cons_append, List.singleton_append, sequence_three (by omega) h3 (by omega), hc]
  · rw [if_neg h3]
    refine ⟨_, _, rfl, fun rest => ?_⟩
    rw [List.cons_append, List.cons_append, List.singleton_append,
      sequence_four (by omega) (by omega), hc]

/-! ## Reading a text -/

/-- The characters of a text's bytes. -/
theorem decodeChars_flatMap (chars : List Char) :
    decodeChars (chars.flatMap String.utf8EncodeChar) = chars := by
  induction chars with
  | nil => rw [List.flatMap_nil, decodeChars]
  | cons c chars ih =>
    obtain ⟨first, bytes, hbytes, hread⟩ := sequence_utf8EncodeChar c
    rw [List.flatMap_cons, hbytes, List.cons_append, decodeChars, hread, ih]

/-- **Reading the bytes of a text gives the text.** -/
@[simp] theorem decode_encode (text : String) : decode (encode text) = text := by
  rw [decode, encode, decodeChars_flatMap, String.ofList_toList]

/-! ## The order of texts

Bytes are compared at the first place where they differ, so the comparison of two characters is decided
by their bytes alone, whatever follows. -/

/-- A lesser byte decides. -/
theorem cons_lt_cons_of_lt {m n : Nat} (h : m < n) (hn : n < 256) (xs ys : List UInt8) :
    UInt8.ofNat m :: xs < UInt8.ofNat n :: ys := by
  refine List.cons_lt_cons_iff.mpr (.inl ?_)
  rw [UInt8.lt_iff_toNat_lt, toNat_ofNat_of_lt (Nat.lt_trans h hn), toNat_ofNat_of_lt hn]
  exact h

/-- Equal bytes leave the decision to the rest. -/
theorem cons_lt_cons_of_le {m n : Nat} (h : m ≤ n) (hn : n < 256) {xs ys : List UInt8}
    (hrest : m = n → xs < ys) : UInt8.ofNat m :: xs < UInt8.ofNat n :: ys := by
  rcases Nat.lt_or_eq_of_le h with hlt | heq
  · exact cons_lt_cons_of_lt hlt hn xs ys
  · exact List.cons_lt_cons_iff.mpr (.inr ⟨congrArg UInt8.ofNat heq, hrest heq⟩)

/-- Two characters of two bytes: the last byte decides where the first does not. -/
theorem two_lt_two {m n : Nat} (h : m < n) (hn : n ≤ 0x7FF) (xs ys : List UInt8) :
    UInt8.ofNat (m / 64 % 0x20 + 0xC0) :: UInt8.ofNat (m % 64 + 0x80) :: xs <
      UInt8.ofNat (n / 64 % 0x20 + 0xC0) :: UInt8.ofNat (n % 64 + 0x80) :: ys := by
  refine cons_lt_cons_of_le (by omega) (by omega) fun hfirst => ?_
  have h64 : m / 64 = n / 64 := by omega
  exact cons_lt_cons_of_lt (by omega) (by omega) _ _

/-- Two characters of three bytes. -/
theorem three_lt_three {m n : Nat} (h : m < n) (hn : n ≤ 0xFFFF) (xs ys : List UInt8) :
    UInt8.ofNat (m / 4096 % 0x10 + 0xE0) :: UInt8.ofNat (m / 64 % 64 + 0x80) ::
        UInt8.ofNat (m % 64 + 0x80) :: xs <
      UInt8.ofNat (n / 4096 % 0x10 + 0xE0) :: UInt8.ofNat (n / 64 % 64 + 0x80) ::
        UInt8.ofNat (n % 64 + 0x80) :: ys := by
  refine cons_lt_cons_of_le (by omega) (by omega) fun hfirst => ?_
  have h4096 : m / 4096 = n / 4096 := by omega
  refine cons_lt_cons_of_le (by omega) (by omega) fun hsecond => ?_
  have h64 : m / 64 = n / 64 := by omega
  exact cons_lt_cons_of_lt (by omega) (by omega) _ _

/-- Two characters of four bytes. -/
theorem four_lt_four {m n : Nat} (h : m < n) (hn : n < 0x110000) (xs ys : List UInt8) :
    UInt8.ofNat (m / 262144 % 0x08 + 0xF0) :: UInt8.ofNat (m / 4096 % 64 + 0x80) ::
        UInt8.ofNat (m / 64 % 64 + 0x80) :: UInt8.ofNat (m % 64 + 0x80) :: xs <
      UInt8.ofNat (n / 262144 % 0x08 + 0xF0) :: UInt8.ofNat (n / 4096 % 64 + 0x80) ::
        UInt8.ofNat (n / 64 % 64 + 0x80) :: UInt8.ofNat (n % 64 + 0x80) :: ys := by
  refine cons_lt_cons_of_le (by omega) (by omega) fun hfirst => ?_
  have h262144 : m / 262144 = n / 262144 := by omega
  refine cons_lt_cons_of_le (by omega) (by omega) fun hsecond => ?_
  have h4096 : m / 4096 = n / 4096 := by omega
  refine cons_lt_cons_of_le (by omega) (by omega) fun hthird => ?_
  have h64 : m / 64 = n / 64 := by omega
  exact cons_lt_cons_of_lt (by omega) (by omega) _ _

/-- **The bytes of the lesser character are less** than those of the greater, whatever follows either. -/
theorem utf8EncodeChar_append_lt {c d : Char} (h : c < d) (xs ys : List UInt8) :
    String.utf8EncodeChar c ++ xs < String.utf8EncodeChar d ++ ys := by
  have hlt : c.val.toNat < d.val.toNat := h
  have hd : d.val.toNat < 0x110000 := by
    rcases d.valid with hv | hv
    · exact Nat.lt_trans hv (by decide)
    · exact hv.2
  unfold String.utf8EncodeChar
  generalize c.val.toNat = m at hlt
  generalize d.val.toNat = n at hlt hd
  simp only
  -- A shorter sequence has the lesser first byte; of two of one length the first byte that differs decides.
  by_cases n1 : n ≤ 0x7F
  · rw [if_pos (by omega : m ≤ 0x7F), if_pos n1]
    exact cons_lt_cons_of_lt hlt (by omega) _ _
  rw [if_neg n1]
  by_cases n2 : n ≤ 0x7FF
  · rw [if_pos n2]
    by_cases m1 : m ≤ 0x7F
    · rw [if_pos m1]
      exact cons_lt_cons_of_lt (by omega) (by omega) _ _
    · rw [if_neg m1, if_pos (by omega : m ≤ 0x7FF)]
      exact two_lt_two hlt n2 xs ys
  rw [if_neg n2]
  by_cases n3 : n ≤ 0xFFFF
  · rw [if_pos n3]
    by_cases m1 : m ≤ 0x7F
    · rw [if_pos m1]
      exact cons_lt_cons_of_lt (by omega) (by omega) _ _
    by_cases m2 : m ≤ 0x7FF
    · rw [if_neg m1, if_pos m2]
      exact cons_lt_cons_of_lt (by omega) (by omega) _ _
    · rw [if_neg m1, if_neg m2, if_pos (by omega : m ≤ 0xFFFF)]
      exact three_lt_three hlt n3 xs ys
  rw [if_neg n3]
  by_cases m1 : m ≤ 0x7F
  · rw [if_pos m1]
    exact cons_lt_cons_of_lt (by omega) (by omega) _ _
  by_cases m2 : m ≤ 0x7FF
  · rw [if_neg m1, if_pos m2]
    exact cons_lt_cons_of_lt (by omega) (by omega) _ _
  by_cases m3 : m ≤ 0xFFFF
  · rw [if_neg m1, if_neg m2, if_pos m3]
    exact cons_lt_cons_of_lt (by omega) (by omega) _ _
  · rw [if_neg m1, if_neg m2, if_neg m3]
    exact four_lt_four hlt hd xs ys

/-- Lists of characters are ordered as their bytes are. -/
theorem flatMap_lt_flatMap {cs ds : List Char} (h : cs < ds) :
    cs.flatMap String.utf8EncodeChar < ds.flatMap String.utf8EncodeChar := by
  induction cs generalizing ds with
  | nil =>
    cases ds with
    | nil => exact absurd h (List.lt_irrefl _)
    | cons d ds =>
      obtain ⟨first, bytes, hbytes, -⟩ := sequence_utf8EncodeChar d
      rw [List.flatMap_nil, List.flatMap_cons, hbytes]
      exact List.nil_lt_cons _ _
  | cons c cs ih =>
    cases ds with
    | nil => exact absurd h (List.not_lt_nil _)
    | cons d ds =>
      rw [List.flatMap_cons, List.flatMap_cons]
      rcases List.cons_lt_cons_iff.mp h with hlt | ⟨rfl, hlt⟩
      · exact utf8EncodeChar_append_lt hlt _ _
      · exact List.append_left_lt (ih hlt)

/-- **Texts are ordered as their bytes are.** -/
theorem encode_lt_encode {s t : String} (h : s < t) : encode s < encode t :=
  flatMap_lt_flatMap h

end InterfaceSchema.Utf8
