/-!
# UTF-8 with replacement

Names and documentation are stored as UTF-8, and a buffer may hold bytes that are not. Reading never
fails: each **maximal ill-formed part** – the longest run of bytes that begins a well-formed sequence and
is cut short, or a single byte that begins none – is read as one replacement character U+FFFD.

`encode` is the UTF-8 form of a text. `decode` reads one scalar value at a time: `sequence` looks at the
first byte, says how many continuation bytes it owes and which values the first of them may have (the
second byte is where overlong forms, surrogates and values above U+10FFFF are refused), and the rest is
taken byte by byte.
-/

namespace InterfaceSchema.Utf8

/-- The UTF-8 bytes of a text. -/
def encode (text : String) : List UInt8 := text.toList.flatMap String.utf8EncodeChar

/-- U+FFFD, which stands for an ill-formed part. -/
def replacement : Char := '\uFFFD'

/-- Whether a byte continues a sequence: `10xxxxxx`. -/
def isContinuation (byte : UInt8) : Bool := 0x80 ≤ byte && byte ≤ 0xBF

/-- **What a first byte promises**: how many continuation bytes follow, the range of the first of them,
and the bits that the first byte itself contributes. -/
structure Lead where
  /-- Continuation bytes owed. -/
  owed : Nat
  /-- The least value of the second byte. -/
  low : UInt8
  /-- The greatest value of the second byte. -/
  high : UInt8
  /-- The value bits of the first byte. -/
  bits : Nat

/-- **The first bytes of multi-byte sequences.** `C0`, `C1` and `F5` to `FF` begin nothing; after `E0` and
`F0` the second byte must be large enough for the form not to be overlong; after `ED` it must not reach
the surrogates, and after `F4` it must not pass U+10FFFF. -/
def lead? (byte : UInt8) : Option Lead :=
  if 0xC2 ≤ byte && byte ≤ 0xDF then some ⟨1, 0x80, 0xBF, byte.toNat % 0x20⟩
  else if byte == 0xE0 then some ⟨2, 0xA0, 0xBF, 0⟩
  else if byte == 0xED then some ⟨2, 0x80, 0x9F, 0xD⟩
  else if 0xE1 ≤ byte && byte ≤ 0xEF then some ⟨2, 0x80, 0xBF, byte.toNat % 0x10⟩
  else if byte == 0xF0 then some ⟨3, 0x90, 0xBF, 0⟩
  else if 0xF1 ≤ byte && byte ≤ 0xF3 then some ⟨3, 0x80, 0xBF, byte.toNat % 0x08⟩
  else if byte == 0xF4 then some ⟨3, 0x80, 0x8F, 4⟩
  else none

/-- **The continuation bytes of a sequence**, given the bits read so far. The result is the scalar value,
or the replacement character where the sequence is cut short, with the bytes that are left: the byte
that cuts a sequence short is not part of it. -/
def continuation : (owed : Nat) → (bits : Nat) → List UInt8 → Char × List UInt8
  | 0, bits, bytes => (Char.ofNat bits, bytes)
  | _ + 1, _, [] => (replacement, [])
  | owed + 1, bits, byte :: rest =>
    if isContinuation byte then continuation owed (bits * 64 + byte.toNat % 64) rest
    else (replacement, byte :: rest)

/-- **One character from the bytes after its first byte.** -/
def sequence (first : UInt8) (bytes : List UInt8) : Char × List UInt8 :=
  if first < 0x80 then (Char.ofNat first.toNat, bytes)
  else
    match lead? first, bytes with
    | none, _ => (replacement, bytes)
    | some _, [] => (replacement, [])
    | some lead, second :: rest =>
      if lead.low ≤ second && second ≤ lead.high then
        continuation (lead.owed - 1) (lead.bits * 64 + second.toNat % 64) rest
      else (replacement, second :: rest)

/-- Continuation bytes are only consumed. -/
theorem length_continuation_le (owed bits : Nat) (bytes : List UInt8) :
    (continuation owed bits bytes).2.length ≤ bytes.length := by
  induction owed generalizing bits bytes with
  | zero => simp [continuation]
  | succ owed ih =>
    cases bytes with
    | nil => simp [continuation]
    | cons byte rest =>
      rw [continuation]
      split
      · exact Nat.le_succ_of_le (ih _ rest)
      · exact Nat.le_refl _

/-- A character takes its first byte and perhaps more. -/
theorem length_sequence_le (first : UInt8) (bytes : List UInt8) :
    (sequence first bytes).2.length ≤ bytes.length := by
  unfold sequence
  split
  · exact Nat.le_refl _
  · split
    · exact Nat.le_refl _
    · exact Nat.le_refl _
    · split
      · exact Nat.le_succ_of_le (length_continuation_le _ _ _)
      · exact Nat.le_refl _

/-- **The characters of a list of bytes**, each ill-formed part as one U+FFFD. -/
def decodeChars : List UInt8 → List Char
  | [] => []
  | first :: rest => (sequence first rest).1 :: decodeChars (sequence first rest).2
  termination_by bytes => bytes.length
  decreasing_by exact Nat.lt_succ_of_le (length_sequence_le first rest)

/-- **The text of a list of bytes**, each ill-formed part as one U+FFFD. -/
def decode (bytes : List UInt8) : String := String.ofList (decodeChars bytes)

end InterfaceSchema.Utf8
