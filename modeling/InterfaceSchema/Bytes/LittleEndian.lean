/-!
# Little-endian words

Every number in a reflection buffer is stored least significant byte first: vtable entries in two bytes,
offsets and lengths in four, enum values and reals in eight. One pair of maps serves all widths, so that
what holds of a word is proved once and read off at each width.

`encode w n` is the low `w` bytes of `n` and drops what does not fit, which is how a longer count is
stored in a narrower word. `decode` reads a whole list of bytes. A word of `w` bytes holds `capacity w`
numbers: `decode_encode` says that the two undo each other below that, and `decode_lt` that what is read
from a word is below it.
-/

namespace InterfaceSchema.LittleEndian

/-- **The low `width` bytes of a number**, least significant first. -/
def encode : (width : Nat) → (value : Nat) → List UInt8
  | 0, _ => []
  | width + 1, value => UInt8.ofNat (value % 256) :: encode width (value / 256)

/-- **The number a list of bytes stores**, least significant byte first. -/
def decode : List UInt8 → Nat
  | [] => 0
  | byte :: rest => byte.toNat + 256 * decode rest

/-- **How many numbers a word holds**: 256 for each byte, multiplied. -/
def capacity : (width : Nat) → Nat
  | 0 => 1
  | width + 1 => 256 * capacity width

@[simp] theorem encode_zero (value : Nat) : encode 0 value = [] := rfl

@[simp] theorem decode_nil : decode [] = 0 := rfl

@[simp] theorem decode_cons (byte : UInt8) (rest : List UInt8) :
    decode (byte :: rest) = byte.toNat + 256 * decode rest := rfl

/-- A word takes exactly its width. -/
@[simp] theorem length_encode (width value : Nat) : (encode width value).length = width := by
  induction width generalizing value with
  | zero => rfl
  | succ width ih => simp [encode, ih]

/-- Words in a row take their width each. -/
@[simp] theorem length_flatMap_encode (width : Nat) (values : List Nat) :
    (values.flatMap (encode width)).length = width * values.length := by
  induction values with
  | nil => rfl
  | cons value values ih =>
    rw [List.flatMap_cons, List.length_append, ih, length_encode, List.length_cons, Nat.mul_succ]
    exact Nat.add_comm _ _

/-- **Storing keeps the low bytes**: what is read back is the number modulo the capacity of its word. -/
theorem decode_encode (width value : Nat) :
    decode (encode width value) = value % capacity width := by
  induction width generalizing value with
  | zero => simp [encode, capacity, Nat.mod_one]
  | succ width ih =>
    have hbyte : (UInt8.ofNat (value % 256)).toNat = value % 256 := by
      simp [UInt8.toNat_ofNat']
    rw [encode, decode_cons, ih, hbyte, capacity, Nat.mod_mul]

/-- What is read from a word is below the word's capacity. -/
theorem decode_lt (bytes : List UInt8) : decode bytes < capacity bytes.length := by
  induction bytes with
  | nil => simp [capacity]
  | cons byte rest ih =>
    have hbyte : byte.toNat < 256 := byte.toNat_lt
    rw [decode_cons, List.length_cons, capacity]
    omega

end InterfaceSchema.LittleEndian
