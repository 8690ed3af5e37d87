import InterfaceSchema.Machine.Word
import InterfaceSchema.Schema.Declaration

/-!
# Reading in machine words

The reader of reflection buffers again, computing as a machine does: positions, lengths and indices are
words of 64 bits, and each sum, difference and product is one that may fault. What the reader of `Buffer`,
`Table` and `OffsetVector` says with natural numbers is said here operation by operation, with the checks
that are made and no others.

Two sums give up instead of faulting, where a read or an offset would pass the end of all words; the bounds
of the buffer are checked after them. Every other sum is taken as it comes, and only the checks made before
it keep it in bounds.

A table that leads nowhere stands at `nowhere`, the greatest word, where nothing can be read. That the two
readers agree, and that no fault ever arises, is proved of them in the theory of this module.
-/

namespace InterfaceSchema.Machine

/-! ## Reading -/

/-- The number of bytes. -/
def length (b : Buffer) : UInt64 := .ofNat b.size

/-- The bytes of a stretch, if the buffer holds them all. -/
def slice? (b : Buffer) (pos length : UInt64) : Option (List UInt8) :=
  match add? pos length with
  | none => none
  | some _ => b.slice? pos.toNat length.toNat

/-- The number stored in a word of a width. -/
def word? (b : Buffer) (width pos : UInt64) : Option Nat :=
  (slice? b pos width).map LittleEndian.decode

/-- An unsigned byte, read by its index. -/
def uint8? (b : Buffer) (pos : UInt64) : Option UInt8 := b.bytes[pos.toNat]?

/-- A signed byte. -/
def int8? (b : Buffer) (pos : UInt64) : Option Int8 := (uint8? b pos).map UInt8.toInt8

/-- A truth value. -/
def bool? (b : Buffer) (pos : UInt64) : Option Bool := (uint8? b pos).map (· != 0)

/-- An unsigned two-byte word. -/
def uint16? (b : Buffer) (pos : UInt64) : Option UInt16 := (word? b 2 pos).map UInt16.ofNat

/-- An unsigned four-byte word. -/
def uint32? (b : Buffer) (pos : UInt64) : Option UInt32 := (word? b 4 pos).map UInt32.ofNat

/-- A signed four-byte word. -/
def int32? (b : Buffer) (pos : UInt64) : Option Int32 := (uint32? b pos).map UInt32.toInt32

/-- A signed eight-byte word. -/
def int64? (b : Buffer) (pos : UInt64) : Option Int64 :=
  (word? b 8 pos).map fun n => (UInt64.ofNat n).toInt64

/-- The 64 bits of a real. -/
def real? (b : Buffer) (pos : UInt64) : Option UInt64 := (word? b 8 pos).map UInt64.ofNat

/-- The position an offset leads to, if it is inside the buffer. -/
def follow? (b : Buffer) (pos : UInt64) : Option UInt64 :=
  match uint32? b pos with
  | none => none
  | some distance =>
    match add? pos distance.toUInt64 with
    | none => none
    | some target => if target < length b then some target else none

/-- The string whose length word sits at a position. -/
def string? (b : Buffer) (pos : UInt64) : Checked (Option String) :=
  match uint32? b pos with
  | none => return none
  | some length => do
    let start ← add pos 4
    return (slice? b start length.toUInt64).map Utf8.decode

/-! ## Tables -/

/-- Where a table stands that leads nowhere. -/
def nowhere : UInt64 := 0xFFFFFFFFFFFFFFFF

/-- **A table in a buffer**, by the word of its position. -/
structure Table where
  buffer : Buffer
  pos : UInt64
  deriving DecidableEq

namespace Table

/-- The table that stands nowhere. -/
def detached (b : Buffer) : Table := ⟨b, nowhere⟩

/-- **The position of the vtable**: that of the table less the signed word stored there, as signed words. -/
def vtable? (t : Table) : Checked (Option UInt64) :=
  match int32? t.buffer t.pos with
  | none => return none
  | some back => do
    let vtable ← distance t.pos.toInt64 back.toInt64
    return if 0 ≤ vtable then some vtable.toUInt64 else none

/-- **The table at a position**, if its first word and the two size words of its vtable are inside the
buffer. -/
def bind? (b : Buffer) (pos : UInt64) : Checked (Option Table) := do
  let t : Table := ⟨b, pos⟩
  match ← t.vtable? with
  | none => return none
  | some vtable =>
    let size ← add vtable 2
    return if (uint16? b size).isSome then some t else none

/-- **The table an offset word leads to**, detached where it leads to none. -/
def follow (b : Buffer) (pos : UInt64) : Checked Table :=
  match follow? b pos with
  | none => return detached b
  | some target => do return (← bind? b target).getD (detached b)

/-- **The position of the field in a slot**, if the vtable has an entry for it that is not zero. -/
def field? (t : Table) (slot : UInt16) : Checked (Option UInt64) := do
  match ← t.vtable? with
  | none => return none
  | some vtable =>
    match uint16? t.buffer vtable with
    | none => return none
    | some size =>
      let entry ← add 4 (← mul 2 slot.toUInt64)
      if size.toUInt64 < (← add entry 2) then return none
      match uint16? t.buffer (← add vtable entry) with
      | none => return none
      | some distance => if distance = 0 then return none else return some (← add t.pos distance.toUInt64)

/-- **A number or truth value**, by the reader of its kind. -/
def scalar {α : Type} (read? : Buffer → UInt64 → Option α) (t : Table) (slot : UInt16) (default : α) :
    Checked α := do
  return ((← t.field? slot).bind (read? t.buffer)).getD default

/-- The position that the offset in a slot leads to. -/
def target? (t : Table) (slot : UInt16) : Checked (Option UInt64) := do
  return (← t.field? slot).bind (follow? t.buffer)

/-- A string, `none` when it is absent. -/
def string? (t : Table) (slot : UInt16) : Checked (Option String) := do
  match ← t.target? slot with
  | none => return none
  | some target => Machine.string? t.buffer target

/-- A string, empty when it is absent. -/
def string (t : Table) (slot : UInt16) : Checked String := do
  return (← t.string? slot).getD ""

/-- A table inside this one, `none` when it is absent or cannot be bound. -/
def table? (t : Table) (slot : UInt16) : Checked (Option Table) := do
  match ← t.target? slot with
  | none => return none
  | some target => bind? t.buffer target

end Table

/-- **The string an offset word leads to**, empty where it leads to none. -/
def followString (b : Buffer) (pos : UInt64) : Checked String :=
  match follow? b pos with
  | none => return ""
  | some target => do return (← string? b target).getD ""

/-! ## Vectors -/

/-- **The offset words of a vector**: where the first stands and how many there are. -/
structure Vector where
  buffer : Buffer
  start : UInt64
  length : UInt64
  deriving DecidableEq

/-- **A walk over a vector**: the elements from `next` on are still to come. -/
structure Cursor where
  vector : Vector
  next : UInt64

variable {α : Type}

namespace Vector

/-- The vector without elements. -/
def empty (b : Buffer) : Vector := ⟨b, 0, 0⟩

/-- **The vector whose length word sits at a position**, its length cut down to what the buffer holds. -/
def atPos (b : Buffer) (pos : UInt64) : Checked Vector := do
  let declared := ((uint32? b pos).getD 0).toUInt64
  let room := monus (Machine.length b) (← add pos 4) / 4
  return ⟨b, ← add pos 4, if declared ≤ room then declared else room⟩

/-- **Element `i`**, decoded from its offset word. An index past the end is a fault. -/
def get (v : Vector) (decode : Buffer → UInt64 → Checked α) (i : UInt64) : Checked α := do
  if i < v.length then decode v.buffer (← add v.start (← mul 4 i)) else throw .index

/-- A walk from the first element. -/
def cursor (v : Vector) : Cursor := ⟨v, 0⟩

end Vector

namespace Cursor

/-- How many elements are still to come. -/
def remaining (c : Cursor) : Checked UInt64 := sub c.vector.length c.next

/-- **The next element and the walk after it**; at the end nothing. -/
def step (c : Cursor) (decode : Buffer → UInt64 → Checked α) : Checked (Option α × Cursor) := do
  if c.vector.length ≤ c.next then return (none, c)
  let item ← c.vector.get decode c.next
  return (some item, { c with next := ← add c.next 1 })

/-- **A number of steps in a row**: before each how many elements are still to come, and what the step
answers. -/
def walk (decode : Buffer → UInt64 → Checked α) : Nat → Cursor → Checked (List (UInt64 × Option α))
  | 0, _ => return []
  | steps + 1, c => do
    let remaining ← c.remaining
    let (item, rest) ← c.step decode
    return (remaining, item) :: (← walk decode steps rest)

/-- **A number of steps over documentation**, whose lines are trimmed as they come. How many are still to come
is not asked. -/
def lines : Nat → Cursor → Checked (List (Option String))
  | 0, _ => return []
  | steps + 1, c => do
    let (line, rest) ← c.step followString
    return line.map trim :: (← lines steps rest)

end Cursor

/-- **All elements of a vector**, walked until there are no more. -/
def Vector.toList (v : Vector) (decode : Buffer → UInt64 → Checked α) : Checked (List α) := do
  return (← v.cursor.walk decode (v.length.toNat + 1)).filterMap Prod.snd

/-- The vector in a slot, empty when it is absent. -/
def Table.vector (t : Table) (slot : UInt16) : Checked Vector := do
  match ← t.target? slot with
  | none => return .empty t.buffer
  | some target => Vector.atPos t.buffer target

/-- The tables of a vector. -/
def Table.tables (t : Table) (slot : UInt16) : Checked (List Table) := do
  (← t.vector slot).toList follow

/-- The strings of a vector. -/
def Table.strings (t : Table) (slot : UInt16) : Checked (List String) := do
  (← t.vector slot).toList followString

end InterfaceSchema.Machine
