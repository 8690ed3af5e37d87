import InterfaceSchema.OffsetVector

/-!
# Tables

A table is a record whose fields are found through an index, its **vtable**. At the table's position
stands a signed word, the distance *back* to the vtable, which may therefore lie on either side. The
vtable holds its own size, the size of the table, and one two-byte entry per **slot**: the distance from
the table's position to the field, or zero when the field was not written. A slot past the end of the
vtable is a field that was not written either, so old readers and new schemas agree.

A table that cannot be bound is read all the same: it is **detached**, it stands nowhere, and all of its
slots are absent. That makes decoding total – an offset that leads nowhere decodes to a table of defaults
– and leaves it to the reader of a slot to say what absence means.
-/

namespace InterfaceSchema

/-- **A table in a buffer**, by its position; a detached table has none. -/
structure Table where
  /-- The buffer that holds the table. -/
  buffer : Buffer
  /-- Where the table stands, `none` when it is detached. -/
  pos : Option Nat

namespace Table

/-- The table that stands nowhere. -/
def detached (b : Buffer) : Table := ⟨b, none⟩

/-! ## Finding a field -/

/-- **The position of the vtable**: the table's position less the signed word stored there. The
difference is taken exactly, and a vtable before the start of the buffer is none. -/
def vtable? (t : Table) : Option Nat :=
  match t.pos with
  | none => none
  | some pos =>
    match t.buffer.int32? pos with
    | none => none
    | some back =>
      let vtable := (pos : Int) - back.toInt
      if 0 ≤ vtable then some vtable.toNat else none

/-- **The table at `pos`**, if its first word and the two size words of its vtable are inside the
buffer. -/
def bind? (b : Buffer) (pos : Nat) : Option Table :=
  let t : Table := ⟨b, some pos⟩
  match t.vtable? with
  | none => none
  | some vtable => if (b.uint16? (vtable + 2)).isSome then some t else none

/-- **The table an offset word leads to**, detached where it leads to none. -/
def follow (b : Buffer) (pos : Nat) : Table :=
  match b.follow? pos with
  | none => detached b
  | some target => (bind? b target).getD (detached b)

/-- **The position of the field in a slot**, `none` when the slot is past the end of the vtable or its
entry is zero. -/
def field? (t : Table) (slot : Nat) : Option Nat :=
  match t.pos, t.vtable? with
  | some pos, some vtable =>
    let entry := 4 + 2 * slot
    match t.buffer.uint16? vtable with
    | none => none
    | some size =>
      if size.toNat < entry + 2 then none
      else
        match t.buffer.uint16? (vtable + entry) with
        | none => none
        | some distance => if distance = 0 then none else some (pos + distance.toNat)
  | _, _ => none

@[simp] theorem field?_detached (b : Buffer) (slot : Nat) : (detached b).field? slot = none := rfl

/-! ## Reading a field

Each reader takes what an absent field means. A field whose bytes cross the end of the buffer reads as
absent too. -/

/-- A truth value. -/
def bool (t : Table) (slot : Nat) (default : Bool) : Bool :=
  ((t.field? slot).bind t.buffer.bool?).getD default

/-- A signed byte. -/
def int8 (t : Table) (slot : Nat) (default : Int8) : Int8 :=
  ((t.field? slot).bind t.buffer.int8?).getD default

/-- An unsigned two-byte word. -/
def uint16 (t : Table) (slot : Nat) (default : UInt16) : UInt16 :=
  ((t.field? slot).bind t.buffer.uint16?).getD default

/-- A signed four-byte word. -/
def int32 (t : Table) (slot : Nat) (default : Int32) : Int32 :=
  ((t.field? slot).bind t.buffer.int32?).getD default

/-- A signed eight-byte word. -/
def int64 (t : Table) (slot : Nat) (default : Int64) : Int64 :=
  ((t.field? slot).bind t.buffer.int64?).getD default

/-- A real, by its 64 bits. -/
def real (t : Table) (slot : Nat) (default : UInt64) : UInt64 :=
  ((t.field? slot).bind t.buffer.real?).getD default

/-- A string, `none` when it is absent. -/
def string? (t : Table) (slot : Nat) : Option String :=
  ((t.field? slot).bind t.buffer.follow?).bind t.buffer.string?

/-- A string, empty when it is absent. -/
def string (t : Table) (slot : Nat) : String := (t.string? slot).getD ""

/-- A table inside this one, `none` when it is absent or cannot be bound. -/
def table? (t : Table) (slot : Nat) : Option Table :=
  ((t.field? slot).bind t.buffer.follow?).bind (bind? t.buffer)

/-- A vector, empty when it is absent. -/
def vector (t : Table) (slot : Nat) : OffsetVector :=
  match (t.field? slot).bind t.buffer.follow? with
  | none => .empty t.buffer
  | some target => .atPos t.buffer target

/-- The tables of a vector. -/
def tables (t : Table) (slot : Nat) : List Table := (t.vector slot).toList follow

/-- **The string an offset word leads to**, empty where it leads to none. -/
def followString (b : Buffer) (pos : Nat) : String := ((b.follow? pos).bind b.string?).getD ""

/-- The strings of a vector. -/
def strings (t : Table) (slot : Nat) : List String := (t.vector slot).toList followString

end Table

end InterfaceSchema
