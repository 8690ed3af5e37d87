import InterfaceSchema.Draft
import InterfaceSchema.Proofs.Bytes.Edits
import InterfaceSchema.Proofs.Layout.Trees

/-!
# Drafts are blocks

Writing a tree front to back, with gaps that are filled afterwards, gives the block of the tree
(`SlotValue.job_lays`), **wherever it is written**: a block does not tell what stands before it.

What one step does to a draft is `Draft.Adds`: it puts bytes at the end, it opens gaps, and it puts no number
into a word that does not hold it. Steps one after the other add up (`Draft.Adds.trans`). Filling is the one
step that changes what was written, and what it needs is `Draft.Pending`: the gaps are the words that were
filled and the ones that are still open, each of them once, and no two of them share a byte. So a patch
touches its own gap, and a word that was filled goes on leading to its target.

The gaps of a row are filled from the first to the last. `Draft.fillAll?_cons` is one of them, and
`Draft.fillAll?_row` the induction along the cells: what stands before the next cell is done, what stands behind
it is as it was first written, and each block that is added comes last.
-/

namespace InterfaceSchema

open LittleEndian (encode capacity)

/-! ## Words cut to their width -/

/-- Only the part of a number that fits its word is stored. -/
theorem LittleEndian.encode_mod (width value : Nat) :
    encode width (value % capacity width) = encode width value := by
  induction width generalizing value with
  | zero => rfl
  | succ width ih =>
    rw [encode, encode, capacity, Nat.mod_mul_right_mod, Nat.mod_mul_right_div_self, ih]

theorem Datum.bytes_uint16_ofNat (value : Nat) : (Datum.uint16 (.ofNat value)).bytes = encode 2 value :=
  (congrArg (encode 2) UInt16.toNat_ofNat').trans (LittleEndian.encode_mod 2 value)

theorem Datum.bytes_uint32_ofNat (value : Nat) : (Datum.uint32 (.ofNat value)).bytes = encode 4 value :=
  (congrArg (encode 4) UInt32.toNat_ofNat').trans (LittleEndian.encode_mod 4 value)

theorem Datum.bytes_int32_ofNat (value : Nat) : (Datum.int32 (.ofNat value)).bytes = encode 4 value :=
  Datum.bytes_uint32_ofNat value

namespace Draft

variable {d d' d'' : Draft} {start word target : Nat} {words words' opened opened' : List Nat}
  {bytes bytes' : List UInt8} {fits fits' : Prop}

@[simp] theorem size_put (d : Draft) (bytes : List UInt8) : (d.put bytes).size = d.size + bytes.length :=
  Writer.size_append d.writer bytes

/-! ## Gaps -/

/-- **The gaps of a draft** from a position on: the ones that were filled, and the `words` that are open. -/
structure Pending (d : Draft) (start : Nat) (words : List Nat) : Prop where
  start_le : start ≤ d.size
  /-- Each gap is filled once or still open. -/
  perm : d.gaps.Perm (d.links.map Link.word ++ words)
  /-- No two gaps share a byte. -/
  apart : d.gaps.Pairwise fun gap later => gap + 4 ≤ later
  inside : ∀ gap ∈ d.gaps, start ≤ gap ∧ gap + 4 ≤ d.size
  /-- A word that was filled leads forward, to what was written. -/
  forward : ∀ link ∈ d.links, link.word < link.target ∧ link.target < d.size
  /-- A word that was filled holds its distance. -/
  holds : ∀ link ∈ d.links, d.writer.buffer.Holds link.word (encode 4 (link.target - link.word))

/-- Before anything is written there are no gaps. -/
theorem pending_nil (w : Writer) : (⟨w, [], [], []⟩ : Draft).Pending w.size [] where
  start_le := Nat.le_refl _
  perm := .nil
  apart := .nil
  inside := by simp
  forward := by simp
  holds := by simp

namespace Pending

/-- The order of the open gaps does not matter. -/
theorem congr_perm (h : d.Pending start words) (hperm : words.Perm words') : d.Pending start words' :=
  { h with perm := h.perm.trans (hperm.append_left _) }

/-- Notes of numbers do not matter. -/
theorem cut (h : d.Pending start words) (value limit : Nat) : (d.cut value limit).Pending start words where
  start_le := h.start_le
  perm := h.perm
  apart := h.apart
  inside := h.inside
  forward := h.forward
  holds := h.holds

/-- Bytes put at the end touch no gap. -/
theorem put (h : d.Pending start words) (bytes : List UInt8) : (d.put bytes).Pending start words where
  start_le := by rw [size_put]; exact h.start_le.trans (Nat.le_add_right _ _)
  perm := h.perm
  apart := h.apart
  inside gap hgap := by
    obtain ⟨hstart, hend⟩ := h.inside gap hgap
    rw [size_put]
    exact ⟨hstart, hend.trans (Nat.le_add_right _ _)⟩
  forward link hlink := by
    obtain ⟨hword, htarget⟩ := h.forward link hlink
    rw [size_put]
    exact ⟨hword, htarget.trans_le (Nat.le_add_right _ _)⟩
  holds link hlink := (h.holds link hlink).append bytes

/-- **A new gap is open**, and stands behind all others. -/
theorem gap (h : d.Pending start words) : d.gap.Pending start (words ++ [d.size]) := by
  have hput := h.put (Datum.uint32 0).bytes
  constructor
  case start_le => exact hput.start_le
  case perm =>
    rw [← List.append_assoc]
    exact h.perm.append_right _
  case apart =>
    refine List.pairwise_append.mpr ⟨h.apart, List.pairwise_singleton _ _, fun gap hgap last hlast => ?_⟩
    rw [List.mem_singleton.mp hlast]
    exact (h.inside gap hgap).2
  case forward => exact hput.forward
  case holds => exact hput.holds
  case inside =>
    intro gap hgap
    rcases List.mem_append.mp hgap with hgap | hgap
    · exact hput.inside gap hgap
    · rw [List.mem_singleton.mp hgap]
      refine ⟨h.start_le, ?_⟩
      show d.size + 4 ≤ (d.put (Datum.uint32 0).bytes).size
      rw [size_put]
      exact Nat.le_refl _

/-- An open gap is none of the filled ones. -/
theorem apart_of_mem_links (h : d.Pending start (word :: words)) {link : Link} (hlink : link ∈ d.links) :
    link.word + 4 ≤ word ∨ word + 4 ≤ link.word := by
  -- The order of the gaps is lost in the permutation, so being apart is made symmetric first.
  have hapart : d.gaps.Pairwise fun a b => a + 4 ≤ b ∨ b + 4 ≤ a := h.apart.imp Or.inl
  have hsplit := List.pairwise_append.mp (hapart.perm h.perm Or.symm)
  exact hsplit.2.2 link.word (List.mem_map_of_mem hlink) word List.mem_cons_self

/-- **A gap that is filled is open no more.** -/
theorem fill? (h : d.Pending start (word :: words)) (hword : word < target) (htarget : target < d.size)
    (hfill : d.fill? word target = some d') : d'.Pending start words := by
  rw [Draft.fill?, if_neg (by omega), Datum.bytes_uint32_ofNat, Option.map_eq_some_iff] at hfill
  obtain ⟨w, hpatch, rfl⟩ := hfill
  have hsize : w.size = d.size := Writer.size_patch? hpatch
  constructor
  case start_le =>
    rw [size, hsize]
    exact h.start_le
  case perm =>
    rw [List.map_append, List.append_assoc]
    exact h.perm
  case apart => exact h.apart
  case inside =>
    intro gap hgap
    rw [size, hsize]
    exact h.inside gap hgap
  case forward =>
    intro link hlink
    rw [size, hsize]
    rcases List.mem_append.mp hlink with hlink | hlink
    · exact h.forward link hlink
    · rw [List.mem_singleton.mp hlink]
      exact ⟨hword, htarget⟩
  case holds =>
    intro link hlink
    rcases List.mem_append.mp hlink with hlink | hlink
    · -- What was filled before stands elsewhere, and the patch spares it.
      refine (h.holds link hlink).patch? hpatch fun i hi hlast => ?_
      have hapart := h.apart_of_mem_links hlink
      rw [LittleEndian.length_encode] at hlast ⊢
      omega
    · rw [List.mem_singleton.mp hlink]
      exact Writer.holds_patch? hpatch

end Pending

/-! ## Steps -/

/-- **No number was cut**: each was put into a word that holds it. -/
def Exact (d : Draft) : Prop := ∀ cut ∈ d.cuts, cut.value < cut.limit

/-- **What some steps add to a draft**: bytes at the end, gaps among them, and numbers that their words hold,
if all that is written fits. -/
structure Adds (d d' : Draft) (bytes : List UInt8) (opened : List Nat) (fits : Prop) : Prop where
  writer : d'.writer = d.writer.append bytes
  pending : ∀ {start words}, d.Pending start words → d'.Pending start (words ++ opened)
  keepsExact : fits → d.Exact → d'.Exact

namespace Adds

/-- What is added makes the draft longer. -/
theorem size_eq (h : d.Adds d' bytes opened fits) : d'.size = d.size + bytes.length := by
  rw [size, h.writer]
  exact Writer.size_append d.writer bytes

/-- What is added stands behind what was there. -/
theorem toList_eq (h : d.Adds d' bytes opened fits) :
    d'.writer.toList = d.writer.toList ++ bytes := by
  rw [h.writer, Writer.toList_append]

/-- Nothing is added by nothing. -/
theorem refl (d : Draft) (fits : Prop) : d.Adds d [] [] fits where
  writer := (d.writer.append_nil).symm
  pending h := by rwa [List.append_nil]
  keepsExact _ h := h

/-- **Steps one after the other add up.** -/
theorem trans (h : d.Adds d' bytes opened fits) (h' : d'.Adds d'' bytes' opened' fits) :
    d.Adds d'' (bytes ++ bytes') (opened ++ opened') fits where
  writer := by
    rw [h'.writer, h.writer, Writer.append_append]
  pending hd := by
    rw [← List.append_assoc]
    exact h'.pending (h.pending hd)
  keepsExact hfits hd := h'.keepsExact hfits (h.keepsExact hfits hd)

/-- What fits under a weaker condition fits under a stronger one. -/
theorem mono (h : d.Adds d' bytes opened fits) (hfits : fits' → fits) : d.Adds d' bytes opened fits' :=
  { h with keepsExact := fun hfits' => h.keepsExact (hfits hfits') }

end Adds

/-- Bytes put at the end. -/
theorem adds_put (d : Draft) (bytes : List UInt8) (fits : Prop) : d.Adds (d.put bytes) bytes [] fits where
  writer := rfl
  pending h := by
    rw [List.append_nil]
    exact h.put bytes
  keepsExact _ h := h

/-- A number that its word holds. -/
theorem adds_cut (d : Draft) {value limit : Nat} (h : fits → value < limit) :
    d.Adds (d.cut value limit) [] [] fits where
  writer := (Adds.refl d fits).writer
  pending hd := by
    rw [List.append_nil]
    exact hd.cut value limit
  keepsExact hfits hd := by
    intro cut hcut
    rcases List.mem_append.mp hcut with hcut | hcut
    · exact hd cut hcut
    · rw [List.mem_singleton.mp hcut]
      exact h hfits

theorem adds_uint16 (d : Draft) {value : Nat} (h : fits → value < UInt16.size) :
    d.Adds (d.uint16 value) (encode 2 value) [] fits := by
  rw [← Datum.bytes_uint16_ofNat]
  exact (adds_cut d h).trans (adds_put _ _ _)

theorem adds_uint32 (d : Draft) {value : Nat} (h : fits → value < UInt32.size) :
    d.Adds (d.uint32 value) (encode 4 value) [] fits := by
  rw [← Datum.bytes_uint32_ofNat]
  exact (adds_cut d h).trans (adds_put _ _ _)

theorem adds_int32 (d : Draft) {value : Nat} (h : fits → value < UInt32.size / 2) :
    d.Adds (d.int32 value) (encode 4 value) [] fits := by
  rw [← Datum.bytes_int32_ofNat]
  exact (adds_cut d h).trans (adds_put _ _ _)

/-- A gap. -/
theorem adds_gap (d : Draft) (fits : Prop) : d.Adds d.gap (encode 4 0) [d.size] fits where
  writer := rfl
  pending h := h.gap
  keepsExact _ h := h

end Draft

/-! ## Gaps of a row -/

/-- **A job that lays out a block**: it adds the bytes of the block, all its gaps are filled, and it says
where the block is addressed. -/
def Job.Lays (job : Job) (block : Block) (fits : Prop) : Prop :=
  ∀ d : Draft, ∃ d', job d = some (d', d.size + block.entry) ∧
    d.Adds d' block.bytes [] (fits ∧ d.size + block.bytes.length < 2 ^ 32)

/-- A block that is laid out under a weaker condition is laid out under a stronger one. -/
theorem Job.Lays.mono {job : Job} {block : Block} {fits fits' : Prop} (h : job.Lays block fits)
    (hfits : fits' → fits) : job.Lays block fits' := fun d => by
  obtain ⟨d', hjob, hadds⟩ := h d
  exact ⟨d', hjob, hadds.mono fun hroom => ⟨hfits hroom.1, hroom.2⟩⟩

/-- **A field that is written as a cell**: its bytes stand in the row, or its job lays out the block that the
cell refers to. -/
def Field.Lays (fits : Prop) (field : Field) : Cell → Prop
  | .inline bytes => field.inline? = some bytes
  | .ref block => field.inline? = none ∧ field.job.Lays block fits

/-- A cell as it is first written, with a gap for an offset. -/
def Cell.blank : Cell → List UInt8
  | .inline bytes => bytes
  | .ref _ => encode 4 0

/-- A gap is as wide as the offset. -/
@[simp] theorem Cell.length_blank (cell : Cell) : cell.blank.length = cell.width := by
  cases cell with
  | inline bytes => rfl
  | ref block => exact LittleEndian.length_encode 4 0

@[simp] theorem Block.length_flatMap_blank (cells : List Cell) :
    (cells.flatMap Cell.blank).length = rowWidth cells := by
  induction cells with
  | nil => rfl
  | cons cell rest ih => rw [List.flatMap_cons, List.length_append, Cell.length_blank, ih, rowWidth]

/-- **The gaps of a row** that begins at a position, with what is to be written for each. -/
def Field.deferred : (pos : Nat) → List Field → List (Nat × Job)
  | _, [] => []
  | pos, field :: rest =>
    match field.inline? with
    | some bytes => deferred (pos + bytes.length) rest
    | none => (pos, field.job) :: deferred (pos + 4) rest

namespace Draft

variable {fits : Prop} {fields : List Field} {cells : List Cell}

/-- **A row is first written with a gap for each offset.** -/
theorem row_adds (h : List.Forall₂ (Field.Lays fits) fields cells) (d : Draft) :
    ∃ d', d.row fields = (d', Field.deferred d.size fields) ∧
      d.Adds d' (cells.flatMap Cell.blank) ((Field.deferred d.size fields).map Prod.fst) fits := by
  induction h generalizing d with
  | nil => exact ⟨d, rfl, .refl d fits⟩
  | @cons field cell fields cells hfield _ ih =>
    cases cell with
    | inline bytes =>
      obtain ⟨d', hrow, hadds⟩ := ih (d.put bytes)
      rw [size_put] at hrow hadds
      have hinline : field.inline? = some bytes := hfield
      refine ⟨d', ?_, ?_⟩
      · rw [row, Field.deferred, hinline]
        exact hrow
      · rw [Field.deferred, hinline]
        exact (adds_put d bytes fits).trans hadds
    | ref block =>
      obtain ⟨hinline, -⟩ := hfield
      obtain ⟨d', hrow, hadds⟩ := ih d.gap
      have hsize : d.gap.size = d.size + 4 := (adds_gap d fits).size_eq
      rw [hsize] at hrow hadds
      refine ⟨d', ?_, ?_⟩
      · rw [row, Field.deferred, hinline]
        dsimp only
        rw [hrow]
      · rw [Field.deferred, hinline]
        exact (adds_gap d fits).trans hadds

/-- **A gap is filled** with the distance to its target. -/
theorem fill?_of_toList {d : Draft} {front back : List UInt8} {target : Nat}
    (hd : d.writer.toList = front ++ (encode 4 0 ++ back)) (htarget : front.length < target) :
    ∃ d', d.fill? front.length target = some d' ∧
      d'.writer.toList = front ++ (encode 4 (target - front.length) ++ back) ∧
      (target - front.length < UInt32.size → d.Exact → d'.Exact) := by
  have hsize : d.writer.size = front.length + (4 + back.length) := by
    rw [← Writer.length_toList, hd]
    simp
  have hroom : ¬ d.writer.patch? front.length (encode 4 (target - front.length)) = none := by
    rw [Writer.patch?_eq_none_iff, LittleEndian.length_encode]
    omega
  obtain ⟨w, hpatch⟩ := Option.ne_none_iff_exists'.mp hroom
  have hfill : d.fill? front.length target = some { d.cut (target - front.length) UInt32.size with
      writer := w, links := d.links ++ [⟨front.length, target⟩] } := by
    rw [fill?, if_neg (by omega), Datum.bytes_uint32_ofNat, hpatch]
    rfl
  refine ⟨_, hfill, ?_, fun hcut => (adds_cut d fun _ : True => hcut).keepsExact trivial⟩
  · show w.toList = _
    rw [Writer.toList_patch? hpatch, hd, LittleEndian.length_encode, List.take_left, List.append_assoc,
      ← List.append_assoc, ← List.append_assoc, List.drop_left' (by simp), List.append_assoc]

/-- **One gap and its value**: the block of the value comes last, the gap leads to it, and what stands around
the gap stands there still. -/
theorem fillAll?_cons {job : Job} {block : Block} (hjob : job.Lays block fits) {d : Draft}
    {front back : List UInt8} (hd : d.writer.toList = front ++ (encode 4 0 ++ back))
    (rest : List (Nat × Job)) :
    ∃ filled : Draft, d.fillAll? ((front.length, job) :: rest) = filled.fillAll? rest ∧
      filled.writer.toList
        = front ++ (encode 4 (d.size + block.entry - front.length) ++ (back ++ block.bytes)) ∧
      (∀ {start words}, d.Pending start (front.length :: words) → filled.Pending start words) ∧
      (fits ∧ d.size + block.bytes.length < 2 ^ 32 → d.Exact → filled.Exact) := by
  have hentry := block.entry_lt
  have hsize : d.size = front.length + (4 + back.length) := by
    rw [size, ← Writer.length_toList, hd]
    simp
  obtain ⟨laid, hlaid, hadds⟩ := hjob d
  have hlaidSize := hadds.size_eq
  have hopen : laid.writer.toList = front ++ (encode 4 0 ++ (back ++ block.bytes)) := by
    rw [hadds.toList_eq, hd]
    simp
  obtain ⟨filled, hfill, hlist, hexact⟩ :=
    fill?_of_toList hopen (show front.length < d.size + block.entry by omega)
  refine ⟨filled, ?_, hlist, fun hp => ?_, fun hfits he => hexact ?_ (hadds.keepsExact hfits he)⟩
  · rw [fillAll?, hlaid]
    show ((laid.fill? _ _).bind fun filled => filled.fillAll? rest) = _
    rw [hfill]
    rfl
  · have hpending := hadds.pending hp
    rw [List.append_nil] at hpending
    exact hpending.fill? (by omega) (by omega) hfill
  · rw [UInt32.size]
    omega

/-- **The gaps of a row are filled** with the distances to their blocks, which come last. Of the record, which
begins at `base`, all before byte `here` is done, and the next block will start at byte `there`. -/
theorem fillAll?_row (h : List.Forall₂ (Field.Lays fits) fields cells) {base here there : Nat}
    {front mid : List UInt8} {d : Draft} (hfront : front.length = base + here)
    (hd : d.writer.toList = front ++ (cells.flatMap Cell.blank ++ mid)) (hthere : d.size = base + there) :
    ∃ d', d.fillAll? (Field.deferred (base + here) fields) = some d' ∧
      d'.writer.toList = front ++ (Block.row here there cells ++ (mid ++ cells.flatMap Cell.body)) ∧
      (∀ {start words}, d.Pending start ((Field.deferred (base + here) fields).map Prod.fst ++ words) →
        d'.Pending start words) ∧
      (fits ∧ base + there + (cells.flatMap Cell.body).length < 2 ^ 32 → d.Exact → d'.Exact) := by
  -- A cell that is done moves to what stands in front; a block that is added, to what stands behind the row.
  induction h generalizing here there front mid d with
  | nil => exact ⟨d, rfl, by simpa [Block.row] using hd, fun hp => hp, fun _ he => he⟩
  | @cons field cell fields cells hfield _ ih =>
    cases cell with
    | inline bytes =>
      have hinline : field.inline? = some bytes := hfield
      rw [Field.deferred, hinline]
      obtain ⟨d', hfill, hlist, hpending, hexact⟩ :=
        @ih (here + bytes.length) there (front ++ bytes) mid d (by simp [hfront]; omega)
          (by simpa [Cell.blank] using hd) hthere
      rw [← Nat.add_assoc] at hfill hpending
      refine ⟨d', hfill, ?_, hpending, ?_⟩
      · rw [hlist]
        simp [Block.row, Cell.body]
      · simpa [Cell.body] using hexact
    | ref block =>
      obtain ⟨hinline, hjob⟩ := hfield
      rw [List.flatMap_cons, Cell.blank, List.append_assoc] at hd
      rw [Field.deferred, hinline, ← hfront]
      obtain ⟨filled, hcons, hlist, hpending, hexact⟩ :=
        fillAll?_cons hjob hd (Field.deferred (front.length + 4) fields)
      have hdistance : d.size + block.entry - front.length = there + block.entry - here := by omega
      rw [hdistance] at hlist
      have hsize : filled.size = d.size + block.bytes.length := by
        rw [size, ← Writer.length_toList, hlist, size, ← Writer.length_toList, hd]
        simp only [List.length_append, LittleEndian.length_encode]
        omega
      obtain ⟨d', hrest, hlist', hpending', hexact'⟩ :=
        @ih (here + 4) (there + block.bytes.length) (front ++ encode 4 (there + block.entry - here))
          (mid ++ block.bytes) filled (by simp [hfront]; omega) (by rw [hlist]; simp) (by omega)
      have hnext : base + (here + 4) = front.length + 4 := by omega
      rw [hnext] at hrest hpending'
      refine ⟨d', hcons.trans hrest, ?_, fun hp => hpending' (hpending hp), fun hfits he => ?_⟩
      · rw [hlist', Block.row, List.flatMap_cons, Cell.body]
        simp
      · rw [List.flatMap_cons, List.length_append, Cell.body] at hfits
        exact hexact' ⟨hfits.1, by omega⟩ (hexact ⟨hfits.1, by omega⟩ he)

/-- **A row with all its gaps filled** is the row of a record and the blocks of the record, behind a header of
`here` bytes that begins at `base`. -/
theorem fillAll?_record (h : List.Forall₂ (Field.Lays fits) fields cells) {base here : Nat} {d : Draft}
    (hd : d.size = base + here) :
    ∃ gapped d', d.row fields = (gapped, Field.deferred d.size fields) ∧
      gapped.fillAll? (Field.deferred d.size fields) = some d' ∧
      d.Adds d' (Block.row here (here + Block.rowWidth cells) cells ++ cells.flatMap Cell.body) []
        (fits ∧ d.size + Block.rowWidth cells + (cells.flatMap Cell.body).length < 2 ^ 32) := by
  obtain ⟨gapped, hrow, hadds⟩ := row_adds h d
  have hsize : gapped.size = base + (here + Block.rowWidth cells) := by
    rw [hadds.size_eq, Block.length_flatMap_blank, hd, Nat.add_assoc]
  obtain ⟨d', hfill, hlist, hpending, hexact⟩ :=
    fillAll?_row h (show d.writer.toList.length = base + here from hd)
      (show gapped.writer.toList = d.writer.toList ++ (cells.flatMap Cell.blank ++ []) by
        rw [hadds.toList_eq, List.append_nil]) hsize
  rw [← hd] at hfill hpending
  refine ⟨gapped, d', hrow, hfill, Writer.toList_injective ?_, fun hp => ?_, fun hfits he => ?_⟩
  · rw [hlist, Writer.toList_append, List.nil_append]
  · rw [List.append_nil]
    exact hpending ((hadds.pending hp).congr_perm List.perm_append_comm)
  · exact hexact ⟨hfits.1, by omega⟩ (hadds.keepsExact hfits.1 he)

end Draft

/-! ## Strings and vectors -/

namespace Job

variable {fits : Prop}

/-- **A string is laid out** as its block. -/
theorem lays_string (text : String) (fits : Prop) : (Job.string text).Lays (.string text) fits := fun d => by
  have hwidth : (Block.string text).bytes.length = 4 + (Utf8.encode text).length + 1 :=
    Datum.width_string text
  refine ⟨_, rfl, (Draft.adds_cut d ?_).trans (Draft.adds_put _ _ _)⟩
  rintro ⟨-, hroom⟩
  rw [UInt32.size]
  omega

/-- The gaps of a vector are those of a row that has nothing but offsets. -/
theorem row_map (items : List Job) (d : Draft) :
    (d.row (items.map fun job => ⟨0, 4, none, job⟩)).1 = items.foldl (fun d _ => d.gap) d := by
  induction items generalizing d with
  | nil => rfl
  | cons item items ih => exact ih d.gap

/-- The gaps of a vector stand four bytes apart. -/
theorem deferred_map (items : List Job) (elements next : Nat) :
    Field.deferred (elements + 4 * next) (items.map fun job => ⟨0, 4, none, job⟩)
      = (items.zipIdx next).map fun (job, i) => (elements + 4 * i, job) := by
  induction items generalizing next with
  | nil => rfl
  | cons item items ih =>
    rw [List.map_cons, Field.deferred, List.zipIdx_cons, List.map_cons, ← ih (next + 1)]
    rfl

/-- **A vector is laid out** as its block, if its items are. -/
theorem lays_vector {items : List Job} {blocks : List Block}
    (h : List.Forall₂ (fun item block => item.Lays block fits) items blocks) :
    (Job.vector items).Lays (.vector blocks) fits := fun d => by
  have hlength : items.length = blocks.length := h.length_eq
  have hfields : List.Forall₂ (Field.Lays fits) (items.map fun job => ⟨0, 4, none, job⟩)
      (blocks.map .ref) := by
    rw [List.forall₂_map_left_iff, List.forall₂_map_right_iff]
    exact h.imp fun _ _ hlays => ⟨rfl, hlays⟩
  have hbytes : (Block.vector blocks).bytes.length
      = 4 + 4 * blocks.length + ((blocks.map Cell.ref).flatMap Cell.body).length := by
    rw [Block.vector, Block.length_record, LittleEndian.length_encode, Block.rowWidth_map_ref]
  have hcount : d.Adds (d.uint32 items.length) (encode 4 blocks.length) []
      (fits ∧ d.size + (Block.vector blocks).bytes.length < 2 ^ 32) := by
    rw [← hlength]
    refine Draft.adds_uint32 d fun hroom => ?_
    rw [UInt32.size]
    omega
  have hsize : (d.uint32 items.length).size = d.size + 4 := by
    rw [hcount.size_eq, LittleEndian.length_encode]
  obtain ⟨gapped, d', hrow, hfill, hadds⟩ := Draft.fillAll?_record hfields hsize
  have hgapped := row_map items (d.uint32 items.length)
  rw [hrow] at hgapped
  have hdeferred := deferred_map items (d.uint32 items.length).size 0
  rw [Nat.mul_zero, Nat.add_zero] at hdeferred
  refine ⟨d', ?_, ?_⟩
  · show ((items.foldl (fun d _ => d.gap) (d.uint32 items.length)).fillAll? _).bind _ = _
    rw [← hgapped, ← hdeferred, hfill]
    rfl
  · have hrecord := hcount.trans (hadds.mono fun hroom => ⟨hroom.1, ?_⟩)
    · rw [← List.append_assoc] at hrecord
      show d.Adds d' (Block.record _ _) [] _
      rw [Block.record, LittleEndian.length_encode]
      exact hrecord
    · rw [hsize, Block.rowWidth_map_ref]
      omega

end Job

/-! ## Tables -/

/-- **A field that is written as a slot of a table**: it has the number of the slot, and it is written as its
cell, as wide as that. -/
def Field.LaysSlot (fits : Prop) (field : Field) (slot : Nat × Cell) : Prop :=
  field.slot = slot.1 ∧ field.width = slot.2.width ∧ field.Lays fits slot.2

namespace Draft

variable {fits : Prop} {fields : List Field} {slots : List (Nat × Cell)}

/-- **The entries of a vtable**: each slot's is where the last field of the slot stands, and what it was
before if the slot is not filled. -/
theorem fieldOffsets?_eq (h : List.Forall₂ (Field.LaysSlot fits) fields slots) {here : Nat} (hhere : 0 < here)
    {offsets : List UInt16} (hslots : ∀ slot ∈ slots.map Prod.fst, slot < offsets.length) (d : Draft) :
    ∃ d' entries,
      d.fieldOffsets? fields here offsets = some (d', entries, here + Block.rowWidth (slots.map Prod.snd)) ∧
      (∀ slot, entries[slot]? = if Block.fieldOffset slot here slots = 0 then offsets[slot]?
        else if slot < offsets.length then some (.ofNat (Block.fieldOffset slot here slots)) else none) ∧
      d.Adds d' [] [] (here + Block.rowWidth (slots.map Prod.snd) < UInt16.size) := by
  induction h generalizing here offsets d with
  | nil => exact ⟨d, offsets, rfl, fun slot => rfl, .refl d _⟩
  | @cons field slot fields slots hfield _ ih =>
    obtain ⟨hslot, hwidth, -⟩ := hfield
    rw [List.map_cons, List.forall_mem_cons] at hslots
    obtain ⟨d', entries, heq, hentries, hadds⟩ :=
      @ih (here + slot.2.width) (by omega) (offsets.set slot.1 (.ofNat here))
        (by rw [List.length_set]; exact hslots.2) (d.cut here UInt16.size)
    rw [List.length_set] at hentries
    rw [List.map_cons, Block.rowWidth, ← Nat.add_assoc]
    refine ⟨d', entries, ?_, fun n => ?_, ?_⟩
    · rw [fieldOffsets?, hslot, hwidth, if_pos hslots.1]
      exact heq
    · rw [hentries, Block.fieldOffset, List.getElem?_set]
      by_cases hlater : Block.fieldOffset n (here + slot.2.width) slots = 0
      · rw [if_pos hlater, if_neg (not_not_intro hlater)]
        by_cases hn : slot.1 = n
        · subst hn
          simp only [if_true, if_pos hslots.1, if_neg hhere.ne']
        · rw [if_neg hn, if_neg hn, if_pos rfl]
      · rw [if_neg hlater, if_pos hlater, if_neg hlater]
    · exact (adds_cut d fun hsize => by omega).trans hadds

/-- The entries of a whole vtable, in words. -/
theorem flatMap_entries {entries : List UInt16} {count : Nat}
    (hentries : ∀ slot, entries[slot]? = if Block.fieldOffset slot 4 slots = 0
      then (List.replicate count (0 : UInt16))[slot]?
      else if slot < count then some (.ofNat (Block.fieldOffset slot 4 slots)) else none) :
    (entries.flatMap fun offset => (Datum.uint16 offset).bytes)
      = ((List.range count).map fun slot => Block.fieldOffset slot 4 slots).flatMap (encode 2) := by
  have hmap : entries = (List.range count).map fun slot => .ofNat (Block.fieldOffset slot 4 slots) := by
    refine List.ext_getElem? fun slot => ?_
    rw [hentries]
    by_cases hslot : slot < count
    · rw [List.getElem?_map, List.getElem?_range hslot, List.getElem?_replicate, if_pos hslot, if_pos hslot]
      by_cases hzero : Block.fieldOffset slot 4 slots = 0
      · rw [if_pos hzero, Option.map_some, hzero]
        rfl
      · rw [if_neg hzero]
        rfl
    · rw [if_neg hslot, List.getElem?_replicate, if_neg hslot, ite_self,
        List.getElem?_eq_none (by simpa using hslot)]
  rw [hmap, List.flatMap_map, List.flatMap_map]
  exact congrArg (List.flatMap · _) (funext fun slot => Datum.bytes_uint16_ofNat _)

/-- **The vtable of a table is written** behind the rest, once it is known where the fields will stand. -/
theorem exists_vtable (h : List.Forall₂ (Field.LaysSlot fits) fields slots) (d : Draft) :
    ∃ noted entries,
      d.fieldOffsets? fields 4 (List.replicate (Block.entryCount slots) 0)
        = some (noted, entries, 4 + Block.rowWidth (slots.map Prod.snd)) ∧ noted.size = d.size ∧
      d.Adds (((noted.uint16 (4 + 2 * Block.entryCount slots)).uint16
        (4 + Block.rowWidth (slots.map Prod.snd))).put
          (entries.flatMap fun offset => (Datum.uint16 offset).bytes)) (Block.vtable slots) []
        (Block.Fits slots) := by
  have hslots : ∀ slot ∈ slots.map Prod.fst,
      slot < (List.replicate (Block.entryCount slots) (0 : UInt16)).length := fun slot hslot => by
    rw [List.length_replicate]
    exact Block.lt_entryCount hslot
  obtain ⟨noted, entries, hoffsets, hentries, hnoted⟩ :=
    fieldOffsets?_eq h (show 0 < 4 by decide) hslots d
  rw [List.length_replicate] at hentries
  refine ⟨noted, entries, hoffsets, hnoted.size_eq, ?_⟩
  have hwidth : Block.Fits slots → 4 + Block.rowWidth (slots.map Prod.snd) < UInt16.size := fun hfits =>
    Nat.lt_of_le_of_lt hfits.width_le (by decide)
  rw [flatMap_entries hentries, Block.vtable]
  refine (hnoted.mono hwidth).trans ((adds_uint16 _ fun hfits => ?_).trans
    ((adds_uint16 _ hwidth).trans (adds_put _ _ _)))
  exact Nat.lt_of_le_of_lt hfits.vtableSize_le (by decide)

/-- The number of entries, counted from the fields. -/
theorem max?_slots (h : List.Forall₂ (Field.LaysSlot fits) fields slots) :
    ((fields.map fun field => field.slot + 1).max?).getD 0 = Block.entryCount slots := by
  have hfold : (fields.map fun field => field.slot + 1).foldl max 0 = Block.entryCount slots := by
    rw [Block.entryCount, List.foldl_map]
    generalize 0 = count
    induction h generalizing count with
    | nil => rfl
    | cons hfield _ ih => rw [List.foldl_cons, List.foldl_cons, ih, hfield.1]
  rw [← hfold]
  cases fields with
  | nil => rfl
  | cons field fields => rw [List.map_cons, List.max?_cons', List.foldl_cons, Nat.zero_max, Option.getD_some]

end Draft

/-- **A table is laid out** as its block, if its fields are. -/
theorem Job.lays_table {fits : Prop} {fields : List Field} {slots : List (Nat × Cell)}
    (h : List.Forall₂ (Field.LaysSlot fits) fields slots) :
    (Job.table fields).Lays (.table slots) (Block.Fits slots ∧ fits) := fun d => by
  have hcells : List.Forall₂ (Field.Lays fits) fields (slots.map Prod.snd) := by
    rw [List.forall₂_map_right_iff]
    exact h.imp fun _ _ hlays => hlays.2.2
  have hbytes : (Block.table slots).bytes.length = Block.vtableSize slots
      + (4 + Block.rowWidth (slots.map Prod.snd) + ((slots.map Prod.snd).flatMap Cell.body).length) := by
    rw [Block.table, List.length_append, Block.length_vtable, Block.length_record, LittleEndian.length_encode]
  -- The vtable, the way back to it, and the row with what it refers to are three steps that add up.
  obtain ⟨noted, entries, hoffsets, hnoted, hvtable⟩ := Draft.exists_vtable h d
  generalize hwritten : ((noted.uint16 (4 + 2 * Block.entryCount slots)).uint16
    (4 + Block.rowWidth (slots.map Prod.snd))).put _ = written at hvtable
  have hsize : written.size = d.size + Block.vtableSize slots := by
    rw [hvtable.size_eq, Block.length_vtable]
  have hback : written.Adds (written.int32 (written.size - noted.size)) (encode 4 (Block.vtableSize slots)) []
      (Block.Fits slots) := by
    have hdistance : written.size - noted.size = Block.vtableSize slots := by omega
    rw [hdistance]
    refine Draft.adds_int32 written fun hfits => ?_
    exact Nat.lt_of_le_of_lt hfits.vtableSize_le (by decide)
  have hbackSize := hback.size_eq
  obtain ⟨gapped, d', hrow, hfill, hrest⟩ := Draft.fillAll?_record hcells hback.size_eq
  refine ⟨d', ?_, ?_⟩
  · simp only [Job.table, Draft.max?_slots h]
    rw [hoffsets]
    simp only [Option.bind_eq_bind, Option.bind_some, hwritten, hrow, hfill]
    rw [hsize]
    rfl
  · show d.Adds d' (Block.vtable slots ++ Block.record _ _) [] _
    rw [Block.record, List.append_assoc]
    refine (hvtable.mono fun hroom => hroom.1.1).trans
      ((hback.mono fun hroom => hroom.1.1).trans (hrest.mono fun hroom => ⟨hroom.1.2, ?_⟩))
    rw [hbackSize, LittleEndian.length_encode]
    omega

/-! ## Trees -/

/-- The width of a cell is that of what its slot holds. -/
theorem SlotValue.inlineWidth_eq (value : SlotValue) : value.inlineWidth = value.cell.width := by
  cases value with
  | scalar datum =>
    rw [SlotValue.inlineWidth, SlotValue.cell]
    exact datum.width_eq_extent.symm
  | string text => rw [SlotValue.inlineWidth, SlotValue.cell, Cell.width]
  | strings texts => rw [SlotValue.inlineWidth, SlotValue.cell, Cell.width]
  | table slots => rw [SlotValue.inlineWidth, SlotValue.cell, Cell.width]
  | tables items => rw [SlotValue.inlineWidth, SlotValue.cell, Cell.width]

/-- A field is laid under a stronger condition, too. -/
theorem Field.LaysSlot.mono {fits fits' : Prop} {field : Field} {slot : Nat × Cell}
    (h : field.LaysSlot fits slot) (hfits : fits' → fits) : field.LaysSlot fits' slot := by
  obtain ⟨number, cell⟩ := slot
  obtain ⟨hslot, hwidth, hlays⟩ := h
  cases cell with
  | inline bytes => exact ⟨hslot, hwidth, hlays⟩
  | ref block => exact ⟨hslot, hwidth, hlays.1, hlays.2.mono hfits⟩

mutual

/-- **What a slot refers to is laid out** as its block. -/
theorem SlotValue.job_lays (value : SlotValue) (block : Block) (h : value.cell = .ref block) :
    value.job.Lays block value.Valid := by
  cases value with
  | scalar datum =>
    rw [SlotValue.cell] at h
    cases h
  | string text =>
    rw [SlotValue.cell] at h
    cases h
    rw [SlotValue.job]
    exact Job.lays_string text _
  | strings texts =>
    rw [SlotValue.cell] at h
    cases h
    rw [SlotValue.job]
    refine Job.lays_vector ?_
    rw [List.forall₂_map_left_iff, List.forall₂_map_right_iff, List.forall₂_same]
    exact fun text _ => Job.lays_string text _
  | table slots =>
    rw [SlotValue.cell] at h
    cases h
    rw [SlotValue.job]
    refine (Job.lays_table (TableTree.fields_lay slots)).mono fun hvalid => ?_
    cases hvalid with
    | table fits values => exact ⟨fits, values⟩
  | tables items =>
    rw [SlotValue.cell] at h
    cases h
    rw [SlotValue.job]
    refine (Job.lays_vector (TableTree.jobs_lay items)).mono fun hvalid => ?_
    cases hvalid with
    | tables items_valid => exact items_valid

/-- **The fields of a table are laid out** as its cells. -/
theorem TableTree.fields_lay (slots : List (Nat × SlotValue)) :
    List.Forall₂ (Field.LaysSlot (∀ entry ∈ slots, entry.2.Valid)) (TableTree.fields slots)
      (TableTree.cells slots) := by
  cases slots with
  | nil =>
    rw [TableTree.fields, TableTree.cells]
    exact .nil
  | cons entry rest =>
    obtain ⟨slot, value⟩ := entry
    rw [TableTree.fields, TableTree.cells]
    have hfield : Field.LaysSlot value.Valid ⟨slot, value.inlineWidth, value.inline?, value.job⟩
        (slot, value.cell) := by
      refine ⟨rfl, value.inlineWidth_eq, ?_⟩
      have hjob := SlotValue.job_lays value
      cases value with
      | scalar datum =>
        rw [SlotValue.cell]
        rfl
      | string text | strings texts | table slots | tables items =>
        rw [SlotValue.cell] at hjob ⊢
        exact ⟨rfl, hjob _ rfl⟩
    refine .cons (hfield.mono fun h => h _ List.mem_cons_self) ?_
    exact (TableTree.fields_lay rest).imp fun _ _ h =>
      h.mono fun h entry hentry => h entry (List.mem_cons_of_mem _ hentry)

/-- **Tables are laid out** as their blocks. -/
theorem TableTree.jobs_lay (items : List (List (Nat × SlotValue))) :
    List.Forall₂ (fun job block => Job.Lays job block (∀ item ∈ items, (SlotValue.table item).Valid))
      (TableTree.jobs items) (TableTree.blocks items) := by
  cases items with
  | nil =>
    rw [TableTree.jobs, TableTree.blocks]
    exact .nil
  | cons slots rest =>
    rw [TableTree.jobs, TableTree.blocks]
    refine .cons ((Job.lays_table (TableTree.fields_lay slots)).mono fun h => ?_) ?_
    · cases h slots List.mem_cons_self with
      | table fits values => exact ⟨fits, values⟩
    · exact (TableTree.jobs_lay rest).imp fun _ _ h =>
        h.mono fun h item hitem => h item (List.mem_cons_of_mem _ hitem)

end

/-- **Writing a tree comes to an end**, and what is written is its block, wherever it is written. -/
theorem TableTree.write_eq_place (tree : TableTree) (w : Writer) :
    ∃ d, tree.write w = some (d, (w.place tree.block).2) ∧ d.writer = (w.place tree.block).1 ∧
      Draft.Adds ⟨w, [], [], []⟩ d tree.block.bytes [] ((SlotValue.table tree).Valid ∧ d.size < 2 ^ 32) := by
  obtain ⟨d, hjob, hadds⟩ := SlotValue.job_lays (.table tree) tree.block (by rw [SlotValue.cell]; rfl)
    ⟨w, [], [], []⟩
  rw [SlotValue.job] at hjob
  rw [← hadds.size_eq] at hadds
  exact ⟨d, hjob, hadds.writer, hadds⟩

end InterfaceSchema
