import InterfaceSchema.Proofs.Bytes.Stretch

/-!
# What an edit leaves alone

A stretch of bytes that stands in a buffer goes on standing there while more is written behind it, and while
patches are made elsewhere (`Buffer.Holds.append`, `Buffer.Holds.patch?`). A patch that touches no byte of a
stretch may stand on either side of it, so this is said byte by byte: `Buffer.holds_iff` takes a stretch apart
into the bytes at its positions, and a patch changes those that it covers and no others
(`Writer.getElem?_patch?`).
-/

namespace InterfaceSchema

variable {w w' : Writer} {pos i : Nat} {bytes : List UInt8}

/-- **A stretch stands at a position just when each of its bytes does.** -/
theorem Buffer.holds_iff {b : Buffer} :
    b.Holds pos bytes ↔
      pos + bytes.length ≤ b.size ∧ ∀ i < bytes.length, b.toList[pos + i]? = bytes[i]? := by
  constructor
  · intro h
    refine ⟨h.add_length_le, fun i hi => ?_⟩
    obtain ⟨before, after, rfl, hb⟩ := h
    rw [hb, List.getElem?_append_right (Nat.le_add_right _ _), Nat.add_sub_cancel_left,
      List.getElem?_append_left hi]
  · rintro ⟨hsize, hbytes⟩
    rw [← Buffer.length_toList] at hsize
    refine ⟨b.toList.take pos, b.toList.drop (pos + bytes.length), ?_, ?_⟩
    · rw [List.length_take, Nat.min_eq_left (by omega)]
    · have hstretch : (b.toList.drop pos).take bytes.length = bytes := by
        refine List.ext_getElem? fun i => ?_
        by_cases hi : i < bytes.length
        · rw [List.getElem?_take_of_lt hi, List.getElem?_drop, hbytes i hi]
        · rw [List.getElem?_eq_none (by rw [List.length_take]; omega), List.getElem?_eq_none (by omega)]
      conv_lhs => rw [← List.take_append_drop pos b.toList,
        ← List.take_append_drop bytes.length (b.toList.drop pos), hstretch, List.drop_drop]

namespace Writer

@[simp] theorem length_toList (w : Writer) : w.toList.length = w.size := rfl

@[simp] theorem toList_buffer (w : Writer) : w.buffer.toList = w.toList := rfl

@[simp] theorem size_buffer (w : Writer) : w.buffer.size = w.size := rfl

/-- What is appended adds its length. -/
@[simp] theorem size_append (w : Writer) (bytes : List UInt8) :
    (w.append bytes).size = w.size + bytes.length := by
  rw [← length_toList, toList_append, List.length_append, length_toList]

/-- A writer is the bytes that it has written. -/
theorem toList_injective (h : w.toList = w'.toList) : w = w' := congrArg Writer.mk (Array.ext' h)

/-- Nothing appended is no change. -/
@[simp] theorem append_nil (w : Writer) : w.append [] = w := toList_injective (by simp)

/-- Appending twice is appending both. -/
theorem append_append (w : Writer) (bytes bytes' : List UInt8) :
    (w.append bytes).append bytes' = w.append (bytes ++ bytes') :=
  toList_injective (by simp)

/-- A patch that is not refused has room. -/
theorem le_size_of_patch? (h : w.patch? pos bytes = some w') : pos + bytes.length ≤ w.size := by
  refine Nat.le_of_not_lt fun hlt => ?_
  rw [patch?_eq_none_iff.mpr hlt] at h
  cases h

/-- A patch does not change the length. -/
theorem size_patch? (h : w.patch? pos bytes = some w') : w'.size = w.size := by
  have hroom := le_size_of_patch? h
  rw [← length_toList, toList_patch? h, List.length_append, List.length_append, List.length_take,
    List.length_drop, length_toList]
  omega

/-- **A patch changes no byte outside its stretch.** -/
theorem getElem?_patch? (h : w.patch? pos bytes = some w') (hi : i < pos ∨ pos + bytes.length ≤ i) :
    w'.toList[i]? = w.toList[i]? := by
  have hroom := le_size_of_patch? h
  have hfirst : (w.toList.take pos).length = pos := by
    rw [List.length_take, length_toList, Nat.min_eq_left (by omega)]
  rw [toList_patch? h, List.append_assoc]
  rcases hi with hi | hi
  · rw [List.getElem?_append_left (by omega), List.getElem?_take_of_lt hi]
  · rw [List.getElem?_append_right (by omega), List.getElem?_append_right (by omega), hfirst,
      List.getElem?_drop]
    congr 1
    omega

/-- What is appended stands behind everything else. -/
theorem holds_append (w : Writer) (bytes : List UInt8) : (w.append bytes).buffer.Holds w.size bytes :=
  ⟨w.toList, [], rfl, by rw [toList_buffer, toList_append, List.append_nil]⟩

/-- What is patched stands where it is put. -/
theorem holds_patch? (h : w.patch? pos bytes = some w') : w'.buffer.Holds pos bytes := by
  have hroom := le_size_of_patch? h
  refine ⟨w.toList.take pos, w.toList.drop (pos + bytes.length), ?_, ?_⟩
  · rw [List.length_take, length_toList, Nat.min_eq_left (by omega)]
  · rw [toList_buffer, toList_patch? h, List.append_assoc]

end Writer

namespace Buffer.Holds

variable {pos' : Nat} {bytes' : List UInt8}

/-- **A stretch goes on standing** when more is appended. -/
theorem append (h : w.buffer.Holds pos bytes) (bytes' : List UInt8) :
    (w.append bytes').buffer.Holds pos bytes := by
  obtain ⟨before, after, hpos, hw⟩ := h
  refine ⟨before, after ++ bytes', hpos, ?_⟩
  rw [Writer.toList_buffer] at hw ⊢
  rw [Writer.toList_append, hw, List.append_assoc, List.append_assoc]

/-- **A stretch goes on standing** when other bytes are patched. -/
theorem patch? (h : w.buffer.Holds pos bytes) (hpatch : w.patch? pos' bytes' = some w')
    (hspared : ∀ i, pos ≤ i → i < pos + bytes.length → i < pos' ∨ pos' + bytes'.length ≤ i) :
    w'.buffer.Holds pos bytes := by
  rw [holds_iff] at h ⊢
  refine ⟨by rw [Writer.size_buffer, Writer.size_patch? hpatch]; exact h.1, fun i hi => ?_⟩
  rw [← h.2 i hi]
  exact Writer.getElem?_patch? hpatch (hspared _ (Nat.le_add_right _ _) (by omega))

end Buffer.Holds

end InterfaceSchema
