import InterfaceSchema.Proofs.Json.Texts

/-!
# The compact text is dense

The compact text of a value has no control character anywhere, since strings escape theirs, and no white
space outside its strings. To speak of what is outside, a text is read from its start, and a quotation mark
or a backslash inside a string must not be taken for one that is not. So **a stretch is dense when nothing in
it disturbs what comes after it** (`Json.Dense`): what is outside the strings of a longer text is what is
outside them in the stretch, and then in the rest.

Dense stretches put together are dense, and every value is made of them.
-/

namespace InterfaceSchema

namespace Json

/-! ## Dense stretches -/

/-- **A dense stretch of a text**: it has no control characters and, outside its strings, no white space. It
ends outside a string if it starts outside one, so what comes after it is told apart from it. -/
structure Dense (text : List Char) : Prop where
  printable : ∀ c ∈ text, 0x20 ≤ c.toNat
  outside : ∃ marks, (∀ c ∈ marks, isWhiteSpace c = false) ∧
    ∀ rest, outsideStrings (text ++ rest) = marks ++ outsideStrings rest

theorem dense_nil : Dense [] := ⟨nofun, [], nofun, fun _ => rfl⟩

theorem Dense.append {text text' : List Char} (h : Dense text) (h' : Dense text') :
    Dense (text ++ text') := by
  obtain ⟨hprintable, marks, hmarks, houtside⟩ := h
  obtain ⟨hprintable', marks', hmarks', houtside'⟩ := h'
  refine ⟨fun c hc => (List.mem_append.mp hc).elim (hprintable c) (hprintable' c), marks ++ marks',
    fun c hc => (List.mem_append.mp hc).elim (hmarks c) (hmarks' c), fun rest => ?_⟩
  rw [List.append_assoc, houtside, houtside', List.append_assoc]

/-- A dense text has no white space outside its strings. -/
theorem Dense.isWhiteSpace_eq_false {text : List Char} (h : Dense text) :
    ∀ c ∈ outsideStrings text, isWhiteSpace c = false := by
  obtain ⟨-, marks, hmarks, houtside⟩ := h
  have htext := houtside []
  rw [List.append_nil, outsideStrings, List.append_nil] at htext
  rwa [htext]

theorem outsideStrings_cons {c : Char} (h : c ≠ '"') (rest : List Char) :
    outsideStrings (c :: rest) = c :: outsideStrings rest := by
  rw [outsideStrings]
  exact h

theorem outsideAfterString_cons {c : Char} (hquote : c ≠ '"') (hbackslash : c ≠ '\\') (rest : List Char) :
    outsideAfterString (c :: rest) = outsideAfterString rest := by
  rw [outsideAfterString]
  · exact fun _ _ h _ => hbackslash h
  · exact hquote

/-- **A mark between strings**: no quotation mark, no white space and no control character. -/
def isMark (c : Char) : Bool := c != '"' && decide (0x20 ≤ c.toNat) && !isWhiteSpace c

theorem isMark_iff {c : Char} : isMark c ↔ c ≠ '"' ∧ 0x20 ≤ c.toNat ∧ isWhiteSpace c = false := by
  simp [isMark, and_assoc]

/-- Marks are dense. -/
theorem dense_of_marks {text : List Char} (h : text.all isMark) : Dense text := by
  have hmarks : ∀ c ∈ text, c ≠ '"' ∧ 0x20 ≤ c.toNat ∧ isWhiteSpace c = false :=
    fun c hc => isMark_iff.mp (List.all_eq_true.mp h c hc)
  refine ⟨fun c hc => (hmarks c hc).2.1, text, fun c hc => (hmarks c hc).2.2, fun rest => ?_⟩
  clear h
  induction text with
  | nil => rfl
  | cons c text ih =>
    rw [List.cons_append, outsideStrings_cons (hmarks c List.mem_cons_self).1,
      ih fun d hd => hmarks d (List.mem_cons_of_mem _ hd)]
    rfl

/-- Dense stretches with a comma between each two are dense. -/
theorem dense_intercalate {texts : List (List Char)} (h : ∀ text ∈ texts, Dense text) :
    Dense ([','].intercalate texts) := by
  have hcomma : Dense [','] := dense_of_marks rfl
  induction texts with
  | nil => exact dense_nil
  | cons text texts ih =>
    have htext := h text List.mem_cons_self
    cases texts with
    | nil =>
      rw [List.intercalate_singleton]
      exact htext
    | cons next texts =>
      rw [List.intercalate_cons_cons]
      exact (htext.append hcomma).append (ih fun text htext => h text (List.mem_cons_of_mem _ htext))

/-! ## Strings -/

/-- The digits of a unit are printable and end no string. -/
theorem hexDigits_plain (code : Nat) : ∀ d ∈ hexDigits code, d ≠ '"' ∧ d ≠ '\\' ∧ 0x20 ≤ d.toNat := by
  have hdigit : ∀ n < 16, n.digitChar ≠ '"' ∧ n.digitChar ≠ '\\' ∧ 0x20 ≤ n.digitChar.toNat := by decide
  intro d hd
  obtain ⟨n, hn, rfl⟩ := List.mem_map.mp hd
  refine hdigit n ?_
  simp only [List.mem_cons, List.not_mem_nil, or_false] at hn
  omega

/-- **A character inside a quoted string** is written with printable characters and does not end the
string. -/
theorem escape_inside (c : Char) : (∀ d ∈ escape c, 0x20 ≤ d.toNat) ∧
    ∀ rest, outsideAfterString (escape c ++ rest) = outsideAfterString rest := by
  rcases escape_cases c with ⟨mark, heq, hmem⟩ | ⟨-, heq⟩ | ⟨hquote, hbackslash, hplain, heq⟩
  · rw [heq]
    have hmark : ∀ entry ∈ shortEscapes, 0x20 ≤ entry.1.toNat := by decide
    refine ⟨?_, fun rest => rfl⟩
    rintro d (_ | ⟨_, _ | ⟨_, ⟨⟩⟩⟩)
    · decide
    · exact hmark _ hmem
  · rw [heq]
    have hdigits := hexDigits_plain c.toNat
    constructor
    · rintro d (_ | ⟨_, _ | ⟨_, hd⟩⟩)
      · decide
      · decide
      · exact (hdigits d hd).2.2
    · intro rest
      show outsideAfterString (hexDigits c.toNat ++ rest) = outsideAfterString rest
      generalize hexDigits c.toNat = digits at hdigits
      induction digits with
      | nil => rfl
      | cons d digits ih =>
        obtain ⟨hquote, hbackslash, -⟩ := hdigits d List.mem_cons_self
        rw [List.cons_append, outsideAfterString_cons hquote hbackslash,
          ih fun d hd => hdigits d (List.mem_cons_of_mem _ hd)]
  · rw [heq]
    refine ⟨?_, fun rest => outsideAfterString_cons hquote hbackslash rest⟩
    rintro d (_ | ⟨_, ⟨⟩⟩)
    exact hplain

/-- **A quoted string is dense**, whatever it holds. -/
theorem dense_quote (text : String) : Dense (quote text).toList := by
  have hinside : ∀ chars rest : List Char,
      outsideAfterString (chars.flatMap escape ++ '"' :: rest) = outsideStrings rest := by
    intro chars rest
    induction chars with
    | nil => rfl
    | cons c chars ih => rw [List.flatMap_cons, List.append_assoc, (escape_inside c).2, ih]
  rw [quote, String.toList_ofList]
  refine ⟨?_, [], fun _ h => absurd h List.not_mem_nil, fun rest => ?_⟩
  · intro d hd
    rw [List.mem_cons, List.mem_append, List.mem_flatMap, List.mem_singleton] at hd
    rcases hd with rfl | ⟨c, -, hd⟩ | rfl
    · decide
    · exact (escape_inside c).1 d hd
    · decide
  · rw [List.cons_append, List.append_assoc]
    exact hinside text.toList rest

/-! ## Values -/

theorem dense_decimal (n : Int) : Dense (decimal n).toList := by
  have hdigits : Dense (Nat.toDigits 10 n.natAbs) := by
    refine dense_of_marks (List.all_eq_true.mpr fun c hc => isMark_iff.mpr ?_)
    have hdigit := Nat.isDigit_of_mem_toDigits (by decide) (le_refl 10) hc
    have hrange : 48 ≤ c.toNat ∧ c.toNat ≤ 57 := by
      simpa [Char.isDigit, UInt32.le_iff_toNat_le] using hdigit
    refine ⟨?_, by omega, ?_⟩
    · rintro rfl
      revert hrange
      decide
    · simp only [isWhiteSpace, Bool.or_eq_false_iff, Bool.and_eq_false_iff, decide_eq_false_iff_not,
        beq_eq_false_iff_ne]
      omega
  unfold decimal
  rw [Nat.repr_eq_ofList_toDigits]
  split
  · rw [String.toList_append]
    have hminus : Dense "-".toList := dense_of_marks rfl
    simpa using hminus.append hdigits
  · simpa using hdigits

/-- **The compact text of a value is dense.** -/
theorem dense_compact (v : Json) : Dense v.compact.toList := by
  induction v using Json.induction with
  | null => exact dense_of_marks rfl
  | bool value =>
    cases value with
    | false => exact dense_of_marks rfl
    | true => exact dense_of_marks rfl
  | number n => exact dense_decimal n
  | string text => exact dense_quote text
  | array items ih =>
    have hitems : Dense (compactItems items).toList := by
      rw [toList_compactItems]
      exact dense_intercalate (List.forall_mem_map.mpr ih)
    have hopen : Dense "[".toList := dense_of_marks rfl
    have hclose : Dense "]".toList := dense_of_marks rfl
    rw [compact, String.toList_append, String.toList_append]
    exact (hopen.append hitems).append hclose
  | object members ih =>
    have hmembers : Dense (compactMembers members).toList := by
      rw [toList_compactMembers]
      refine dense_intercalate (List.forall_mem_map.mpr fun member hmember => ?_)
      have hcolon : Dense ":".toList := dense_of_marks rfl
      rw [compactMember, String.toList_append, String.toList_append]
      exact ((dense_quote member.1).append hcolon).append (ih member hmember)
    have hopen : Dense "\x7b".toList := dense_of_marks rfl
    have hclose : Dense "\x7d".toList := dense_of_marks rfl
    rw [compact, String.toList_append, String.toList_append]
    exact (hopen.append hmembers).append hclose

end Json

end InterfaceSchema
