import InterfaceSchema.Proofs.Json.Unambiguous

/-!
# Both texts of a value say that value

The compact text and the pretty text differ in their white space and in nothing else. Both are read by the
grammar as the value they were written from (`Json.denotes_compact`, `Json.denotes_pretty`), and since a text
says at most one value, nothing is lost in either.

The two proofs share all that the texts share: numerals, quoted strings, and the commas between elements.
What is read is told **with whatever comes after it**, for a value inside another one is followed by the
rest of that one. The induction is on the value; where elements follow each other, each is asked only to be
read up to the comma or the bracket after it (`Json.separated_intercalate`).
-/

namespace InterfaceSchema

namespace Json

/-! ## Numerals -/

/-- Digits in a row are a numeral, whatever comes after them. -/
theorem digits_append {c : Char} {digits : List Char} (h : ∀ d ∈ c :: digits, d.isDigit)
    (rest : List Char) : Digits (c :: digits ++ rest) (c :: digits) rest := by
  induction digits generalizing c with
  | nil => exact .one (h c (List.mem_singleton_self c))
  | cons d digits ih =>
    exact .more (h c List.mem_cons_self) (ih fun d hd => h d (List.mem_cons_of_mem _ hd))

/-- The digits of a number other than zero do not start with a zero. -/
theorem toDigits_eq_cons {n : Nat} (h : n ≠ 0) :
    ∃ c digits, Nat.toDigits 10 n = c :: digits ∧ c ≠ '0' := by
  induction n using Nat.strong_induction_on with
  | _ n ih =>
    by_cases hlt : n < 10
    · refine ⟨n.digitChar, [], Nat.toDigits_of_lt_base hlt, ?_⟩
      have hdigit : ∀ n < 10, n ≠ 0 → n.digitChar ≠ '0' := by decide
      exact hdigit n hlt h
    · obtain ⟨c, digits, heq, hc⟩ := ih (n / 10) (by omega) (by omega)
      refine ⟨c, digits ++ [(n % 10).digitChar], ?_, hc⟩
      rw [Nat.toDigits_of_base_le (by decide) (by omega), heq]
      rfl

/-- The digits of a number are the whole part of a numeral. -/
theorem whole_toDigits (n : Nat) (rest : List Char) :
    Whole (Nat.toDigits 10 n ++ rest) (Nat.toDigits 10 n) rest := by
  by_cases h : n = 0
  · rw [h, Nat.toDigits_zero]
    exact .zero
  · obtain ⟨c, digits, heq, hc⟩ := toDigits_eq_cons h
    have hdigits : ∀ d ∈ c :: digits, d.isDigit := fun d hd =>
      Nat.isDigit_of_mem_toDigits (by decide) (le_refl 10) (heq ▸ hd)
    rw [heq]
    exact .digits hc (digits_append hdigits rest)

/-- **A number in decimal is a numeral that amounts to it.** -/
theorem number_decimal (n : Int) (rest : List Char) :
    Number ((decimal n).toList ++ rest) n rest := by
  have hamounts : AmountsTo (decide (n < 0)) (Nat.toDigits 10 n.natAbs) [] 0 n := by
    rw [AmountsTo, List.append_nil, Nat.ofDigitChars_ten_toDigits]
    by_cases h : n < 0
    · simp [h, abs_of_neg]
    · simp [h, abs_of_nonneg (not_lt.mp h)]
  unfold decimal
  rw [Nat.repr_eq_ofList_toDigits]
  by_cases h : n < 0
  · rw [decide_eq_true h] at hamounts
    have hnumber := Number.intro .minus (whole_toDigits n.natAbs rest) .none .none hamounts
    simpa [h] using hnumber
  · rw [decide_eq_false h] at hamounts
    have hnumber := Number.intro .none (whole_toDigits n.natAbs rest) .none .none hamounts
    simpa [h] using hnumber

/-! ## Strings -/

theorem codeUnit_hexDigits {code : Nat} (h : code < 0x10000) (rest : List Char) :
    CodeUnit (hexDigits code ++ rest) code rest := by
  have hdigit : ∀ n < 16, n.digitChar.toLower = n.digitChar := by decide
  have hhex : ∀ n, IsHexDigit (n % 16).digitChar (n % 16) := fun n =>
    ⟨Nat.mod_lt _ (by decide), hdigit _ (Nat.mod_lt _ (by decide))⟩
  have hcode : 4096 * (code / 4096 % 16) + 256 * (code / 256 % 16) + 16 * (code / 16 % 16) + code % 16
      = code := by omega
  have hunit : CodeUnit (hexDigits code ++ rest) _ rest :=
    .intro (hhex (code / 4096)) (hhex (code / 256)) (hhex (code / 16)) (hhex code)
  rwa [hcode] at hunit

/-- **What a character is written as**: a short escape, the escape of a control character, or itself. -/
theorem escape_cases (c : Char) :
    (∃ mark, escape c = ['\\', mark] ∧ (mark, c) ∈ shortEscapes) ∨
      (c.toNat < 0x20 ∧ escape c = '\\' :: 'u' :: hexDigits c.toNat) ∨
      (c ≠ '"' ∧ c ≠ '\\' ∧ 0x20 ≤ c.toNat ∧ escape c = [c]) := by
  unfold escape
  split_ifs with hquote hbackslash hline hreturn htab hback hfeed hcontrol
  · exact .inl ⟨'"', rfl, by simp [hquote, shortEscapes]⟩
  · exact .inl ⟨'\\', rfl, by simp [hbackslash, shortEscapes]⟩
  · exact .inl ⟨'n', rfl, by simp [hline, shortEscapes]⟩
  · exact .inl ⟨'r', rfl, by simp [hreturn, shortEscapes]⟩
  · exact .inl ⟨'t', rfl, by simp [htab, shortEscapes]⟩
  · exact .inl ⟨'b', rfl, by simp [hback, shortEscapes]⟩
  · exact .inl ⟨'f', rfl, by simp [hfeed, shortEscapes]⟩
  · exact .inr (.inl ⟨hcontrol, rfl⟩)
  · exact .inr (.inr ⟨hquote, hbackslash, not_lt.mp hcontrol, rfl⟩)

/-- **A character inside a quoted string is read as itself.** -/
theorem character_escape (c : Char) (rest : List Char) : Character (escape c ++ rest) c rest := by
  rcases escape_cases c with ⟨mark, heq, hmem⟩ | ⟨hcontrol, heq⟩ | ⟨hquote, hbackslash, hplain, heq⟩
  · rw [heq]
    exact .short hmem
  · rw [heq]
    exact .unit (codeUnit_hexDigits (by omega) rest)
  · rw [heq]
    exact .plain hquote hbackslash hplain

theorem characters_escape (chars rest : List Char) :
    Characters (chars.flatMap escape ++ '"' :: rest) chars rest := by
  induction chars with
  | nil => exact .close
  | cons c chars ih =>
    rw [List.flatMap_cons, List.append_assoc]
    exact .more (character_escape c _) ih

/-- A quoted string is a string after its quotation mark. -/
theorem exists_characters_quote (text : String) (rest : List Char) :
    ∃ input, (quote text).toList ++ rest = '"' :: input ∧ Characters input text.toList rest := by
  refine ⟨_, ?_, characters_escape text.toList rest⟩
  rw [quote, String.toList_ofList, List.cons_append, List.append_assoc]
  rfl

/-- **A quoted string ends where it ends**, whatever comes after it. -/
theorem quote_append_inj {text text' : String} {rest rest' : List Char}
    (h : (quote text).toList ++ rest = (quote text').toList ++ rest') : text = text' ∧ rest = rest' := by
  obtain ⟨input, heq, hchars⟩ := exists_characters_quote text rest
  obtain ⟨input', heq', hchars'⟩ := exists_characters_quote text' rest'
  rw [heq, heq', List.cons.injEq] at h
  obtain ⟨-, rfl⟩ := h
  obtain ⟨htext, hrest⟩ := hchars'.unique hchars
  exact ⟨String.toList_inj.mp htext, hrest⟩

/-- Characters are escaped to themselves, or to more of them. -/
theorem flatMap_escape_eq_or_lt (chars : List Char) :
    chars.flatMap escape = chars ∨ chars.length < (chars.flatMap escape).length := by
  induction chars with
  | nil => exact .inl rfl
  | cons c chars ih =>
    have hlength : chars.length ≤ (chars.flatMap escape).length := by
      rcases ih with heq | hlt
      · rw [heq]
      · exact hlt.le
    rw [List.flatMap_cons, List.length_append, List.length_cons]
    rcases escape_cases c with ⟨mark, heq, -⟩ | ⟨-, heq⟩ | ⟨-, -, -, heq⟩
    · right
      rw [heq, List.length_cons, List.length_singleton]
      omega
    · right
      rw [heq, List.length_cons, List.length_cons]
      omega
    · rw [heq, List.length_singleton]
      refine ih.imp (fun heq => ?_) fun hlt => by omega
      rw [heq]
      rfl

/-- **A string is quoted as it is**, between quotation marks, or as a longer text. -/
theorem quote_eq_or_lt (text : String) :
    quote text = "\"" ++ text ++ "\"" ∨ ("\"" ++ text ++ "\"").length < (quote text).length := by
  have hquote : (quote text).toList = '"' :: (text.toList.flatMap escape ++ ['"']) := by
    rw [quote, String.toList_ofList]
  have hplain : ("\"" ++ text ++ "\"").toList = '"' :: (text.toList ++ ['"']) := by
    rw [String.toList_append, String.toList_append]
    rfl
  refine (flatMap_escape_eq_or_lt text.toList).imp (fun heq => ?_) fun hlt => ?_
  · rw [← String.toList_inj, hquote, hplain, heq]
  · rw [← String.length_toList, ← String.length_toList, hquote, hplain]
    simpa using hlt

/-- **A number in decimal ends where no digit follows**, and no mark that goes on with it. -/
theorem decimal_append_inj {n n' : Int} {rest rest' : List Char} (hrest : Stops isNumeral rest)
    (hrest' : Stops isNumeral rest') (h : (decimal n).toList ++ rest = (decimal n').toList ++ rest') :
    n = n' ∧ rest = rest' :=
  (number_decimal n' rest').unique (h ▸ number_decimal n rest) hrest' hrest

/-! ## Lists of elements -/

/-- **Induction on a value**, through the elements of its arrays and the members of its objects. -/
@[elab_as_elim]
theorem induction {motive : Json → Prop} (null : motive null) (bool : ∀ value, motive (bool value))
    (number : ∀ value, motive (number value)) (string : ∀ value, motive (string value))
    (array : ∀ items, (∀ item ∈ items, motive item) → motive (array items))
    (object : ∀ members, (∀ member ∈ members, motive member.2) → motive (object members)) :
    (v : Json) → motive v
  | .null => null
  | .bool value => bool value
  | .number value => number value
  | .string value => string value
  | .array items => array items fun item _ => induction null bool number string array object item
  | .object members => object members fun (_, value) _ =>
      induction null bool number string array object value
  termination_by v => sizeOf v
  decreasing_by
    · decreasing_tactic
    · rename_i hmem
      have hlt := List.sizeOf_lt_of_mem hmem
      simp only [Prod.mk.sizeOf_spec, Json.object.sizeOf_spec] at hlt ⊢
      omega

/-- **Items separated by commas.** The last one reaches up to the closing mark. The items are the elements of an
array or the members of an object, by the two rules that either has for several of them. -/
theorem separated_intercalate {α : Type} (One : List Char → α → List Char → Prop)
    (Many : List Char → List α → List Char → Prop) (mark : Char) (text : α → List Char)
    (last : ∀ {item input rest}, One input item (mark :: rest) → Many input [item] rest)
    (more : ∀ {item items input next rest}, One input item (',' :: next) → Many next items rest →
      Many input (item :: items) rest)
    {items : List α} (h : ∀ item ∈ items, ∀ after rest, Space after rest → One (text item ++ after) item rest)
    (hne : items ≠ []) {close rest : List Char} (hclose : Space close (mark :: rest)) :
    Many ([','].intercalate (items.map text) ++ close) items rest := by
  induction items with
  | nil => exact absurd rfl hne
  | cons item items ih =>
    have hitem := h item List.mem_cons_self
    cases items with
    | nil =>
      rw [List.map_singleton, List.intercalate_singleton]
      exact last (hitem _ _ hclose)
    | cons next items =>
      rw [List.map_cons, List.intercalate_cons_of_ne_nil (by simp), List.append_assoc,
        List.append_assoc]
      exact more (hitem _ _ .none)
        (ih (fun item hitem => h item (List.mem_cons_of_mem _ hitem)) (List.cons_ne_nil _ _))

theorem elements_intercalate {text : Json → List Char} {items : List Json}
    (h : ∀ item ∈ items, ∀ after rest, Space after rest → Element (text item ++ after) item rest)
    (hne : items ≠ []) {close rest : List Char} (hclose : Space close (']' :: rest)) :
    Elements ([','].intercalate (items.map text) ++ close) items rest :=
  separated_intercalate Element Elements ']' text .last .more h hne hclose

theorem members_intercalate {text : String × Json → List Char} {members : List (String × Json)}
    (h : ∀ member ∈ members, ∀ after rest, Space after rest → Member (text member ++ after) member rest)
    (hne : members ≠ []) {close rest : List Char} (hclose : Space close ('\x7d' :: rest)) :
    Members ([','].intercalate (members.map text) ++ close) members rest :=
  separated_intercalate Member Members '\x7d' text .last .more h hne hclose

/-- **A list written with commas between its items**, as the list of their texts. -/
theorem toList_separated {α : Type} {join : List α → String} {text : α → String} (hnil : join [] = "")
    (hsingle : ∀ a, join [a] = text a)
    (hcons : ∀ a b rest, join (a :: b :: rest) = text a ++ "," ++ join (b :: rest)) (items : List α) :
    (join items).toList = [','].intercalate (items.map fun a => (text a).toList) := by
  induction items with
  | nil =>
    rw [hnil]
    rfl
  | cons a rest ih =>
    cases rest with
    | nil => rw [hsingle, List.map_singleton, List.intercalate_singleton]
    | cons b rest =>
      rw [hcons, String.toList_append, String.toList_append, ih]
      exact (List.intercalate_cons_of_ne_nil (List.cons_ne_nil _ _)).symm

/-! ## The compact text -/

/-- A member in the compact text. -/
def compactMember (member : String × Json) : String := quote member.1 ++ ":" ++ member.2.compact

theorem toList_compactItems (items : List Json) :
    (compactItems items).toList = [','].intercalate (items.map fun item => item.compact.toList) :=
  toList_separated rfl (fun _ => rfl) (fun _ _ _ => rfl) items

theorem toList_compactMembers (members : List (String × Json)) :
    (compactMembers members).toList
      = [','].intercalate (members.map fun member => (compactMember member).toList) :=
  toList_separated rfl (fun _ => rfl) (fun _ _ _ => rfl) members

/-- A quoted string is a value. -/
theorem value_quote (text : String) (rest : List Char) :
    Value ((quote text).toList ++ rest) (string text) rest := by
  obtain ⟨input, heq, hchars⟩ := exists_characters_quote text rest
  have hvalue := Value.string hchars
  rw [String.ofList_toList] at hvalue
  rwa [heq]

/-- The quoted name of a member, with a colon after it. -/
theorem name_quote {input : List Char} (name : String) (rest : List Char)
    (hspace : Space input ((quote name).toList ++ ':' :: rest)) : Name input name rest := by
  obtain ⟨quoted, heq, hchars⟩ := exists_characters_quote name (':' :: rest)
  rw [heq] at hspace
  have hname := Name.intro hspace hchars .none
  rwa [String.ofList_toList] at hname

/-- **The compact text of a value says it**, whatever comes after. -/
theorem value_compact (v : Json) (rest : List Char) : Value (v.compact.toList ++ rest) v rest := by
  induction v using Json.induction generalizing rest with
  | null => exact .null
  | bool value =>
    cases value with
    | false => exact .false
    | true => exact .true
  | number n => exact .number (number_decimal n rest)
  | string text => exact value_quote text rest
  | array items ih =>
    have hitems : ∀ item ∈ items, ∀ after rest, Space after rest →
        Element (item.compact.toList ++ after) item rest :=
      fun item hitem after rest hafter => .intro .none (ih item hitem after) hafter
    cases items with
    | nil => exact .emptyArray .none
    | cons item items =>
      have hclose : Space (']' :: rest) (']' :: rest) := .none
      have hvalue := Value.array (elements_intercalate hitems (List.cons_ne_nil _ _) hclose)
      rw [← toList_compactItems] at hvalue
      simpa [compact] using hvalue
  | object members ih =>
    have hmembers : ∀ member ∈ members, ∀ after rest, Space after rest →
        Member ((compactMember member).toList ++ after) member rest := by
      intro member hmember after rest hafter
      have hname := name_quote member.1 (member.2.compact.toList ++ after) .none
      have hvalue := Member.intro hname (.intro .none (ih member hmember after) hafter)
      simpa [compactMember] using hvalue
    cases members with
    | nil => exact .emptyObject .none
    | cons member members =>
      have hclose : Space ('\x7d' :: rest) ('\x7d' :: rest) := .none
      have hvalue := Value.object (members_intercalate hmembers (List.cons_ne_nil _ _) hclose)
      rw [← toList_compactMembers] at hvalue
      simpa [compact] using hvalue

theorem denotes_compact (v : Json) : Denotes v.compact v := by
  have hvalue := v.value_compact []
  rw [List.append_nil] at hvalue
  exact .intro .none hvalue .none

/-! ## The pretty text -/

/-- An element in the pretty text at a level. -/
def prettyItem (level : Nat) (item : Json) : String := lineStart level ++ item.prettyAt level

/-- A member in the pretty text at a level. -/
def prettyMember (level : Nat) (member : String × Json) : String :=
  lineStart level ++ quote member.1 ++ ": " ++ member.2.prettyAt level

theorem toList_prettyItems (level : Nat) (items : List Json) :
    (prettyItems level items).toList = [','].intercalate (items.map fun item => (prettyItem level item).toList) :=
  toList_separated rfl (fun _ => rfl) (fun _ _ _ => rfl) items

theorem toList_prettyMembers (level : Nat) (members : List (String × Json)) :
    (prettyMembers level members).toList
      = [','].intercalate (members.map fun member => (prettyMember level member).toList) :=
  toList_separated rfl (fun _ => rfl) (fun _ _ _ => rfl) members

/-- The start of a line is white space. -/
theorem space_lineStart (level : Nat) (rest : List Char) : Space ((lineStart level).toList ++ rest) rest := by
  rw [lineStart, String.toList_ofList]
  refine .more rfl ?_
  show Space (List.replicate (2 * level) ' ' ++ rest) rest
  induction 2 * level with
  | zero => exact .none
  | succ n ih => exact .more rfl ih

/-- **The pretty text of a value says it**, at any level and whatever comes after. -/
theorem value_prettyAt (v : Json) (level : Nat) (rest : List Char) :
    Value ((v.prettyAt level).toList ++ rest) v rest := by
  induction v using Json.induction generalizing level rest with
  | null =>
    rw [prettyAt]
    exact .null
  | bool value =>
    rw [prettyAt]
    cases value with
    | false => exact .false
    | true => exact .true
  | number n =>
    rw [prettyAt]
    exact .number (number_decimal n rest)
  | string text =>
    rw [prettyAt]
    exact value_quote text rest
  | array items ih =>
    have hitems : ∀ item ∈ items, ∀ after rest, Space after rest →
        Element ((prettyItem (level + 1) item).toList ++ after) item rest := by
      intro item hitem after rest hafter
      rw [prettyItem, String.toList_append, List.append_assoc]
      exact .intro (space_lineStart _ _) (ih item hitem (level + 1) after) hafter
    cases items with
    | nil =>
      rw [prettyAt]
      exact .emptyArray .none
    | cons item items =>
      have hvalue := Value.array
        (elements_intercalate hitems (List.cons_ne_nil _ _) (space_lineStart level (']' :: rest)))
      rw [← toList_prettyItems] at hvalue
      simpa [prettyAt] using hvalue
  | object members ih =>
    have hmembers : ∀ member ∈ members, ∀ after rest, Space after rest →
        Member ((prettyMember (level + 1) member).toList ++ after) member rest := by
      intro member hmember after rest hafter
      have hname := name_quote member.1 (' ' :: ((member.2.prettyAt (level + 1)).toList ++ after))
        (space_lineStart (level + 1) _)
      have hvalue := Member.intro hname
        (.intro (.more rfl .none) (ih member hmember (level + 1) after) hafter)
      simpa [prettyMember] using hvalue
    cases members with
    | nil =>
      rw [prettyAt]
      exact .emptyObject .none
    | cons member members =>
      have hvalue := Value.object
        (members_intercalate hmembers (List.cons_ne_nil _ _) (space_lineStart level ('\x7d' :: rest)))
      rw [← toList_prettyMembers] at hvalue
      simpa [prettyAt] using hvalue

theorem denotes_pretty (v : Json) : Denotes v.pretty v := by
  have hvalue := v.value_prettyAt 0 []
  rw [List.append_nil] at hvalue
  exact .intro .none hvalue .none

end Json

end InterfaceSchema
