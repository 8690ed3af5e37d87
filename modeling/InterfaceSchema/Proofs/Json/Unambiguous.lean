import InterfaceSchema.Json.Grammar
import Mathlib.Algebra.Order.Ring.Int

/-!
# A JSON text says at most one value

The rules of the grammar leave a choice in two places. White space and digits may stop early, and a token may
be read as the start of another. **Neither survives the token that comes next**: a run of characters ends
where the next token cannot go on with it (`Stops`), and what a value is shows in its first character. So two
readings of one input that both end before a token that goes on with neither are the same reading.

The lemmas follow the rules, one for each, with the condition on what comes after it; the last one has no
condition, since nothing comes after a whole text.
-/

namespace InterfaceSchema

namespace Json

/-- **Nothing of a kind goes on in the rest**: it is empty, or starts with a character of another kind. -/
def Stops (p : Char → Bool) (rest : List Char) : Prop := ∀ c ∈ rest.head?, p c = false

@[simp] theorem stops_nil (p : Char → Bool) : Stops p [] := nofun

@[simp] theorem stops_cons {p : Char → Bool} {c : Char} {rest : List Char} :
    Stops p (c :: rest) ↔ p c = false := by simp [Stops]

theorem Stops.imp {p q : Char → Bool} {rest : List Char} (h : Stops p rest)
    (hpq : ∀ c, p c = false → q c = false) : Stops q rest := fun c hc => hpq c (h c hc)

/-! ## White space -/

/-- White space that ends before something else is all the white space that there is. -/
theorem Space.eq_dropWhile {input rest : List Char} (h : Space input rest) (hrest : Stops isSpace rest) :
    rest = input.dropWhile isSpace := by
  induction h with
  | none =>
    rename_i rest
    cases rest with
    | nil => rfl
    | cons c rest => rw [List.dropWhile_cons, if_neg (by simpa using hrest)]
  | more hc _ ih => rw [List.dropWhile_cons, if_pos hc, ih hrest]

theorem Space.unique {input rest rest' : List Char} (h : Space input rest) (h' : Space input rest')
    (hrest : Stops isSpace rest) (hrest' : Stops isSpace rest') : rest' = rest := by
  rw [h.eq_dropWhile hrest, h'.eq_dropWhile hrest']

/-- After white space comes what was there without it, or white space. -/
theorem Space.stops {p : Char → Bool} (hp : ∀ c, isSpace c → p c = false) {input rest : List Char}
    (h : Space input rest) (hrest : Stops p rest) : Stops p input := by
  cases h with
  | none => exact hrest
  | more hc _ => exact stops_cons.mpr (hp _ hc)

/-! ## Numbers -/

/-- What can go on with a numeral. -/
def isNumeral (c : Char) : Bool := c.isDigit || c == '.' || c == 'e' || c == 'E'

theorem Digits.exists_cons {input digits rest : List Char} (h : Digits input digits rest) :
    ∃ c tail, input = c :: tail ∧ c.isDigit := by
  cases h with
  | one hc => exact ⟨_, _, rfl, hc⟩
  | more hc _ => exact ⟨_, _, rfl, hc⟩

theorem Digits.not_stops {input digits rest : List Char} (h : Digits input digits rest) :
    ¬ Stops Char.isDigit input := by
  obtain ⟨c, tail, rfl, hc⟩ := h.exists_cons
  simp [hc]

theorem Digits.unique {input digits rest digits' rest' : List Char} (h : Digits input digits rest)
    (h' : Digits input digits' rest') (hrest : Stops Char.isDigit rest)
    (hrest' : Stops Char.isDigit rest') : digits' = digits ∧ rest' = rest := by
  induction h generalizing digits' with
  | one _ =>
    cases h' with
    | one _ => exact ⟨rfl, rfl⟩
    | more _ h' => exact absurd hrest h'.not_stops
  | more _ h ih =>
    cases h' with
    | one _ => exact absurd hrest' h.not_stops
    | more _ h' =>
      obtain ⟨rfl, rfl⟩ := ih h' hrest
      exact ⟨rfl, rfl⟩

theorem Sign.unique {input rest rest' : List Char} {negative negative' : Bool}
    (h : Sign input negative rest) (h' : Sign input negative' rest')
    (hrest : Stops (· == '-') rest) (hrest' : Stops (· == '-') rest') :
    negative' = negative ∧ rest' = rest := by
  cases h with
  | none =>
    cases h' with
    | none => exact ⟨rfl, rfl⟩
    | minus => simp at hrest
  | minus =>
    cases h' with
    | none => simp at hrest'
    | minus => exact ⟨rfl, rfl⟩

theorem Whole.exists_cons {input digits rest : List Char} (h : Whole input digits rest) :
    ∃ c tail, input = c :: tail ∧ c.isDigit := by
  cases h with
  | zero => exact ⟨_, _, rfl, rfl⟩
  | digits _ h => exact h.exists_cons

theorem Whole.unique {input digits rest digits' rest' : List Char} (h : Whole input digits rest)
    (h' : Whole input digits' rest') (hrest : Stops Char.isDigit rest)
    (hrest' : Stops Char.isDigit rest') : digits' = digits ∧ rest' = rest := by
  cases h with
  | zero =>
    cases h' with
    | zero => exact ⟨rfl, rfl⟩
    | digits hc _ => exact absurd rfl hc
  | digits hc h =>
    cases h' with
    | zero => exact absurd rfl hc
    | digits _ h' => exact h.unique h' hrest hrest'

theorem Fraction.unique {input digits rest digits' rest' : List Char} (h : Fraction input digits rest)
    (h' : Fraction input digits' rest') (hrest : Stops (fun c => c.isDigit || c == '.') rest)
    (hrest' : Stops (fun c => c.isDigit || c == '.') rest') : digits' = digits ∧ rest' = rest := by
  have hdigits : ∀ rest, Stops (fun c => c.isDigit || c == '.') rest → Stops Char.isDigit rest :=
    fun _ h => h.imp fun c hc => (Bool.or_eq_false_iff.mp hc).1
  cases h with
  | none =>
    cases h' with
    | none => exact ⟨rfl, rfl⟩
    | digits _ => simp at hrest
  | digits h =>
    cases h' with
    | none => simp at hrest'
    | digits h' => exact h.unique h' (hdigits _ hrest) (hdigits _ hrest')

theorem Exponent.unique {input rest rest' : List Char} {exponent exponent' : Int}
    (h : Exponent input exponent rest) (h' : Exponent input exponent' rest')
    (hrest : Stops isNumeral rest) (hrest' : Stops isNumeral rest') :
    exponent' = exponent ∧ rest' = rest := by
  have hdigits : ∀ rest, Stops isNumeral rest → Stops Char.isDigit rest := fun _ h => h.imp fun c hc => by
    simp only [isNumeral, Bool.or_eq_false_iff] at hc
    exact hc.1.1.1
  have hmark : ∀ c, c = 'e' ∨ c = 'E' → ∀ rest, ¬ Stops isNumeral (c :: rest) := by
    rintro c (rfl | rfl) rest h
    · simp [isNumeral] at h
    · simp [isNumeral] at h
  have hsign : ∀ {c : Char} {input digits rest : List Char}, c.isDigit = false →
      ¬ Digits (c :: input) digits rest :=
    fun hc h => h.not_stops (stops_cons.mpr hc)
  cases h with
  | none =>
    cases h' with
    | none => exact ⟨rfl, rfl⟩
    | bare hc _ => exact absurd hrest (hmark _ hc _)
    | plus hc _ => exact absurd hrest (hmark _ hc _)
    | minus hc _ => exact absurd hrest (hmark _ hc _)
  | bare hc h =>
    cases h' with
    | none => exact absurd hrest' (hmark _ hc _)
    | bare _ h' =>
      obtain ⟨rfl, rfl⟩ := h.unique h' (hdigits _ hrest) (hdigits _ hrest')
      exact ⟨rfl, rfl⟩
    | plus _ _ => exact absurd h (hsign rfl)
    | minus _ _ => exact absurd h (hsign rfl)
  | plus hc h =>
    cases h' with
    | none => exact absurd hrest' (hmark _ hc _)
    | bare _ h' => exact absurd h' (hsign rfl)
    | plus _ h' =>
      obtain ⟨rfl, rfl⟩ := h.unique h' (hdigits _ hrest) (hdigits _ hrest')
      exact ⟨rfl, rfl⟩
  | minus hc h =>
    cases h' with
    | none => exact absurd hrest' (hmark _ hc _)
    | bare _ h' => exact absurd h' (hsign rfl)
    | minus _ h' =>
      obtain ⟨rfl, rfl⟩ := h.unique h' (hdigits _ hrest) (hdigits _ hrest')
      exact ⟨rfl, rfl⟩

/-- A numeral amounts to one number. -/
theorem AmountsTo.unique {negative : Bool} {whole fraction : List Char} {exponent value value' : Int}
    (h : AmountsTo negative whole fraction exponent value)
    (h' : AmountsTo negative whole fraction exponent value') : value' = value := by
  have hpow : (10 : Int) ^ (fraction.length + (-exponent).toNat) ≠ 0 := pow_ne_zero _ (by decide)
  exact mul_right_cancel₀ hpow (h'.symm.trans h)

/-- A number starts with its sign or a digit. -/
theorem Number.exists_cons {input rest : List Char} {value : Int} (h : Number input value rest) :
    ∃ c tail, input = c :: tail ∧ (c = '-' ∨ c.isDigit) := by
  obtain ⟨hsign, hwhole, -, -, -⟩ := h
  cases hsign with
  | none =>
    obtain ⟨c, tail, rfl, hc⟩ := hwhole.exists_cons
    exact ⟨c, tail, rfl, .inr hc⟩
  | minus => exact ⟨_, _, rfl, .inl rfl⟩

/-- **A number that ends before what cannot go on with it** is the only one there. -/
theorem Number.unique {input rest rest' : List Char} {value value' : Int} (h : Number input value rest)
    (h' : Number input value' rest') (hrest : Stops isNumeral rest) (hrest' : Stops isNumeral rest') :
    value' = value ∧ rest' = rest := by
  -- What follows each part of a numeral is what follows the numeral, or the mark of a later part.
  have hminus : ∀ {input digits rest : List Char}, Whole input digits rest → Stops (· == '-') input := by
    intro input digits rest hwhole
    obtain ⟨c, tail, rfl, hc⟩ := hwhole.exists_cons
    rw [stops_cons, beq_eq_false_iff_ne]
    rintro rfl
    simp at hc
  have hpoint : ∀ {input rest : List Char} {exponent : Int}, Exponent input exponent rest →
      Stops isNumeral rest → Stops (fun c => c.isDigit || c == '.') input := by
    intro input rest exponent hexponent hrest
    have hmark : ∀ c, c = 'e' ∨ c = 'E' → ∀ rest, Stops (fun c => c.isDigit || c == '.') (c :: rest) := by
      rintro c (rfl | rfl) rest
      · simp
      · simp
    cases hexponent with
    | none =>
      exact hrest.imp fun c hc => by
        simp only [isNumeral, Bool.or_eq_false_iff] at hc ⊢
        exact hc.1.1
    | bare hc _ => exact hmark _ hc _
    | plus hc _ => exact hmark _ hc _
    | minus hc _ => exact hmark _ hc _
  have hdigit : ∀ {input digits rest : List Char}, Fraction input digits rest →
      Stops (fun c => c.isDigit || c == '.') rest → Stops Char.isDigit input := by
    intro input digits rest hfraction hrest
    cases hfraction with
    | none => exact hrest.imp fun c hc => (Bool.or_eq_false_iff.mp hc).1
    | digits _ => simp
  obtain ⟨hsign, hwhole, hfraction, hexponent, hvalue⟩ := h
  obtain ⟨hsign', hwhole', hfraction', hexponent', hvalue'⟩ := h'
  have hafter := hpoint hexponent hrest
  have hafter' := hpoint hexponent' hrest'
  obtain ⟨rfl, rfl⟩ := hsign.unique hsign' (hminus hwhole) (hminus hwhole')
  obtain ⟨rfl, rfl⟩ := hwhole.unique hwhole' (hdigit hfraction hafter) (hdigit hfraction' hafter')
  obtain ⟨rfl, rfl⟩ := hfraction.unique hfraction' hafter hafter'
  obtain ⟨rfl, rfl⟩ := hexponent.unique hexponent' hrest hrest'
  exact ⟨hvalue.unique hvalue', rfl⟩

/-! ## Strings -/

/-- A short escape stands for one character, and none is that of a unit. -/
theorem mem_shortEscapes_unique {mark c c' : Char} (h : (mark, c) ∈ shortEscapes)
    (h' : (mark, c') ∈ shortEscapes) : c' = c := by
  have hinj : ∀ e ∈ shortEscapes, ∀ e' ∈ shortEscapes, e'.1 = e.1 → e'.2 = e.2 := by decide
  exact hinj _ h _ h' rfl

theorem not_mem_shortEscapes_u (c : Char) : ('u', c) ∉ shortEscapes := by
  simp [shortEscapes]

theorem IsHexDigit.unique {c : Char} {n n' : Nat} (h : IsHexDigit c n) (h' : IsHexDigit c n') :
    n' = n := by
  have hinj : ∀ n < 16, ∀ n' < 16, n'.digitChar = n.digitChar → n' = n := by decide
  exact hinj n h.1 n' h'.1 (h'.2.symm.trans h.2)

theorem CodeUnit.unique {input rest rest' : List Char} {code code' : Nat} (h : CodeUnit input code rest)
    (h' : CodeUnit input code' rest') : code' = code ∧ rest' = rest := by
  obtain ⟨h₁, h₂, h₃, h₄⟩ := h
  obtain ⟨h₁', h₂', h₃', h₄'⟩ := h'
  rw [h₁.unique h₁', h₂.unique h₂', h₃.unique h₃', h₄.unique h₄']
  exact ⟨rfl, rfl⟩

/-- No character has the code of half a pair. -/
theorem ne_toNat_of_surrogate (c : Char) {high : Nat} (h : high < 0x800) : c.toNat ≠ 0xD800 + high := by
  have hvalid : c.toNat < 0xD800 ∨ 0xDFFF < c.toNat ∧ c.toNat < 0x110000 := c.valid
  omega

theorem Character.unique {input rest rest' : List Char} {c c' : Char} (h : Character input c rest)
    (h' : Character input c' rest') : c' = c ∧ rest' = rest := by
  cases h with
  | plain _ hbackslash _ =>
    cases h' with
    | plain _ _ _ => exact ⟨rfl, rfl⟩
    | short _ => exact absurd rfl hbackslash
    | unit _ => exact absurd rfl hbackslash
    | pair _ _ _ _ _ => exact absurd rfl hbackslash
  | short hmem =>
    cases h' with
    | plain _ hbackslash _ => exact absurd rfl hbackslash
    | short hmem' => exact ⟨mem_shortEscapes_unique hmem hmem', rfl⟩
    | unit _ => exact absurd hmem (not_mem_shortEscapes_u c)
    | pair _ _ _ _ _ => exact absurd hmem (not_mem_shortEscapes_u c)
  | unit hunit =>
    cases h' with
    | plain _ hbackslash _ => exact absurd rfl hbackslash
    | short hmem' => exact absurd hmem' (not_mem_shortEscapes_u c')
    | unit hunit' =>
      obtain ⟨hcode, hrest⟩ := hunit.unique hunit'
      exact ⟨Char.toNat_inj.mp hcode, hrest⟩
    | pair hhigh' _ hlt _ _ =>
      exact absurd (hunit.unique hhigh').1.symm (ne_toNat_of_surrogate c (by omega))
  | pair hhigh hlow hlt _ hcode =>
    cases h' with
    | plain _ hbackslash _ => exact absurd rfl hbackslash
    | short hmem' => exact absurd hmem' (not_mem_shortEscapes_u c')
    | unit hunit' =>
      exact absurd (hhigh.unique hunit').1 (ne_toNat_of_surrogate c' (by omega))
    | pair hhigh' hlow' _ _ hcode' =>
      obtain ⟨hhighs, htail⟩ := hhigh.unique hhigh'
      cases htail
      obtain ⟨hlows, hrest⟩ := hlow.unique hlow'
      exact ⟨Char.toNat_inj.mp (by omega), hrest⟩

/-- **The characters of a string end at the first quotation mark that is not escaped.** -/
theorem Characters.unique {input chars rest chars' rest' : List Char} (h : Characters input chars rest)
    (h' : Characters input chars' rest') : chars' = chars ∧ rest' = rest := by
  have hquote : ∀ {c : Char} {tail rest : List Char}, ¬ Character ('"' :: tail) c rest := by
    intro c tail rest h
    cases h with
    | plain hquote _ _ => exact hquote rfl
  induction h generalizing chars' with
  | close =>
    cases h' with
    | close => exact ⟨rfl, rfl⟩
    | more hc _ => exact absurd hc hquote
  | more hc _ ih =>
    cases h' with
    | close => exact absurd hc hquote
    | more hc' h' =>
      obtain ⟨rfl, rfl⟩ := hc.unique hc'
      obtain ⟨rfl, rfl⟩ := ih h'
      exact ⟨rfl, rfl⟩

/-- The name of a member ends at the colon. -/
theorem Name.unique {input rest rest' : List Char} {name name' : String} (h : Name input name rest)
    (h' : Name input name' rest') : name' = name ∧ rest' = rest := by
  obtain ⟨hspace, hchars, hcolon⟩ := h
  obtain ⟨hspace', hchars', hcolon'⟩ := h'
  cases hspace.unique hspace' (stops_cons.mpr rfl) (stops_cons.mpr rfl)
  obtain ⟨rfl, rfl⟩ := hchars.unique hchars'
  cases hcolon.unique hcolon' (stops_cons.mpr rfl) (stops_cons.mpr rfl)
  exact ⟨rfl, rfl⟩

/-! ## Values -/

theorem Number.not_cons {c : Char} {tail rest : List Char} {value : Int}
    (hc : (c == '-' || c.isDigit) = false) : ¬ Number (c :: tail) value rest := by
  intro h
  obtain ⟨_, _, heq, hstart⟩ := h.exists_cons
  cases heq
  rw [← beq_iff_eq, ← Bool.or_eq_true, hc] at hstart
  cases hstart

/-- A value does not start with white space. -/
theorem Value.stops {input rest : List Char} {v : Json} (h : Value input v rest) : Stops isSpace input := by
  cases h with
  | number h =>
    obtain ⟨c, tail, rfl, hc⟩ := h.exists_cons
    rw [stops_cons, isSpace]
    rcases hc with rfl | hc
    · rfl
    · by_contra hspace
      simp only [Bool.not_eq_false, Bool.or_eq_true, beq_iff_eq] at hspace
      rcases hspace with ((rfl | rfl) | rfl) | rfl <;> simp at hc
  | _ => simp [isSpace]

/-- No value starts with a closing bracket. -/
theorem Value.not_close {tail rest : List Char} {v : Json} : ¬ Value (']' :: tail) v rest := by
  intro h
  cases h with
  | number h => exact Number.not_cons rfl h

/-- An array that has elements is not empty. -/
theorem Elements.not_close {input rest rest' : List Char} {items : List Json}
    (h : Elements input items rest) : ¬ Space input (']' :: rest') := by
  have helement : ∀ {v : Json} {rest : List Char}, Element input v rest → ¬ Space input (']' :: rest') := by
    rintro v rest ⟨hspace, hvalue, -⟩ hclose
    cases hspace.unique hclose hvalue.stops (stops_cons.mpr rfl)
    exact Value.not_close hvalue
  cases h with
  | last h => exact helement h
  | more h _ => exact helement h

/-- An object that has members is not empty. -/
theorem Members.not_close {input rest rest' : List Char} {members : List (String × Json)}
    (h : Members input members rest) : ¬ Space input ('\x7d' :: rest') := by
  have hmember : ∀ {member : String × Json} {rest : List Char}, Member input member rest →
      ¬ Space input ('\x7d' :: rest') := by
    rintro member rest ⟨⟨hspace, -, -⟩, -⟩ hclose
    cases hspace.unique hclose (stops_cons.mpr rfl) (stops_cons.mpr rfl)
  cases h with
  | last h => exact hmember h
  | more h _ => exact hmember h

/-- **What ends an element**: nothing, or a character that goes on with neither white space nor a number. -/
def Ends (rest : List Char) : Prop := Stops isSpace rest ∧ Stops isNumeral rest

theorem ends_nil : Ends [] := ⟨stops_nil _, stops_nil _⟩

theorem ends_cons {c : Char} {rest : List Char} (h : (isSpace c || isNumeral c) = false) :
    Ends (c :: rest) :=
  ⟨stops_cons.mpr (Bool.or_eq_false_iff.mp h).1, stops_cons.mpr (Bool.or_eq_false_iff.mp h).2⟩

/-- White space does not go on with a number. -/
theorem Space.stops_isNumeral {input rest : List Char} (h : Space input rest) (hrest : Ends rest) :
    Stops isNumeral input := by
  refine h.stops (fun c hc => ?_) hrest.2
  simp only [isSpace, Bool.or_eq_true, beq_iff_eq] at hc
  rcases hc with ((rfl | rfl) | rfl) | rfl <;> rfl

/-! The induction is on the value that is read, not on how it is read: the second reading is taken apart along
with the first. An element has the size of its value, so it counts as one step more. -/

mutual

/-- **A value is read in one way**, when what follows it cannot go on with a number. -/
theorem Value.unique {input rest rest' : List Char} {v v' : Json} (h : Value input v rest)
    (h' : Value input v' rest') (hrest : Stops isNumeral rest) (hrest' : Stops isNumeral rest') :
    v' = v ∧ rest' = rest := by
  cases h with
  | null =>
    cases h' with
    | null => exact ⟨rfl, rfl⟩
    | number h' => exact absurd h' (Number.not_cons rfl)
  | true =>
    cases h' with
    | true => exact ⟨rfl, rfl⟩
    | number h' => exact absurd h' (Number.not_cons rfl)
  | false =>
    cases h' with
    | false => exact ⟨rfl, rfl⟩
    | number h' => exact absurd h' (Number.not_cons rfl)
  | number h =>
    cases h' with
    | number h' =>
      obtain ⟨rfl, rfl⟩ := h.unique h' hrest hrest'
      exact ⟨rfl, rfl⟩
    | _ => exact absurd h (Number.not_cons rfl)
  | string h =>
    cases h' with
    | number h' => exact absurd h' (Number.not_cons rfl)
    | string h' =>
      obtain ⟨rfl, rfl⟩ := h.unique h'
      exact ⟨rfl, rfl⟩
  | emptyArray h =>
    cases h' with
    | number h' => exact absurd h' (Number.not_cons rfl)
    | emptyArray h' =>
      cases h.unique h' (stops_cons.mpr rfl) (stops_cons.mpr rfl)
      exact ⟨rfl, rfl⟩
    | array h' => exact absurd h h'.not_close
  | array h =>
    cases h' with
    | number h' => exact absurd h' (Number.not_cons rfl)
    | emptyArray h' => exact absurd h' h.not_close
    | array h' =>
      obtain ⟨rfl, rfl⟩ := Elements.unique h h'
      exact ⟨rfl, rfl⟩
  | emptyObject h =>
    cases h' with
    | number h' => exact absurd h' (Number.not_cons rfl)
    | emptyObject h' =>
      cases h.unique h' (stops_cons.mpr rfl) (stops_cons.mpr rfl)
      exact ⟨rfl, rfl⟩
    | object h' => exact absurd h h'.not_close
  | object h =>
    cases h' with
    | number h' => exact absurd h' (Number.not_cons rfl)
    | emptyObject h' => exact absurd h' h.not_close
    | object h' =>
      obtain ⟨rfl, rfl⟩ := Members.unique h h'
      exact ⟨rfl, rfl⟩
termination_by (sizeOf v, 0)

theorem Element.unique {input rest rest' : List Char} {v v' : Json} (h : Element input v rest)
    (h' : Element input v' rest') (hrest : Ends rest) (hrest' : Ends rest') : v' = v ∧ rest' = rest := by
  obtain ⟨hspace, hvalue, hafter⟩ := h
  obtain ⟨hspace', hvalue', hafter'⟩ := h'
  cases hspace.unique hspace' hvalue.stops hvalue'.stops
  obtain ⟨rfl, rfl⟩ := Value.unique hvalue hvalue' (hafter.stops_isNumeral hrest)
    (hafter'.stops_isNumeral hrest')
  exact ⟨rfl, hafter.unique hafter' hrest.1 hrest'.1⟩
termination_by (sizeOf v, 1)

theorem Elements.unique {input rest rest' : List Char} {items items' : List Json}
    (h : Elements input items rest) (h' : Elements input items' rest') :
    items' = items ∧ rest' = rest := by
  cases h with
  | last h =>
    cases h' with
    | last h' =>
      obtain ⟨rfl, hrest⟩ := Element.unique h h' (ends_cons rfl) (ends_cons rfl)
      cases hrest
      exact ⟨rfl, rfl⟩
    | more h' _ => cases (Element.unique h h' (ends_cons rfl) (ends_cons rfl)).2
  | more h hitems =>
    cases h' with
    | last h' => cases (Element.unique h h' (ends_cons rfl) (ends_cons rfl)).2
    | more h' hitems' =>
      obtain ⟨rfl, hrest⟩ := Element.unique h h' (ends_cons rfl) (ends_cons rfl)
      cases hrest
      obtain ⟨rfl, rfl⟩ := Elements.unique hitems hitems'
      exact ⟨rfl, rfl⟩
termination_by (sizeOf items, 0)

theorem Member.unique {input rest rest' : List Char} {member member' : String × Json}
    (h : Member input member rest) (h' : Member input member' rest') (hrest : Ends rest)
    (hrest' : Ends rest') : member' = member ∧ rest' = rest := by
  obtain ⟨hname, hvalue⟩ := h
  obtain ⟨hname', hvalue'⟩ := h'
  obtain ⟨rfl, rfl⟩ := hname.unique hname'
  obtain ⟨rfl, rfl⟩ := Element.unique hvalue hvalue' hrest hrest'
  exact ⟨rfl, rfl⟩
termination_by (sizeOf member, 0)

theorem Members.unique {input rest rest' : List Char} {members members' : List (String × Json)}
    (h : Members input members rest) (h' : Members input members' rest') :
    members' = members ∧ rest' = rest := by
  cases h with
  | last h =>
    cases h' with
    | last h' =>
      obtain ⟨rfl, hrest⟩ := Member.unique h h' (ends_cons rfl) (ends_cons rfl)
      cases hrest
      exact ⟨rfl, rfl⟩
    | more h' _ => cases (Member.unique h h' (ends_cons rfl) (ends_cons rfl)).2
  | more h hmembers =>
    cases h' with
    | last h' => cases (Member.unique h h' (ends_cons rfl) (ends_cons rfl)).2
    | more h' hmembers' =>
      obtain ⟨rfl, hrest⟩ := Member.unique h h' (ends_cons rfl) (ends_cons rfl)
      cases hrest
      obtain ⟨rfl, rfl⟩ := Members.unique hmembers hmembers'
      exact ⟨rfl, rfl⟩
termination_by (sizeOf members, 0)

end

/-- **A text says at most one value.** -/
theorem Denotes.unique {text : String} {v v' : Json} (h : Denotes text v) (h' : Denotes text v') :
    v' = v :=
  (Element.unique h h' ends_nil ends_nil).1

end Json

end InterfaceSchema
