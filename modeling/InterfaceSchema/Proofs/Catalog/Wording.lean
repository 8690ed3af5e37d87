import InterfaceSchema.Catalog.Wording
import InterfaceSchema.Proofs.Catalog.FirstFailure
import InterfaceSchema.Proofs.Json.Dense

/-!
# Messages, piece by piece

A message is its pieces, and these are the same for all names but for the names in them. **A name that is
quoted cannot break the line of a message, a bare one can**: a message is printable just when its bare names
are (`CompileError.printable_message_iff`, `Anomaly.printable_text_iff`).

The words of a message are printable of themselves. Some depend on what an error holds beside names, as on the
attributes that are allowed, so only the errors are meant that a compile can report (`CompileError.Reported`).
-/

namespace InterfaceSchema

/-! ## Reported errors -/

/-- **What holds of an error that a compile reports**: an element that means nothing has a code, and the
attributes that are allowed are those of interfaces or of their members. -/
def CompileError.Reported : CompileError → Prop
  | unhandledFieldType _ _ _ element _ => element ≠ some BaseType.none.code
  | invalidAttribute _ _ allowed => allowed = interfaceAttributes ∨ allowed = memberAttributes
  | _ => True

theorem FieldDecl.reported_of_mem_checks {object : String} {f : FieldDecl} {c : Check} (hc : c ∈ f.checks object)
    (hfails : c.holds = false) : c.error.Reported := by
  simp only [FieldDecl.checks, List.mem_cons, List.not_mem_nil, or_false] at hc
  rcases hc with rfl | rfl | rfl
  · exact (Option.some_ne_none _).symm
  · rw [Bool.or_eq_false_iff] at hfails
    intro helement
    rw [Option.some_inj.mp helement] at hfails
    exact absurd hfails.2 (by decide)
  · intro helement
    obtain ⟨hvector, helement⟩ := Option.ite_none_right_eq_some.mp helement
    exact hvector.2 (Option.some_inj.mp helement)

theorem Check.Known.reported {c : Check} (h : c.Known) (hfails : c.holds = false) : c.error.Reported := by
  cases h with
  | field hc => exact FieldDecl.reported_of_mem_checks hc hfails
  | interfaceAttributes hc =>
    obtain ⟨a, -, rfl⟩ := List.mem_map.mp hc
    exact .inl rfl
  | memberAttributes hc =>
    obtain ⟨a, -, rfl⟩ := List.mem_map.mp hc
    exact .inr rfl
  | _ => trivial

theorem reported_of_compile {b : Buffer} {source : Source} {e : CompileError} (h : compile b source = .error e) :
    e.Reported := by
  unfold compile at h
  split at h
  · cases h
    trivial
  · rename_i s hs
    have hfirst := (s.failure?_compile source).symm.trans (failure?_eq_some_iff.mpr h)
    obtain ⟨c, hfind, rfl⟩ := Option.map_eq_some_iff.mp hfirst
    have hfails : c.holds = false := by simpa using List.find?_some hfind
    exact (s.checks_known c (List.mem_of_find?_eq_some hfind)).reported hfails

/-! ## Pieces -/

@[simp] theorem Piece.chars_words (text : String) : (words text).chars = text.toList := rfl

@[simp] theorem Piece.chars_quoted (name : String) : (quoted name).chars = (Json.quote name).toList := rfl

@[simp] theorem Piece.chars_bare (name : String) : (bare name).chars = name.toList := rfl

@[simp] theorem Piece.chars_value (v : Option String) : (value v).chars = (quoteOrNone v).toList := by
  cases v <;> rfl

/-- **The words of a piece are printable**, if it is words. -/
def Piece.Clean : Piece → Prop
  | words text => Printable text
  | _ => True

theorem Piece.clean_value (v : Option String) : (value v).Clean := by
  cases v with
  | none =>
    show Printable "(none)"
    decide
  | some text => trivial

/-- **A text in pieces is printable** when its bare names are, and its words. -/
theorem printable_iff_of_pieces {text : String} {pieces : List Piece}
    (htext : text.toList = pieces.flatMap Piece.chars) (hclean : ∀ piece ∈ pieces, piece.Clean) :
    Printable text ↔ ∀ n, Piece.bare n ∈ pieces → Printable n := by
  unfold Printable
  rw [htext]
  constructor
  · exact fun h n hn c hc => h c (List.mem_flatMap.mpr ⟨_, hn, hc⟩)
  · intro h c hc
    obtain ⟨piece, hpiece, hc⟩ := List.mem_flatMap.mp hc
    cases piece with
    | words words => exact hclean _ hpiece c hc
    | quoted n => exact (Json.dense_quote n).printable c hc
    | bare n => exact h n hpiece c hc

theorem Printable.append {text text' : String} (h : Printable text) (h' : Printable text') :
    Printable (text ++ text') := by
  intro c hc
  rw [String.toList_append, List.mem_append] at hc
  exact hc.elim (h c) (h' c)

theorem printable_decimal (n : Int) : Printable (decimal n) := (Json.dense_decimal n).printable

theorem printable_codeText (code : Int8) : Printable (codeText code) := by
  unfold codeText
  split
  · rename_i t ht
    cases t <;> decide
  · have hhash : Printable "#" := by decide
    exact hhash.append (printable_decimal _)

theorem MalformedSchema.printable_message (cause : MalformedSchema) : Printable cause.message := by
  cases cause with
  | tooShort length =>
    have hbefore : Printable "buffer is " := by decide
    have hafter : Printable " bytes, too short for a reflection schema header" := by decide
    exact (hbefore.append (printable_decimal length)).append hafter
  | missingIdentifier =>
    show Printable "missing \"BFBS\" file identifier"
    decide
  | badRootOffset offset =>
    have hbefore : Printable "root table offset " := by decide
    have hafter : Printable " is out of bounds" := by decide
    exact (hbefore.append (printable_decimal offset)).append hafter

/-! ## Errors in pieces -/

namespace CompileError

/-- A message is its pieces, one after the other. -/
theorem toList_message (e : CompileError) : e.message.toList = e.pieces.flatMap Piece.chars := by
  cases e with
  | duplicateDefinition name within =>
    cases within with
    | none =>
      unfold message pieces withinText
      simp only [String.toList_append, String.toList_empty, List.flatMap_cons, List.flatMap_nil,
        Piece.chars_words, Piece.chars_quoted, List.append_nil]
    | some scope =>
      unfold message pieces withinText
      simp only [String.toList_append, List.append_assoc, List.flatMap_cons, List.flatMap_nil, List.append_nil,
        Piece.chars_words, Piece.chars_quoted]
  | _ =>
    unfold message pieces
    simp only [String.toList_append, List.append_assoc, List.flatMap_cons, List.flatMap_nil, List.append_nil,
      Piece.chars_words, Piece.chars_quoted, Piece.chars_bare, Piece.chars_value]

/-- **The pieces of a message are the same for all names**, but for the names in them. -/
theorem pieces_rename (f : String → String) (e : CompileError) :
    (e.rename f).pieces = e.pieces.map (Piece.rename f) := by
  cases e with
  | duplicateDefinition name within => cases within <;> rfl
  | invalidServiceType service value => cases value <;> rfl
  | invalidMemberType service call value => cases value <;> rfl
  | _ => rfl

theorem bare_mem_pieces_iff {e : CompileError} {n : String} : .bare n ∈ e.pieces ↔ n ∈ e.bareNames := by
  have hvalue : ∀ v : Option String, Piece.bare n ≠ .value v := by
    rintro (_ | v) <;> exact nofun
  cases e with
  | duplicateDefinition name within => cases within <;> simp [pieces, bareNames]
  | _ => simp [pieces, bareNames, hvalue]

/-- The words of a message are printable. -/
theorem clean_pieces {e : CompileError} (h : e.Reported) : ∀ piece ∈ e.pieces, piece.Clean := by
  cases e with
  | malformed cause =>
    simp only [pieces, List.forall_mem_cons, Piece.Clean]
    exact ⟨by decide, cause.printable_message, nofun⟩
  | duplicateDefinition name within =>
    cases within with
    | none =>
      simp only [pieces, List.forall_mem_cons, Piece.Clean]
      exact ⟨by decide, trivial, nofun⟩
    | some scope =>
      simp only [pieces, List.forall_mem_cons, Piece.Clean]
      exact ⟨by decide, trivial, by decide, trivial, nofun⟩
  | unhandledFieldType object field base element index =>
    have helement : Printable ((element.map codeText).getD "None") := by
      cases element with
      | none =>
        show Printable "None"
        decide
      | some code => exact printable_codeText code
    simp only [pieces, List.forall_mem_cons, Piece.Clean]
    exact ⟨by decide, trivial, by decide, trivial, by decide, printable_codeText base, by decide, helement,
      by decide, printable_decimal _, nofun⟩
  | invalidAttribute entity key allowed =>
    have hallowed : Printable (", ".intercalate allowed) := by
      rcases h with rfl | rfl
      · decide
      · decide
    simp only [pieces, List.forall_mem_cons, Piece.Clean]
    exact ⟨by decide, trivial, by decide, trivial, by decide, hallowed, nofun⟩
  | invalidServiceType service value =>
    simp only [pieces, List.forall_mem_cons, Piece.Clean]
    exact ⟨by decide, Piece.clean_value value, by decide, trivial, by decide, nofun⟩
  | invalidMemberType service call value =>
    simp only [pieces, List.forall_mem_cons, Piece.Clean]
    exact ⟨by decide, Piece.clean_value value, by decide, trivial, by decide, trivial, by decide, nofun⟩
  | invalidStreamModifier service call value =>
    simp only [pieces, List.forall_mem_cons, Piece.Clean]
    exact ⟨by decide, trivial, by decide, trivial, by decide, trivial, by decide, nofun⟩

/-- **A message is printable just when the names are that it does not quote.** -/
theorem printable_message_iff {e : CompileError} (h : e.Reported) :
    Printable e.message ↔ ∀ n ∈ e.bareNames, Printable n := by
  rw [printable_iff_of_pieces e.toList_message (clean_pieces h)]
  simp only [bare_mem_pieces_iff]

end CompileError

/-! ## The log -/

namespace Anomaly

variable {a : Anomaly}

/-- A record of the log is its pieces, one after the other. -/
theorem toList_text (a : Anomaly) : a.text.toList = a.pieces.flatMap Piece.chars := by
  unfold text pieces
  simp only [String.toList_append, List.append_assoc, List.flatMap_cons, List.flatMap_nil, List.append_nil,
    Piece.chars_words, Piece.chars_bare]

theorem clean_pieces (a : Anomaly) : ∀ piece ∈ a.pieces, piece.Clean := by
  have htarget : ∀ target : Target, Printable target.text := by
    rintro (_ | _) <;> decide
  simp only [pieces, List.forall_mem_cons, Piece.Clean]
  exact ⟨htarget a.target, by decide, printable_decimal _, by decide, trivial, by decide, trivial, by decide, nofun⟩

theorem bare_mem_pieces_iff {n : String} : .bare n ∈ a.pieces ↔ n = a.field ∨ n = a.object := by
  simp [pieces]

/-- **A record is printable just when its names are.** -/
theorem printable_text_iff : Printable a.text ↔ Printable a.field ∧ Printable a.object := by
  rw [printable_iff_of_pieces a.toList_text a.clean_pieces]
  simp only [bare_mem_pieces_iff, forall_eq_or_imp, forall_eq]

theorem text_eq_sentence (a : Anomaly) :
    a.text = a.sentence ("\"" ++ a.field ++ "\"") ("\"" ++ a.object ++ "\"") := by
  have hfield : " of field \"" = " of field " ++ "\"" := rfl
  have hobject : "\" in \"" = "\"" ++ (" in " ++ "\"") := rfl
  have hend : "\" does not resolve" = "\"" ++ " does not resolve" := rfl
  unfold text sentence
  rw [hfield, hobject, hend]
  simp only [String.append_assoc]

theorem length_sentence (a : Anomaly) (field object : String) :
    (a.sentence field object).length = (a.sentence "" "").length + field.length + object.length := by
  unfold sentence
  simp only [String.length_append, String.length_empty]
  omega

/-- **The names of a record are quoted** just when neither has anything to escape. -/
theorem text_eq_quotedText_iff : a.text = a.quotedText ↔
    Json.quote a.field = "\"" ++ a.field ++ "\"" ∧ Json.quote a.object = "\"" ++ a.object ++ "\"" := by
  rw [text_eq_sentence, quotedText]
  constructor
  · intro h
    have hlength := congrArg String.length h
    rw [length_sentence, a.length_sentence (Json.quote _)] at hlength
    have hfield := Json.quote_eq_or_lt a.field
    have hobject := Json.quote_eq_or_lt a.object
    rcases hfield with hfield | hfield
    · rcases hobject with hobject | hobject
      · exact ⟨hfield, hobject⟩
      · rw [hfield] at hlength
        omega
    · rcases hobject with hobject | hobject
      · rw [hobject] at hlength
        omega
      · omega
  · rintro ⟨hfield, hobject⟩
    rw [hfield, hobject]

end Anomaly

end InterfaceSchema
