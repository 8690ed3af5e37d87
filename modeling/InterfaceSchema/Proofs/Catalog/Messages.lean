import InterfaceSchema.Proofs.Catalog.Lossless
import InterfaceSchema.Proofs.Catalog.Wording

/-!
# What a message tells

**A message tells where a quoted name ends**, whatever comes after it, and where a number or a code does. So a
message all of whose names are quoted tells everything about its error, and two errors with one message are the
same. Bare names are told apart by the words between them only: two that stand one after the other can be
divided in more than one way, and all that is certain is what they are together (`CompileError.told`,
`Anomaly.told`).

Together with what can break the line of a message, that is all there is to know about the names in it
(`compile_worded`). It falls short of quoting every name, and `messages_not_quoted` shows where.
-/

namespace InterfaceSchema

/-! ## Where a part of a message ends -/

/-- A part without a mark ends at the first mark. -/
theorem append_mark_inj {mark : Char} {part part' rest rest' : List Char} (hpart : mark ∉ part)
    (hpart' : mark ∉ part') (h : part ++ mark :: rest = part' ++ mark :: rest') : part = part' ∧ rest = rest' := by
  have htake : ∀ part rest : List Char, mark ∉ part → (part ++ mark :: rest).takeWhile (· != mark) = part := by
    intro part rest hpart
    rw [List.takeWhile_append_of_pos fun c hc => by simpa using ne_of_mem_of_not_mem hc hpart]
    simp
  have heq : part = part' := by rw [← htake part rest hpart, h, htake part' rest' hpart']
  rw [heq, List.append_cancel_left_eq, List.cons.injEq] at h
  exact ⟨heq, h.2⟩

theorem quoteOrNone_append_inj {v v' : Option String} {rest rest' : List Char}
    (h : (quoteOrNone v).toList ++ rest = (quoteOrNone v').toList ++ rest') : v = v' ∧ rest = rest' := by
  have hquote : ∀ (text : String) rest, ∃ input, (Json.quote text).toList ++ rest = '"' :: input :=
    fun text rest => (Json.exists_characters_quote text rest).imp fun _ => And.left
  cases v with
  | none =>
    cases v' with
    | none => exact ⟨rfl, List.append_cancel_left h⟩
    | some text' =>
      obtain ⟨input, hinput⟩ := hquote text' rest'
      exact absurd (h.trans hinput) (by simp [quoteOrNone])
  | some text =>
    cases v' with
    | none =>
      obtain ⟨input, hinput⟩ := hquote text rest
      exact absurd (h.symm.trans hinput) (by simp [quoteOrNone])
    | some text' =>
      obtain ⟨rfl, hrest⟩ := Json.quote_append_inj h
      exact ⟨rfl, hrest⟩

/-- **A code in words ends at the comma after it.** -/
theorem codeText_append_inj {code code' : Int8} {rest rest' : List Char}
    (h : (codeText code).toList ++ ',' :: rest = (codeText code').toList ++ ',' :: rest') :
    code = code' ∧ rest = rest' := by
  have hcases : ∀ code, (∃ t : BaseType, code = t.code ∧ codeText code = t.name) ∨
      codeText code = "#" ++ decimal code.toInt := by
    intro code
    unfold codeText
    split
    · rename_i t ht
      exact .inl ⟨t, BaseType.ofCode?_eq_some_iff.mp ht, rfl⟩
    · exact .inr rfl
  have hhash : ∀ (t : BaseType) (n : Int) (rest rest' : List Char),
      t.name.toList ++ rest ≠ ("#" ++ decimal n).toList ++ rest' := by
    intro t n rest rest'
    cases t <;> simp [BaseType.name]
  rcases hcases code with ⟨t, rfl, ht⟩ | hcode
  · rcases hcases code' with ⟨t', rfl, ht'⟩ | hcode'
    · have hcomma : ∀ t : BaseType, ',' ∉ t.name.toList := by
        intro t
        cases t <;> decide
      rw [ht, ht'] at h
      obtain ⟨hname, hrest⟩ := append_mark_inj (hcomma t) (hcomma t') h
      exact ⟨congrArg BaseType.code (BaseType.name_injective (String.toList_inj.mp hname)), hrest⟩
    · rw [ht, hcode'] at h
      exact absurd h (hhash _ _ _ _)
  · rcases hcases code' with ⟨t', rfl, ht'⟩ | hcode'
    · rw [hcode, ht'] at h
      exact absurd h.symm (hhash _ _ _ _)
    · rw [hcode, hcode', String.toList_append, String.toList_append, List.append_assoc, List.append_assoc] at h
      obtain ⟨hint, hrest⟩ := Json.decimal_append_inj (by simp [Json.isNumeral]) (by simp [Json.isNumeral])
        (List.append_cancel_left h)
      exact ⟨Int8.toInt_inj.mp hint, (List.cons.inj hrest).2⟩

/-! ## What two errors with one message have in common -/

/-- A number between words is told by the text. -/
theorem eq_of_append_decimal_append {before after : String} {n n' : Nat}
    (hafter : Json.Stops Json.isNumeral after.toList)
    (h : before ++ decimal n ++ after = before ++ decimal n' ++ after) : n = n' := by
  have hchars := congrArg String.toList h
  simp only [String.toList_append, List.append_assoc] at hchars
  obtain ⟨hn, -⟩ := Json.decimal_append_inj hafter hafter (List.append_cancel_left hchars)
  exact Int.natCast_inj.mp hn

theorem MalformedSchema.message_injective : Function.Injective MalformedSchema.message := by
  intro cause cause' h
  cases cause with
  | tooShort length =>
    cases cause' with
    | tooShort length' =>
      unfold message at h
      rw [eq_of_append_decimal_append (by simp [Json.isNumeral]) h]
    | _ =>
      unfold message at h
      exact absurd (congrArg String.toList h) (by simp)
  | missingIdentifier =>
    cases cause' with
    | missingIdentifier => rfl
    | _ =>
      unfold message at h
      exact absurd (congrArg String.toList h) (by simp)
  | badRootOffset offset =>
    cases cause' with
    | badRootOffset offset' =>
      unfold message at h
      rw [eq_of_append_decimal_append (by simp [Json.isNumeral]) h]
    | _ =>
      unfold message at h
      exact absurd (congrArg String.toList h) (by simp)

namespace CompileError

/-- The words with which messages begin, one for each kind of error. -/
def headings : List String :=
  ["Malformed schema: ", "Duplicate definition for ", "Unhandled type for field ", "Invalid attribute ",
    "Invalid type ", "Invalid member type ", "Invalid stream modifier "]

/-- The kind of an error, by the position of its heading. -/
def kind : CompileError → Nat
  | malformed _ => 0
  | duplicateDefinition _ _ => 1
  | unhandledFieldType _ _ _ _ _ => 2
  | invalidAttribute _ _ _ => 3
  | invalidServiceType _ _ => 4
  | invalidMemberType _ _ _ => 5
  | invalidStreamModifier _ _ _ => 6

theorem exists_pieces_eq_cons (e : CompileError) :
    ∃ heading rest, headings[e.kind]? = some heading ∧ e.pieces = .words heading :: rest := by
  cases e with
  | duplicateDefinition name within => cases within <;> exact ⟨_, _, rfl, rfl⟩
  | _ => exact ⟨_, _, rfl, rfl⟩

variable {e e' : CompileError}

/-- **Nine letters of a message tell what kind of error it is about.** -/
theorem kind_eq_of_message_eq (h : e.message = e'.message) : e.kind = e'.kind := by
  have hlength : ∀ heading ∈ headings, 9 ≤ heading.toList.length := by decide
  have hnodup : (headings.map fun heading => heading.toList.take 9).Nodup := by decide
  have htake : ∀ e : CompileError, (headings.map fun heading => heading.toList.take 9)[e.kind]? =
      some (e.message.toList.take 9) := by
    intro e
    obtain ⟨heading, rest, hheading, hpieces⟩ := e.exists_pieces_eq_cons
    rw [toList_message, hpieces, List.flatMap_cons, Piece.chars_words, List.getElem?_map, hheading,
      List.take_append_of_le_length (hlength heading (List.mem_of_getElem? hheading))]
    rfl
  obtain ⟨hlt, -⟩ := List.getElem?_eq_some_iff.mp (htake e)
  exact (List.getElem?_inj hlt hnodup).mp (by rw [htake, htake, h])

theorem flatMap_pieces_eq_of_message_eq (h : e.message = e'.message) :
    e.pieces.flatMap Piece.chars = e'.pieces.flatMap Piece.chars := by
  rw [← toList_message, ← toList_message, h]

theorem withinText_injective : Function.Injective withinText := by
  rintro (_ | scope) (_ | scope') h
  · rfl
  · exact absurd (congrArg String.toList h) (by simp [withinText])
  · exact absurd (congrArg String.toList h) (by simp [withinText])
  · have hchars := congrArg String.toList h
    simp only [withinText, String.toList_append] at hchars
    have hscope := List.append_cancel_left hchars
    rw [← List.append_nil (Json.quote scope).toList, ← List.append_nil (Json.quote scope').toList] at hscope
    rw [(Json.quote_append_inj hscope).1]

theorem duplicateDefinition_of_message_eq {name name' : String} {within within' : Option String}
    (h : (duplicateDefinition name within).message = (duplicateDefinition name' within').message) :
    duplicateDefinition name within = duplicateDefinition name' within' := by
  have hchars := congrArg String.toList h
  unfold message at hchars
  simp only [String.toList_append, List.append_assoc] at hchars
  obtain ⟨rfl, hwithin⟩ := Json.quote_append_inj (List.append_cancel_left hchars)
  rw [withinText_injective (String.toList_inj.mp hwithin)]

/-- An element that there is not is shown as the code of the type that means nothing. -/
theorem elementText_eq (element : Option Int8) : (element.map codeText).getD "None" = codeText (element.getD 0) := by
  cases element with
  | none => rfl
  | some code => rfl

theorem unhandledFieldType_of_message_eq {object object' field field' : String} {base base' : Int8}
    {element element' : Option Int8} {index index' : Int32} (hnone : element ≠ some 0) (hnone' : element' ≠ some 0)
    (h : (unhandledFieldType object field base element index).message =
      (unhandledFieldType object' field' base' element' index').message) :
    unhandledFieldType object field base element index =
      unhandledFieldType object' field' base' element' index' := by
  have helement : ", element ".toList = ',' :: " element ".toList := rfl
  have hindex : ", index ".toList = ',' :: " index ".toList := rfl
  have hpieces := flatMap_pieces_eq_of_message_eq h
  simp only [pieces, List.flatMap_cons, Piece.chars_words, Piece.chars_quoted, elementText_eq, helement, hindex,
    List.cons_append] at hpieces
  obtain ⟨rfl, hobject⟩ := Json.quote_append_inj (List.append_cancel_left hpieces)
  obtain ⟨rfl, hbase⟩ := Json.quote_append_inj (List.append_cancel_left hobject)
  obtain ⟨rfl, helement⟩ := codeText_append_inj (List.append_cancel_left hbase)
  obtain ⟨hcode, hindex⟩ := codeText_append_inj (List.append_cancel_left helement)
  obtain ⟨hint, -⟩ := Json.decimal_append_inj (Json.stops_nil _) (Json.stops_nil _) (List.append_cancel_left hindex)
  rw [Int32.toInt_inj.mp hint]
  cases element with
  | none =>
    cases element' with
    | none => rfl
    | some code' => exact absurd (congrArg some hcode.symm) hnone'
  | some code =>
    cases element' with
    | none => exact absurd (congrArg some hcode) hnone
    | some code' =>
      have hsome : code = code' := hcode
      rw [hsome]

theorem invalidAttribute_of_message_eq {entity entity' key key' : String} {allowed allowed' : List String}
    (hallowed : allowed = interfaceAttributes ∨ allowed = memberAttributes)
    (hallowed' : allowed' = interfaceAttributes ∨ allowed' = memberAttributes)
    (h : (invalidAttribute entity key allowed).message = (invalidAttribute entity' key' allowed').message) :
    invalidAttribute entity key allowed = invalidAttribute entity' key' allowed' := by
  have hpieces := flatMap_pieces_eq_of_message_eq h
  simp only [pieces, List.flatMap_cons, List.flatMap_nil, List.append_nil, Piece.chars_words,
    Piece.chars_quoted] at hpieces
  obtain ⟨rfl, hentity⟩ := Json.quote_append_inj (List.append_cancel_left hpieces)
  obtain ⟨rfl, hlist⟩ := Json.quote_append_inj (List.append_cancel_left hentity)
  have hwords := List.append_cancel_left hlist
  rcases hallowed with rfl | rfl <;> rcases hallowed' with rfl | rfl
  · rfl
  · exact absurd hwords (by decide)
  · exact absurd hwords (by decide)
  · rfl

theorem invalidServiceType_of_message_eq {service service' : String} {value value' : Option String}
    (h : (invalidServiceType service value).message = (invalidServiceType service' value').message) :
    invalidServiceType service value = invalidServiceType service' value' := by
  have hpieces := flatMap_pieces_eq_of_message_eq h
  simp only [pieces, List.flatMap_cons, Piece.chars_words, Piece.chars_quoted, Piece.chars_value] at hpieces
  obtain ⟨rfl, hservice⟩ := quoteOrNone_append_inj (List.append_cancel_left hpieces)
  obtain ⟨rfl, -⟩ := Json.quote_append_inj (List.append_cancel_left hservice)
  rfl

/-- The names of a call that are not quoted are one with the dot between them. -/
theorem eq_of_append_dot {service service' call call' : String} {rest : List Char}
    (h : service.toList ++ (".".toList ++ (call.toList ++ rest)) =
      service'.toList ++ (".".toList ++ (call'.toList ++ rest))) :
    service ++ "." ++ call = service' ++ "." ++ call' := by
  have htext : (service ++ "." ++ call).toList ++ rest = (service' ++ "." ++ call').toList ++ rest := by
    simpa only [String.toList_append, List.append_assoc] using h
  exact String.toList_inj.mp (List.append_cancel_right htext)

/-- **A message tells all that `told` leaves of its error.** -/
theorem told_eq_of_message_eq (he : e.Reported) (he' : e'.Reported) (h : e.message = e'.message) :
    e.told = e'.told := by
  have hkind := kind_eq_of_message_eq h
  have hpieces := flatMap_pieces_eq_of_message_eq h
  cases e with
  | malformed cause =>
    cases e' with
    | malformed cause' =>
      simp only [pieces, List.flatMap_cons, Piece.chars_words] at hpieces
      have hcause := List.append_cancel_right (List.append_cancel_left hpieces)
      rw [MalformedSchema.message_injective (String.toList_inj.mp hcause)]
    | _ => simp [kind] at hkind
  | duplicateDefinition name within =>
    cases e' with
    | duplicateDefinition name' within' => rw [duplicateDefinition_of_message_eq h]
    | _ => simp [kind] at hkind
  | unhandledFieldType object field base element index =>
    cases e' with
    | unhandledFieldType object' field' base' element' index' => rw [unhandledFieldType_of_message_eq he he' h]
    | _ => simp [kind] at hkind
  | invalidAttribute entity key allowed =>
    cases e' with
    | invalidAttribute entity' key' allowed' => rw [invalidAttribute_of_message_eq he he' h]
    | _ => simp [kind] at hkind
  | invalidServiceType service value =>
    cases e' with
    | invalidServiceType service' value' => rw [invalidServiceType_of_message_eq h]
    | _ => simp [kind] at hkind
  | invalidMemberType service call value =>
    cases e' with
    | invalidMemberType service' call' value' =>
      simp only [pieces, List.flatMap_cons, Piece.chars_words, Piece.chars_bare, Piece.chars_value] at hpieces
      obtain ⟨rfl, hnames⟩ := quoteOrNone_append_inj (List.append_cancel_left hpieces)
      rw [told, told, eq_of_append_dot (List.append_cancel_left hnames)]
    | _ => simp [kind] at hkind
  | invalidStreamModifier service call value =>
    cases e' with
    | invalidStreamModifier service' call' value' =>
      simp only [pieces, List.flatMap_cons, Piece.chars_words, Piece.chars_bare, Piece.chars_quoted] at hpieces
      obtain ⟨rfl, hnames⟩ := Json.quote_append_inj (List.append_cancel_left hpieces)
      rw [told, told, eq_of_append_dot (List.append_cancel_left hnames)]
    | _ => simp [kind] at hkind

/-- **It tells no more.** -/
theorem message_eq_of_told_eq (h : e.told = e'.told) : e.message = e'.message := by
  have hmember : ∀ service call value, (invalidMemberType service call value).message =
      "Invalid member type " ++ quoteOrNone value ++ " for " ++ (service ++ "." ++ call) ++
        ", expected \"procedure\" or \"topic\"" := by
    intro service call value
    unfold message
    simp only [String.append_assoc]
  have hstream : ∀ service call value, (invalidStreamModifier service call value).message =
      "Invalid stream modifier " ++ Json.quote value ++ " for " ++ (service ++ "." ++ call) ++
        ", expected \"in\", \"out\" or \"inout\"" := by
    intro service call value
    unfold message
    simp only [String.append_assoc]
  cases e with
  | invalidMemberType service call value =>
    cases e' with
    | invalidMemberType service' call' value' =>
      obtain ⟨hnames, -, rfl⟩ := invalidMemberType.inj h
      rw [hmember, hmember, hnames]
    | _ => cases h
  | invalidStreamModifier service call value =>
    cases e' with
    | invalidStreamModifier service' call' value' =>
      obtain ⟨hnames, -, rfl⟩ := invalidStreamModifier.inj h
      rw [hstream, hstream, hnames]
    | _ => cases h
  | _ =>
    cases e' with
    | invalidMemberType service' call' value' => cases h
    | invalidStreamModifier service' call' value' => cases h
    | _ => exact congrArg message h

end CompileError

namespace Anomaly

variable {a a' : Anomaly}

theorem text_eq_append (a : Anomaly) : a.text = a.target.text ++ (" index " ++ (decimal a.index.toInt ++
    (" of field \"" ++ (a.told ++ "\" does not resolve")))) := by
  unfold text told
  simp only [String.append_assoc]

/-- **Two records with one text** are about the same index into the same list; of their names only what stands
between the marks is the same. -/
theorem text_eq_iff : a.text = a'.text ↔ a.target = a'.target ∧ a.index = a'.index ∧ a.told = a'.told := by
  constructor
  · intro h
    have hchars := congrArg String.toList h
    rw [text_eq_append, text_eq_append] at hchars
    simp only [String.toList_append] at hchars
    have htarget : a.target = a'.target := by
      cases htarget : a.target <;> cases htarget' : a'.target
      case enum.enum => rfl
      case object.object => rfl
      all_goals
        rw [htarget, htarget'] at hchars
        simp [Target.text] at hchars
    rw [htarget] at hchars
    have hblank : " of field \"".toList = ' ' :: "of field \"".toList := rfl
    have hindex := List.append_cancel_left (List.append_cancel_left hchars)
    rw [hblank] at hindex
    obtain ⟨hint, hnames⟩ := Json.decimal_append_inj (by simp [Json.isNumeral]) (by simp [Json.isNumeral]) hindex
    have htold := List.append_cancel_right (List.append_cancel_left hnames)
    exact ⟨htarget, Int32.toInt_inj.mp hint, String.toList_inj.mp htold⟩
  · rintro ⟨htarget, hindex, htold⟩
    rw [text_eq_append, text_eq_append, htarget, hindex, htold]

end Anomaly

/-! ## What a compile says -/

/-- **A message, name by name**: it is the same for all names but for the names in it, it quotes all but the bare
ones, and these alone can break its line. -/
structure CompileError.Worded (e : CompileError) : Prop where
  message : e.message.toList = e.pieces.flatMap Piece.chars
  rename : ∀ f, (e.rename f).pieces = e.pieces.map (Piece.rename f)
  bare_iff : ∀ n, .bare n ∈ e.pieces ↔ n ∈ e.bareNames
  printable_iff : Printable e.message ↔ ∀ n ∈ e.bareNames, Printable n

/-- **A record of the log, name by name**: both its names are bare, and quoted only where nothing is escaped. -/
structure Anomaly.Worded (a : Anomaly) : Prop where
  text : a.text.toList = a.pieces.flatMap Piece.chars
  rename : ∀ f, (a.rename f).pieces = a.pieces.map (Piece.rename f)
  bare_iff : ∀ n, .bare n ∈ a.pieces ↔ n = a.field ∨ n = a.object
  printable_iff : Printable a.text ↔ Printable a.field ∧ Printable a.object
  quoted_iff : a.text = a.quotedText ↔
    Json.quote a.field = "\"" ++ a.field ++ "\"" ∧ Json.quote a.object = "\"" ++ a.object ++ "\""

/-- **Which names a compile quotes.** The error it reports quotes all names but those of a service and a call
whose type or stream is invalid; so its message is printable unless one of these two is not, and tells
everything about the error but where the first of them ends. A record of its log quotes neither of its names:
it is printable just when both are, and tells them apart from other names only as far as what stands between
them does. -/
theorem compile_worded {b : Buffer} {source : Source} :
    (∀ e, compile b source = .error e → e.Worded ∧ ∀ b' source' e', compile b' source' = .error e' →
      (e.message = e'.message ↔ e.told = e'.told)) ∧
    ∀ c, compile b source = .ok c → ∀ a ∈ c.anomalies, a.Worded ∧ ∀ a' : Anomaly,
      (a.text = a'.text ↔ a.target = a'.target ∧ a.index = a'.index ∧ a.told = a'.told) := by
  constructor
  · intro e he
    have hreported := reported_of_compile he
    refine ⟨⟨e.toList_message, e.pieces_rename, fun _ => CompileError.bare_mem_pieces_iff,
      CompileError.printable_message_iff hreported⟩, fun b' source' e' he' => ?_⟩
    exact ⟨CompileError.told_eq_of_message_eq hreported (reported_of_compile he'),
      CompileError.message_eq_of_told_eq⟩
  · intro c _ a _
    exact ⟨⟨a.toList_text, fun _ => rfl, fun _ => Anomaly.bare_mem_pieces_iff, Anomaly.printable_text_iff,
      Anomaly.text_eq_quotedText_iff⟩, fun _ => Anomaly.text_eq_iff⟩

/-- **A call that is neither a procedure nor a topic.** -/
def untyped (service call : String) : SchemaSpec where
  services := [{ name := service, attributes := [("type", "interface")], calls := [{ name := call }] }]

/-- **A field that refers to an object which is not there.** -/
def dangling (object field : String) : SchemaSpec where
  objects := [{ name := object, fields := [{ name := field, base := 15, index := 7 }] }]

/-- The names of a call can be divided in two ways. -/
theorem compile_worded_untyped :
    (∃ e e', compile (.ofList (untyped "a" "b.c").bytes) {} = .error e ∧
      compile (.ofList (untyped "a.b" "c").bytes) {} = .error e' ∧ e.Worded ∧ e.message = e'.message) ∧
    ∃ c, compile (.ofList (dangling "Box" "x").bytes) {} = .ok c ∧ c.anomalies ≠ [] ∧
      ∀ a ∈ c.anomalies, a.Worded := by
  have he : compile (.ofList (untyped "a" "b.c").bytes) {} = .error (.invalidMemberType "a" "b.c" none) := by
    rw [SchemaSpec.compile_bytes _ (by decide +kernel)]
    decide +kernel
  have he' : compile (.ofList (untyped "a.b" "c").bytes) {} = .error (.invalidMemberType "a.b" "c" none) := by
    rw [SchemaSpec.compile_bytes _ (by decide +kernel)]
    decide +kernel
  obtain ⟨c, hc, hlog⟩ : ∃ c, compile (.ofList (dangling "Box" "x").bytes) {} = .ok c ∧ c.anomalies ≠ [] :=
    SchemaSpec.exists_compile (by decide +kernel) (by decide +kernel)
  obtain ⟨hworded, htold⟩ := compile_worded.1 _ he
  exact ⟨⟨_, _, he, he', hworded, (htold _ _ _ he').mpr (by decide +kernel)⟩, c, hc, hlog,
    fun a ha => ((compile_worded.2 c hc) a ha).1⟩

/-- **Two fields that refer to nothing**, each in an object of the other's making. -/
def confusable : SchemaSpec where
  objects := (dangling "c" "a\" in \"b").objects ++ (dangling "b\" in \"c" "a").objects

/-- **A bare name breaks the line of a message**, and two errors have one message; so it is with the log. -/
theorem messages_not_quoted :
    (∃ e, compile (.ofList (untyped "s" "x\ny").bytes) {} = .error e ∧ ¬ Printable e.message) ∧
    (∃ e e', compile (.ofList (untyped "a" "b.c").bytes) {} = .error e ∧
      compile (.ofList (untyped "a.b" "c").bytes) {} = .error e' ∧ e ≠ e' ∧ e.message = e'.message) ∧
    (∃ c, compile (.ofList (dangling "Box" "x\ny").bytes) {} = .ok c ∧
      ∃ a ∈ c.anomalies, ¬ Printable a.text ∧ a.text ≠ a.quotedText) ∧
    ∃ c, compile (.ofList confusable.bytes) {} = .ok c ∧
      ∃ a ∈ c.anomalies, ∃ a' ∈ c.anomalies, a ≠ a' ∧ a.text = a'.text := by
  have herror : ∀ service call, (untyped service call).WithinLimits →
      (untyped service call).decl.compile {} = .error (.invalidMemberType service call none) →
      compile (.ofList (untyped service call).bytes) {} = .error (.invalidMemberType service call none) :=
    fun service call hlimits h => ((untyped service call).compile_bytes hlimits {}).trans h
  have hline := herror "s" "x\ny" (by decide +kernel) (by decide +kernel)
  have hdot := herror "a" "b.c" (by decide +kernel) (by decide +kernel)
  have hdot' := herror "a.b" "c" (by decide +kernel) (by decide +kernel)
  refine ⟨⟨_, hline, by decide +kernel⟩, ⟨_, _, hdot, hdot', by decide +kernel, by decide +kernel⟩, ?_, ?_⟩
  · exact SchemaSpec.exists_compile (by decide +kernel) (by decide +kernel)
  · exact SchemaSpec.exists_compile (by decide +kernel) (by decide +kernel)

end InterfaceSchema
