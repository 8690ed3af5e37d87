import InterfaceSchema.Catalog.Compile

/-!
# Names in messages

A message is words of its own and, between them, names and values that were given by a user. These can be
anything, a quotation mark or a line break included, so most messages quote them. **Two kinds of errors and
the log do not**: the service and the call that an error is about stand bare, with a dot between them, and
the names in a record of the log stand between quotation marks but are not escaped.

To tell the two apart, a message is taken as a list of pieces (`CompileError.pieces`, `Anomaly.pieces`). Only
the words of a piece are the message's own; a name is a piece of its own, quoted or bare.
-/

namespace InterfaceSchema

/-- **A piece of a message.** -/
inductive Piece where
  /-- Words, which are the same for all names. -/
  | words (text : String)
  /-- A name between quotation marks, escaped. -/
  | quoted (name : String)
  /-- A name as it is. -/
  | bare (name : String)
  deriving DecidableEq

namespace Piece

/-- The characters of a piece. -/
def chars : Piece → List Char
  | words text => text.toList
  | quoted name => (Json.quote name).toList
  | bare name => name.toList

/-- The piece of the same message about other names. -/
def rename (f : String → String) : Piece → Piece
  | words text => words text
  | quoted name => quoted (f name)
  | bare name => bare (f name)

/-- A value, or the words for none. -/
def value : Option String → Piece
  | none => words "(none)"
  | some text => quoted text

end Piece

/-- **A text without control characters**, which stays on its line. -/
def Printable (text : String) : Prop := ∀ c ∈ text.toList, 0x20 ≤ c.toNat

instance (text : String) : Decidable (Printable text) :=
  decidable_of_iff (text.toList.all fun c => decide (0x20 ≤ c.toNat)) (by simp [Printable])

/-! ## Errors -/

namespace CompileError

/-- **The message of an error, in pieces.** -/
def pieces : CompileError → List Piece
  | malformed cause => [.words "Malformed schema: ", .words cause.message]
  | duplicateDefinition name none => [.words "Duplicate definition for ", .quoted name]
  | duplicateDefinition name (some scope) =>
    [.words "Duplicate definition for ", .quoted name, .words " in ", .quoted scope]
  | unhandledFieldType object field base element index =>
    [.words "Unhandled type for field ", .quoted field, .words " of ", .quoted object,
      .words ": base type ", .words (codeText base), .words ", element ",
      .words ((element.map codeText).getD "None"), .words ", index ", .words (decimal index.toInt)]
  | invalidAttribute entity key allowed =>
    [.words "Invalid attribute ", .quoted key, .words " on ", .quoted entity, .words ", allowed: ",
      .words (", ".intercalate allowed)]
  | invalidServiceType service value =>
    [.words "Invalid type ", .value value, .words " for service ", .quoted service,
      .words ", expected \"interface\""]
  | invalidMemberType service call value =>
    [.words "Invalid member type ", .value value, .words " for ", .bare service, .words ".", .bare call,
      .words ", expected \"procedure\" or \"topic\""]
  | invalidStreamModifier service call value =>
    [.words "Invalid stream modifier ", .quoted value, .words " for ", .bare service, .words ".", .bare call,
      .words ", expected \"in\", \"out\" or \"inout\""]

/-- **The same error about other names and values.** The attributes that are allowed are none of the user's. -/
def rename (f : String → String) : CompileError → CompileError
  | malformed cause => malformed cause
  | duplicateDefinition name within => duplicateDefinition (f name) (within.map f)
  | unhandledFieldType object field base element index =>
    unhandledFieldType (f object) (f field) base element index
  | invalidAttribute entity key allowed => invalidAttribute (f entity) (f key) allowed
  | invalidServiceType service value => invalidServiceType (f service) (value.map f)
  | invalidMemberType service call value => invalidMemberType (f service) (f call) (value.map f)
  | invalidStreamModifier service call value => invalidStreamModifier (f service) (f call) (f value)

/-- **The names that a message does not quote.** -/
def bareNames : CompileError → List String
  | invalidMemberType service call _ => [service, call]
  | invalidStreamModifier service call _ => [service, call]
  | _ => []

/-- **What a message tells of an error**: of a call that is not quoted, it does not tell where the name of the
service ends. -/
def told : CompileError → CompileError
  | invalidMemberType service call value => invalidMemberType (service ++ "." ++ call) "" value
  | invalidStreamModifier service call value => invalidStreamModifier (service ++ "." ++ call) "" value
  | e => e

end CompileError

/-! ## The log -/

namespace Anomaly

/-- **A record of the log, in pieces.** -/
def pieces (a : Anomaly) : List Piece :=
  [.words a.target.text, .words " index ", .words (decimal a.index.toInt), .words " of field \"", .bare a.field,
    .words "\" in \"", .bare a.object, .words "\" does not resolve"]

/-- The same record about other names. -/
def rename (f : String → String) (a : Anomaly) : Anomaly := { a with object := f a.object, field := f a.field }

/-- The words of a record with two names in them. -/
def sentence (a : Anomaly) (field object : String) : String :=
  a.target.text ++ " index " ++ decimal a.index.toInt ++ " of field " ++ field ++ " in " ++ object ++
    " does not resolve"

/-- **The record with its names quoted.** -/
def quotedText (a : Anomaly) : String := a.sentence (Json.quote a.field) (Json.quote a.object)

/-- The names of a record with what stands between them. -/
def told (a : Anomaly) : String := a.field ++ "\" in \"" ++ a.object

end Anomaly

end InterfaceSchema
