import InterfaceSchema.Json.Basic
import InterfaceSchema.Schema.Declaration

/-!
# Why a schema does not compile

Each cause is a case of `CompileError` with the names and values it is about, and `CompileError.message`
is the one place that puts it into words. A field's types are reported by their codes; the words show the
name of a base type, or the number after a hash sign where the code is that of none.
-/

namespace InterfaceSchema

/-- **A cause that stops a compile.** -/
inductive CompileError where
  /-- The bytes are no reflection schema. -/
  | malformed (cause : MalformedSchema)
  /-- A name is declared twice: at the top level, or within an enum. -/
  | duplicateDefinition (name : String) (within : Option String)
  /-- A field has a type that means nothing, or one whose index addresses nothing. -/
  | unhandledFieldType (object field : String) (base : Int8) (element : Option Int8) (index : Int32)
  /-- An attribute that interfaces do not know. -/
  | invalidAttribute (entity key : String) (allowed : List String)
  /-- A service that is not marked as an interface. -/
  | invalidServiceType (service : String) (value : Option String)
  /-- A call that is neither a procedure nor a topic. -/
  | invalidMemberType (service call : String) (value : Option String)
  /-- A call whose stream modifier has no meaning. -/
  | invalidStreamModifier (service call value : String)
  deriving DecidableEq

/-- A value between quotation marks, or `(none)`. -/
def quoteOrNone : Option String → String
  | none => "(none)"
  | some text => Json.quote text

namespace CompileError

/-- The scope of a definition in a message. -/
def withinText : Option String → String
  | none => ""
  | some scope => " in " ++ Json.quote scope

/-- **The cause in words.** -/
def message : CompileError → String
  | malformed cause => "Malformed schema: " ++ cause.message
  | duplicateDefinition name within =>
    "Duplicate definition for " ++ Json.quote name ++ withinText within
  | unhandledFieldType object field base element index =>
    "Unhandled type for field " ++ Json.quote field ++ " of " ++ Json.quote object ++ ": base type " ++
      codeText base ++ ", element " ++ (element.map codeText).getD "None" ++ ", index " ++
      decimal index.toInt
  | invalidAttribute entity key allowed =>
    "Invalid attribute " ++ Json.quote key ++ " on " ++ Json.quote entity ++ ", allowed: " ++
      ", ".intercalate allowed
  | invalidServiceType service value =>
    "Invalid type " ++ quoteOrNone value ++ " for service " ++ Json.quote service ++
      ", expected \"interface\""
  | invalidMemberType service call value =>
    "Invalid member type " ++ quoteOrNone value ++ " for " ++ service ++ "." ++ call ++
      ", expected \"procedure\" or \"topic\""
  | invalidStreamModifier service call value =>
    "Invalid stream modifier " ++ Json.quote value ++ " for " ++ service ++ "." ++ call ++
      ", expected \"in\", \"out\" or \"inout\""

end CompileError

end InterfaceSchema
