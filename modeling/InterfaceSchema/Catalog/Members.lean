import InterfaceSchema.Catalog.Basic
import InterfaceSchema.CompileError

/-!
# What makes an interface

A service is an interface when its attributes say so, and its calls are members when theirs do. The rules
are few: **an interface knows the attributes `type` and `uuid`, a member `type` and `stream`**, and any
other key is an error. The type of an interface is `interface`, that of a member `procedure` or `topic`;
a stream modifier is one of three directions or one of four spellings of none.

An attribute without a value counts as absent, and the name of a call's object counts as no payload when
it is empty or the name of the type that holds nothing.
-/

namespace InterfaceSchema

/-- The attributes an interface may have. -/
def interfaceAttributes : List String := ["type", "uuid"]

/-- The attributes a member of an interface may have. -/
def memberAttributes : List String := ["type", "stream"]

/-- **Attributes whose keys are all allowed**; the first that is not is the error. -/
def restrictAttributes (entity : String) (attributes : Attributes) (allowed : List String) :
    Except CompileError Attributes :=
  match attributes.keys.find? fun key => !allowed.contains key with
  | none => .ok attributes
  | some key => .error (.invalidAttribute entity key allowed)

/-- **The value of an attribute**; a key without a value has none. -/
def attributeValue (attributes : Attributes) (key : String) : Option String :=
  (attributes.get? key).bind id

/-- **A service is an interface**, or an error. -/
def checkInterface (service : String) (value : Option String) : Except CompileError Unit :=
  if value = some "interface" then .ok () else .error (.invalidServiceType service value)

/-- **The kind of a member.** -/
def memberKind (service call : String) (value : Option String) : Except CompileError MemberKind :=
  if value = some "procedure" then .ok .procedure
  else if value = some "topic" then .ok .topic
  else .error (.invalidMemberType service call value)

/-- The spellings of no stream. -/
def noStream : List String := ["none", "None", "null", "Null"]

/-- **The stream modifier of a member.** -/
def streamModifier (service call : String) : Option String → Except CompileError (Option Stream)
  | none => .ok none
  | some value =>
    if noStream.contains value then .ok none
    else if value = "in" then .ok (some .input)
    else if value = "out" then .ok (some .output)
    else if value = "inout" then .ok (some .both)
    else .error (.invalidStreamModifier service call value)

/-- The names of the type that holds nothing, and the empty name. -/
def voidNames : List String := ["", "Void", "wamp.Void"]

/-- **The payload type of a call**, from the name of the object it refers to. -/
def payloadType : Option String → Option String
  | none => none
  | some name => if voidNames.contains name then none else some name

end InterfaceSchema
