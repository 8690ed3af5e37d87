import InterfaceSchema.CompileError
import InterfaceSchema.FileSystem
import InterfaceSchema.Unicode.Properties

/-!
# Diagnostics

What a failing run says. A `Failure` is a file that cannot be read or written, or a schema that does not
compile. It has two texts: a sentence (`Failure.message`), and the cause with all it is about, written out
field by field (`Failure.diagnostic`).

In the second text **every name is legible whatever it contains**: a string stands between quotation
marks, and a character that cannot be shown, or that would attach to the one before it, is written by its
code.
-/

namespace InterfaceSchema

/-- **Why a run fails.** -/
inductive Failure where
  | file (cause : FileError)
  | schema (cause : CompileError)
  deriving DecidableEq

/-- **The failure as a sentence.** -/
def Failure.message : Failure → String
  | file cause => "I/O error: " ++ cause.message
  | schema cause => cause.message

namespace Diagnostic

/-- A number in lower-case hexadecimal. -/
def hexadecimal (n : Nat) : List Char := Nat.toDigits 16 n

/-- **One character inside a string.** -/
def escape (c : Char) : List Char :=
  if c = '\x00' then ['\\', '0']
  else if c = '\t' then ['\\', 't']
  else if c = '\r' then ['\\', 'r']
  else if c = '\n' then ['\\', 'n']
  else if c = '\\' then ['\\', '\\']
  else if c = '"' then ['\\', '"']
  else if Unicode.extendsGrapheme c || !Unicode.isPrintable c then
    ['\\', 'u', '\x7b'] ++ hexadecimal c.toNat ++ ['\x7d']
  else [c]

/-- **A string between quotation marks.** -/
def string (text : String) : String :=
  String.ofList ('"' :: (text.toList.flatMap escape ++ ['"']))

/-- A string that may be missing. -/
def optional : Option String → String
  | none => "None"
  | some text => "Some(" ++ string text ++ ")"

/-- Strings in order. -/
def list (texts : List String) : String := "[" ++ ", ".intercalate (texts.map string) ++ "]"

/-- **A cause with named fields.** -/
def record (name : String) (fields : List (String × String)) : String :=
  name ++ " \x7b " ++ ", ".intercalate (fields.map fun f => f.1 ++ ": " ++ f.2) ++ " \x7d"

/-- A cause with one field that needs no name. -/
def tuple (name value : String) : String := name ++ "(" ++ value ++ ")"

/-- The word for the kind of a failure. -/
def fileErrorKind : FileError → String
  | .notFound => "NotFound"
  | .notDirectory => "NotADirectory"
  | .isDirectory => "IsADirectory"
  | .nameTooLong => "InvalidFilename"
  | .unusablePath => "InvalidInput"
  | .other _ _ => "Other"

/-- A failure on files, written out. -/
def fileError (e : FileError) : String :=
  match e.code? with
  | some code =>
    record "Os"
      [("code", decimal code), ("kind", fileErrorKind e), ("message", string e.description)]
  | none => record "Error" [("kind", fileErrorKind e), ("message", string e.description)]

/-- A buffer that is no schema, written out. -/
def malformedSchema : MalformedSchema → String
  | .tooShort length => tuple "TooShort" (decimal length)
  | .missingIdentifier => "MissingIdentifier"
  | .badRootOffset offset => tuple "BadRootOffset" (decimal offset)

/-- A schema that does not compile, written out. -/
def compileError : CompileError → String
  | .malformed cause => tuple "MalformedSchema" (malformedSchema cause)
  | .duplicateDefinition name within =>
    record "DuplicateDefinition" [("name", string name), ("within", optional within)]
  | .unhandledFieldType object field base element index =>
    record "UnhandledFieldType"
      [("object", string object), ("field", string field), ("base_type", string (codeText base)),
       ("element", optional (element.map codeText)), ("index", decimal index.toInt)]
  | .invalidAttribute entity key allowed =>
    record "InvalidAttribute"
      [("entity", string entity), ("key", string key), ("allowed", list allowed)]
  | .invalidServiceType service value =>
    record "InvalidServiceType" [("service", string service), ("value", optional value)]
  | .invalidMemberType service call value =>
    record "InvalidMemberType"
      [("service", string service), ("call", string call), ("value", optional value)]
  | .invalidStreamModifier service call value =>
    record "InvalidStreamModifier"
      [("service", string service), ("call", string call), ("value", string value)]

end Diagnostic

/-- **The failure with all it is about.** -/
def Failure.diagnostic : Failure → String
  | file cause => Diagnostic.tuple "Io" (Diagnostic.fileError cause)
  | schema cause => Diagnostic.compileError cause

end InterfaceSchema
