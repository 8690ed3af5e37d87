import InterfaceSchema.Catalog.Document
import InterfaceSchema.Pattern.Reader

/-!
# Arguments

Two commands: `compile` turns a schema into a document, `inspect` prints the interfaces of one. A command
line is read into a `Command` or is a usage error, before any file is touched.

The first argument is the command. The others are options: a long one has its value after an equals sign
or in the next argument, a short one right behind it, after an equals sign, or in the next argument. **A
value in an argument of its own does not start with a hyphen**, unless it is a hyphen alone. Each option
may be given once, the input must be given, and no other arguments are known. An argument of two hyphens
ends the options.
-/

namespace InterfaceSchema

/-- **What `compile` is asked for.** -/
structure CompileOptions where
  input : String
  /-- Where to write the document, `none` for the standard output. -/
  output : Option String := none
  pretty : Bool := false
  layout : Layout := .byName
  /-- The names to keep, `none` for all. -/
  only : Option Pattern.Expr := none

/-- **A command with its options.** -/
inductive Command where
  | compile (options : CompileOptions)
  | inspect (input : String)

/-- The test on names that the options ask for. -/
def CompileOptions.keep (o : CompileOptions) (name : String) : Bool :=
  match o.only with
  | none => true
  | some pattern => pattern.isMatch name

namespace CommandLine

/-- **An option of a command.** -/
inductive Flag where
  | input
  | output
  | pretty
  | layout
  | only
  deriving DecidableEq

/-- Whether an option has a value. -/
def Flag.hasValue : Flag → Bool
  | pretty => false
  | _ => true

/-- The options of a command by their long names. -/
abbrev Known := List (String × Flag)

/-- The options of `compile`. -/
def compileFlags : Known :=
  [("input", .input), ("output", .output), ("pretty", .pretty), ("layout", .layout), ("only", .only)]

/-- The options of `inspect`. -/
def inspectFlags : Known := [("input", .input)]

/-- The option of a short name, among those that are known. -/
def shortFlag? (known : Known) (c : Char) : Option Flag :=
  let flag? : Option Flag :=
    if c = 'i' then some .input else if c = 'o' then some .output else none
  flag?.filter fun flag => known.any fun entry => entry.2 = flag

/-- **One argument**: an option with the value in the same argument, if any, or the end of the options. -/
inductive Argument where
  | flag (flag : Flag) (value : Option String)
  | endOfOptions

/-- **An argument that is not a value**, if it is one that is known. -/
def argument? (known : Known) (text : String) : Option Argument :=
  match text.toList with
  | ['-', '-'] => some .endOfOptions
  | '-' :: '-' :: rest =>
    let name := rest.takeWhile (· != '=')
    let value :=
      match rest.dropWhile (· != '=') with
      | _ :: value => some (String.ofList value)
      | [] => none
    (known.lookup (String.ofList name)).map fun flag => .flag flag value
  | '-' :: c :: rest =>
    let value :=
      match rest with
      | [] => none
      | '=' :: value => some (String.ofList value)
      | value => some (String.ofList value)
    (shortFlag? known c).map fun flag => .flag flag value
  | _ => none

/-- Whether an argument can be the value of the option before it. -/
def isValue (text : String) : Bool :=
  match text.toList with
  | '-' :: _ :: _ => false
  | _ => true

/-- **The options that are given, in order, with their values.** -/
def options? (known : Known) : List String → Option (List (Flag × String))
  | [] => some []
  | text :: rest =>
    match argument? known text with
    | none => none
    | some .endOfOptions => if rest.isEmpty then some [] else none
    | some (.flag flag (some value)) =>
      if flag.hasValue then (options? known rest).map ((flag, value) :: ·) else none
    | some (.flag flag none) =>
      if !flag.hasValue then (options? known rest).map ((flag, "") :: ·)
      else
        match rest with
        | value :: rest =>
          if isValue value then (options? known rest).map ((flag, value) :: ·) else none
        | [] => none

/-- The path that an option gives, which must not be empty. -/
def path? (options : List (Flag × String)) (flag : Flag) : Option (Option String) :=
  match options.lookup flag with
  | none => some none
  | some path => if path.isEmpty then none else some (some path)

/-- **The command of a command line**, `none` for a usage error. -/
def command? : List String → Option Command
  | "compile" :: arguments => do
    let options ← options? compileFlags arguments
    if !(decide (options.map Prod.fst).Nodup) then none
    else
      let input ← (← path? options .input)
      let output ← path? options .output
      let layout ← (Layout.ofText ((options.lookup .layout).getD "uri")).toOption
      let only ←
        match options.lookup .only with
        | none => some none
        | some text => (Pattern.Expr.ofText? text).map some
      return .compile
        { input := input
          output := output
          pretty := (options.lookup .pretty).isSome
          layout := layout
          only := only }
  | "inspect" :: arguments => do
    let options ← options? inspectFlags arguments
    if !(decide (options.map Prod.fst).Nodup) then none
    else
      let input ← (← path? options .input)
      return .inspect input
  | _ => none

end CommandLine

end InterfaceSchema
