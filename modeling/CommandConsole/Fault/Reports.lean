/-
The faults that a console reports, one for each way in which a line or a
registration fails. Each has a title, a hint at what helps, and what the
host documents about its code.
-/
import CommandConsole.Dispatch
import CommandConsole.Fault.Host
import CommandConsole.Ordinal

namespace CommandConsole.Fault

/-- The options of every report: its title, its code, its hint and what
documents the code. -/
def heading (h : Host) (title : String) (code : FaultCode) (hint : String) :
    List (String × Detail Raised) :=
  [("title", .text title), ("code", .code code), ("hint", .text hint),
   ("docs", .object (h.doc code))]

/-- The hint for a line that names no command. -/
def notFoundHint (similar : List String) : String :=
  match similar with
  | best :: _ =>
      "did you mean " ++ Text.quoted best
        ++ "? you can also run 'commands' to see them all"
  | [] => "run 'commands' to see all available commands"

/-- The line names no command. -/
def commandNotFound (h : Host) (line token : String) (similar : List String) : Fault :=
  ⟨.commandNotFound,
    some ("could not find the specified command " ++ Text.quoted token),
    heading h "command not found" .commandNotFound (notFoundHint similar)
      ++ [("input", .text line), ("token", .text token),
        ("suggestions", .object (.list (similar.map .text)))]⟩

/-- The line has too few arguments. -/
def arityMismatch (h : Host) (line : String) (o : Outline) (given : Nat) : Fault :=
  ⟨.arityMismatch,
    some ("invalid number of parameters for " ++ Text.quoted o.name
      ++ ": expected " ++ toString o.parameters.length ++ " but "
      ++ toString given ++ " were given"),
    heading h "invalid number of parameters" .arityMismatch ("use: " ++ o.usage)
      ++ [("input", .text line), ("command", .command o)]⟩

/-- How an argument may be spelled that could not be converted. -/
def spellings (p : Parameter) : String :=
  let hint :=
    match p.type with
    | .bool => "use true/false or 1/0"
    | .enumeration e => "use one of: " ++ " · ".intercalate (e.named.map (·.1))
    | _ => "pass a value convertible to " ++ p.typeLabel
  if p.nullable then hint ++ ", or 'null' for no value" else hint

/-- Where in a line an argument stands that could not be converted. -/
structure Place where
  line : String
  command : Outline
  /-- The position of the argument, from one. -/
  index : Nat
  token : String
  parameter : Parameter

/-- The options that tell the place. -/
def Place.options (p : Place) : List (String × Detail Raised) :=
  [("input", .text p.line), ("token", .text p.token),
   ("index", .object (.int p.index)), ("command", .command p.command),
   ("parameter", .parameter p.parameter)]

/-- An argument cannot be converted. -/
def parameterCoercion (h : Host) (p : Place) (e : Raised) : Fault :=
  ⟨.parameterCoercion,
    some ("invalid parameter type " ++ Text.quoted p.token ++ " at "
      ++ Text.ordinal p.index ++ " position, expected " ++ p.parameter.usage),
    heading h "invalid parameter type" .parameterCoercion (spellings p.parameter)
      ++ p.options ++ [("exception", .error e)]⟩

/-- Nothing converts tokens to a type. -/
def unknownType (type : Ty) : Fault :=
  ⟨.unknownType,
    some ("no parser is registered for type " ++ Text.quoted type.label),
    [("title", .text "unknown parameter type"), ("code", .code .unknownType),
     ("type", .type type)]⟩

/-- What is told about a fault of an unknown type once its place is
known. -/
def unknownTypeOptions (h : Host) (p : Place) : List (String × Detail Raised) :=
  [("hint", .text ("register a parser with register_type() before using "
      ++ p.parameter.usage)),
   ("docs", .object (h.doc .unknownType))] ++ p.options

/-- The fault that reports why an argument could not be converted. A fault
of an unknown type is kept and told its place. -/
def ofCoercion (h : Host) (p : Place) (e : Raised) : Fault :=
  match e with
  | .fault ⟨.unknownType, message, options⟩ =>
      FaultOf.replace ⟨.unknownType, message, options⟩ (unknownTypeOptions h p)
  | e => parameterCoercion h p e

/-- What went wrong, or the name of the error if it says nothing. -/
def reason (e : Raised) : String := if e.text = "" then e.label else e.text

/-- The routine of the command failed. -/
def callbackFailed (h : Host) (line : String) (o : Outline) (e : Raised) : Fault :=
  ⟨.callback,
    some ("command " ++ Text.quoted o.name ++ " failed: " ++ reason e),
    heading h "command failed" .callbackThrew ("check the values passed to " ++ o.usage)
      ++ [("input", .text line), ("command", .command o), ("exception", .error e)]⟩

/-- The command was not registered, since others have some of its
identifiers. -/
def duplicateCommand (h : Host) (o : Outline) (conflicts : List String) : Fault :=
  ⟨.duplicateRegistration,
    some ("command " ++ Text.quoted o.name
      ++ " conflicts with already registered name(s) "
      ++ ", ".intercalate (conflicts.map Text.quoted)),
    heading h "duplicate registration" .duplicateRegistration
        "pick another name or alias, or remove the existing command first"
      ++ [("command", .command o), ("conflicts", .conflicts conflicts)]⟩

/-- The name of a type, quoted, or the type as it is written in code if it
has no name. -/
def quotedType (type : Ty) : String :=
  match type.name? with
  | some name => Text.quoted name
  | none => type.written

/-- The parser was not registered, since the type has one. -/
def duplicateParser (h : Host) (type : Ty) : Fault :=
  ⟨.duplicateRegistration,
    some ("a parser for type " ++ quotedType type ++ " is already registered"),
    heading h "duplicate registration" .duplicateRegistration
        "the first registration is kept; register a distinct type instead"
      ++ [("type", .type type)]⟩

end CommandConsole.Fault
