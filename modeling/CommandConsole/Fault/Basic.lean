/-
Faults: what a console reports to the one who typed a line, and the errors
that end an operation.

A fault is an error or a warning. It has a message and options: the code,
the title and the hint that are shown with it, the details of the stage
that failed, and how it is to be delivered.
-/
import CommandConsole.Command.Basic
import CommandConsole.Fault.Code

namespace CommandConsole

/-- The kinds of faults. -/
inductive FaultKind where
  /-- An error of no particular kind. -/
  | exception
  | commandNotFound
  | arityMismatch
  | parameterCoercion
  | unknownType
  | callback
  /-- A warning of no particular kind. -/
  | warning
  | duplicateRegistration
deriving DecidableEq

namespace FaultKind

/-- The name of a kind of faults. -/
def label : FaultKind → String
  | .exception => "ConsoleException"
  | .commandNotFound => "CommandNotFoundError"
  | .arityMismatch => "ArityMismatchError"
  | .parameterCoercion => "ParameterCoercionError"
  | .unknownType => "UnknownCoercionTypeError"
  | .callback => "CallbackError"
  | .warning => "ConsoleWarning"
  | .duplicateRegistration => "DuplicateRegistrationWarning"

/-- All kinds of faults. -/
def all : List FaultKind :=
  [.exception, .commandNotFound, .arityMismatch, .parameterCoercion,
   .unknownType, .callback, .warning, .duplicateRegistration]

/-- The kind of faults with a name. -/
def named? (name : String) : Option FaultKind :=
  all.find? fun kind => kind.label == name

/-- Faults of the kind warn of something and end nothing. -/
def isWarning : FaultKind → Bool
  | .warning | .duplicateRegistration => true
  | _ => false

end FaultKind

/-- What an option of a fault holds, where `ε` are the errors. -/
inductive Detail (ε : Type) where
  | object (x : Object)
  | code (code : FaultCode)
  | command (o : Outline)
  | parameter (p : Parameter)
  | error (e : ε)
  | conflicts (identifiers : List String)
  | type (t : Ty)
  /-- The output of the console. -/
  | output

/-- A fault, where `ε` are the errors that its options may hold. -/
structure FaultOf (ε : Type) where
  kind : FaultKind
  /-- The message, unless it was not given. -/
  message : Option String
  /-- The options by name, each name once. -/
  options : List (String × Detail ε)

/-- What ends an operation before its time. -/
inductive Raised where
  /-- An operation refuses what it is given. -/
  | problem (p : Problem)
  /-- A fault that is an error. -/
  | fault (f : FaultOf Raised)
  /-- An error of host code, with the name of its class. -/
  | host (label : String) (argument : Option Object)
  /-- An interruption, which no one takes for an error. -/
  | interrupt (label : String) (argument : Option Object)
  /-- The end of the application. -/
  | exit (code : Object)

/-- A fault. -/
abbrev Fault := FaultOf Raised

namespace Detail

variable {ε : Type}

/-- A detail counts as true. -/
def truthy : Detail ε → Bool
  | .object x => x.truthy
  | _ => true

/-- A text as a detail. -/
def text (s : String) : Detail ε := .object (.text s)

/-- A truth value as a detail. -/
def flag (b : Bool) : Detail ε := .object (.bool b)

end Detail

namespace FaultOf

variable {ε : Type}

/-- What an option holds, if the fault has it. -/
def option? (f : FaultOf ε) (name : String) : Option (Detail ε) :=
  f.options.lookup name

/-- Options with one of them set to a detail, in its place if it is there
and at the end otherwise. -/
def setOption (options : List (String × Detail ε)) (name : String) (d : Detail ε) :
    List (String × Detail ε) :=
  match options with
  | [] => [(name, d)]
  | entry :: rest =>
      if entry.1 = name then (name, d) :: rest else entry :: setOption rest name d

/-- Options overwritten by others. -/
def merge (options overrides : List (String × Detail ε)) : List (String × Detail ε) :=
  overrides.foldl (fun merged entry => setOption merged entry.1 entry.2) options

/-- A fault with other options, which overwrite its own. -/
def replace (f : FaultOf ε) (overrides : List (String × Detail ε)) : FaultOf ε :=
  { f with options := merge f.options overrides }

/-- The operation that replaces the options of faults of a kind. -/
def replacement (kind : FaultKind) : String :=
  (if kind.isWarning then FaultKind.warning else FaultKind.exception).label
    ++ ".__replace__"

/-- Replacing takes options by name only, and the fault itself goes by a
name that no option can have then. -/
def replaceOf (f : FaultOf ε) (unused : List Object)
    (overrides : List (String × Detail ε)) : Except Problem (FaultOf ε) :=
  if (overrides.lookup "self").isSome then
    .error (.takenOption (replacement f.kind) "self")
  else if unused.isEmpty then .ok (f.replace overrides)
  else .error (.unusedArguments f.kind.isWarning)

/-- The text of a fault: its message. -/
def text (f : FaultOf ε) : String := f.message.getD Object.unset.written

/-- The fault counts as having an option; one it does not have counts as
`missing` says. -/
def holds (f : FaultOf ε) (name : String) (missing : Bool) : Bool :=
  match f.option? name with
  | some d => d.truthy
  | none => missing

/-- A fault with the message that an operation was given. -/
def withMessage (kind : FaultKind) (message : Object)
    (options : List (String × Detail ε)) : Except Problem (FaultOf ε) :=
  match message with
  | .text s => .ok ⟨kind, some s, options⟩
  | .unset => .ok ⟨kind, none, options⟩
  | _ => .error .messageNotText

end FaultOf

namespace Raised

/-- The name of the class of an error. -/
def label : Raised → String
  | .problem p => p.kind.label
  | .fault f => f.kind.label
  | .host label _ => label
  | .interrupt label _ => label
  | .exit _ => "SystemExit"

/-- The text of an error of host code: what it was raised with. An error
about a key shows it as it is written in code. -/
def hostText (label : String) : Option Object → String
  | none => ""
  | some x => if label = "KeyError" then x.written else x.display

/-- The text of an error. -/
def text : Raised → String
  | .problem p => p.message
  | .fault f => f.text
  | .host label argument => hostText label argument
  | .interrupt label argument => hostText label argument
  | .exit code => code.display

/-- An error that a console catches and reports. Interruptions and the end
of the application pass through. -/
def isCaught : Raised → Bool
  | .problem _ | .fault _ | .host _ _ => true
  | .interrupt _ _ | .exit _ => false

end Raised

/-- The name of the class of what an option of a fault holds. -/
def Detail.className : Detail Raised → String
  | .object x => x.className
  | .code _ => "FaultCode"
  | .command _ => "Command"
  | .parameter _ => "Parameter"
  | .error e => e.label
  | .conflicts _ => "frozenset"
  | .type (.value x) => x.className
  | .type _ => "type"
  | .output => "Console"

end CommandConsole
