/-
What a host application settles about its consoles: its own labels of the
fault codes, texts that document them, the name of the program, and the
styles of what is shown.
-/
import CommandConsole.Fault.Basic

namespace CommandConsole

/-- The settings of a host. -/
structure Host where
  codes : List (FaultCode × Object)
  docs : List (FaultCode × Object)
  /-- The name of the program, if the host tells it. -/
  program? : Option Object
  /-- The styles of the parts of what is shown. -/
  styles : List (String × Object)

namespace Host

/-- A host that settles nothing. -/
def quiet : Host := ⟨[], [], none, []⟩

/-- The label of a fault code. -/
def codeLabel (h : Host) (code : FaultCode) : String :=
  match h.codes.lookup code with
  | some x => x.display
  | none => toString code.number

/-- What documents a fault code. -/
def doc (h : Host) (code : FaultCode) : Object := (h.docs.lookup code).getD .none

/-- What documents the fault code that an operation was given. -/
def docOf (h : Host) (code : Option FaultCode) : Except Problem Object :=
  match code with
  | some code => .ok (h.doc code)
  | none => .error .notFaultCode

/-- The style of a part of what is shown: the host's, or else the given
one. -/
def style (h : Host) (own : List (String × String)) (part : String) : Object :=
  match h.styles.lookup part with
  | some x => x
  | none => .text ((own.lookup part).getD "")

end Host

end CommandConsole
