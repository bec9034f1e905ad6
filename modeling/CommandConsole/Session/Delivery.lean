/-
Delivery of faults.

A fault gets the options of the console and of whoever triggers it. It is
delivered once: to the fallback if there is one, and otherwise to where its
own options say, to the output or to the caller. The last error that was
triggered is the fault of the session.
-/
import CommandConsole.Fault.Shown
import CommandConsole.Session.Basic

namespace CommandConsole.Session

variable {σ : Type}

/-- Writes a fault to the output of the console. -/
def printFault (f : Fault) : Action σ Unit := do
  let s ← Action.session
  let text ← Action.ofExcept (Fault.shown s.host s.terminal f)
  Action.note (.wrote text)

/-- Shows a fault on the output it names. Nothing else can show one. -/
def display (f : Fault) : Action σ Unit :=
  match f.option? "output" with
  | none => printFault f
  | some .output => printFault f
  | some d => Action.refuse (.noMethod d.className "print")

/-- Brings a fault to where its options say: to the output, or else to the
caller if it is an error, and to the one who listens for warnings if it is
a warning. -/
def surface (f : Fault) : Action σ Unit :=
  if f.holds "shell" true then display f
  else if f.kind.isWarning then Action.note (.warned f)
  else throw (.fault f)

/-- The fault that an operation was given. -/
def asFault : FaultCandidate → Except Problem Fault
  | .fault f => .ok f
  | .object _ => .error .notFault

/-- Surfaces what is offered as a fault, with options of the caller. -/
def surfaceOf (candidate : FaultCandidate) (options : List (String × Detail Raised)) :
    Action σ Unit := do
  let f ← Action.ofExcept (asFault candidate)
  surface (← Action.ofExcept (f.replaceOf [] options))

variable (start : Program σ → Action σ Reply)

/-- Delivers a fault. -/
def deliver (f : Fault) : Action σ Unit := do
  Action.note (.delivered f)
  match (← Action.session).fallback? with
  | some receive => discard (start (receive f))
  | none => surface f

/-- Triggers a fault: it is completed by the options of the console and
then by the given ones, kept if it is an error, and delivered. -/
def trigger (f : Fault) (options : List (String × Detail Raised)) : Action σ Fault := do
  let s ← Action.session
  let full ← Action.ofExcept (f.replaceOf [] (FaultOf.merge s.settings.options options))
  if !full.kind.isWarning then modify fun s => { s with fault? := some full }
  deliver start full
  return full

/-- Reports a fault of a run, which has failed with it. -/
def fail (f : Fault) : Action σ Bool := do
  discard (trigger start f [])
  return false

/-- Sets or removes the fallback. -/
def setFallback (candidate : FallbackCandidate (Program σ)) : Action σ Unit :=
  match candidate with
  | .routine receive => modify fun s => { s with fallback? := some receive }
  | .object .none => modify fun s => { s with fallback? := none }
  | .object _ => Action.refuse .fallbackNotCallable

end CommandConsole.Session
