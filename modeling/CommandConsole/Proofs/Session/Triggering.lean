/-
What triggering a fault comes to.

The fault that is handed on has the kind and the message of the given one.
Its options are those of the given one, overwritten by the options of the
console, and these by the ones of whoever triggers it. It is delivered once,
in one of the ways that `Delivery` lists; which one it is follows from the
receiver of the session and from the options of the fault. An error is the
fault of the session before it is delivered, and so it stays that if the
delivery raises something (`trigger_delivers`).

Faults are values: the given one has the message and the options afterwards
that it had before, and so have those that the session has told of.
-/
import CommandConsole.Proofs.Session.Course
import CommandConsole.Proofs.Session.Reporting

namespace CommandConsole.Session

open CommandConsole.Action

variable {σ : Type} (start : Program σ → Action σ Reply)

/-- What comes of triggering a fault when what receives it has come to an
end: the fault is answered, unless something was raised. -/
def handedOn (f : Fault) (result : Except Raised Reply × Session σ) :
    Except Raised Reply × Session σ :=
  (result.1.map fun _ => .fault f, result.2)

/-- How triggering may end when a fault is handed on. A receiver gets it, and
triggering ends as the receiver does. Without a receiver the fault is written
to its output, if it is to be shown, and the reason is raised if it cannot be
laid out or if its output is none; a warning that is not to be shown is given
to the one who listens for warnings, and an error is raised. -/
inductive Delivery (s : Session σ) (f : Fault) : Except Raised Reply × Session σ → Prop
  | received {receive : Fault → Program σ} (hreceiver : s.fallback? = some receive) :
      Delivery s f (handedOn f (within (delivering s f) (start (receive f))))
  | shown {text : String} (hnone : s.fallback? = none) (hshell : f.holds "shell" true = true)
      (houtput : f.option? "output" = some .output)
      (htext : Fault.shown s.host s.terminal f = .ok text) :
      Delivery s f
        (.ok (.fault f), { delivering s f with events := [.wrote text, .delivered f] ++ s.events })
  | unreadable {p : Problem} (hnone : s.fallback? = none) (hshell : f.holds "shell" true = true)
      (houtput : f.option? "output" = some .output)
      (hproblem : Fault.shown s.host s.terminal f = .error p) :
      Delivery s f (.error (.problem p), delivering s f)
  | noOutput {d : Detail Raised} (hnone : s.fallback? = none)
      (hshell : f.holds "shell" true = true) (houtput : f.option? "output" = some d)
      (hother : d ≠ .output) :
      Delivery s f (.error (.problem (.noMethod d.className "print")), delivering s f)
  | warned (hnone : s.fallback? = none) (hshell : f.holds "shell" true = false)
      (hkind : f.kind.isWarning = true) :
      Delivery s f
        (.ok (.fault f), { delivering s f with events := [.warned f, .delivered f] ++ s.events })
  | raised (hnone : s.fallback? = none) (hshell : f.holds "shell" true = false)
      (hkind : f.kind.isWarning = false) :
      Delivery s f (.error (.fault f), delivering s f)

variable {start} {s : Session σ} {f : Fault}

/-- An error is the fault of the session however its delivery ends, unless
the receiver changes that. A warning is not. -/
theorem Delivery.fault?_eq {result : Except Raised Reply × Session σ}
    (h : Delivery start s f result)
    (hreceiver : ∀ receive, s.fallback? = some receive →
      Keeps Session.fault? (delivering s f) (start (receive f))) :
    result.2.fault? = if f.kind.isWarning then s.fault? else some f := by
  cases h with
  | received hsome => exact hreceiver _ hsome
  | shown | unreadable | noOutput | warned | raised => rfl

end CommandConsole.Session
