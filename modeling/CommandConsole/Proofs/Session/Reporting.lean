/-
How a fault is reported.

A fault that is triggered is completed by the options of the console
(`completed`). From the moment in which it is delivered an error is the
fault of the session (`delivering`). Then it is handed over: to the receiver
of the faults, if there is one, or to where its own options say
(`handOver`). Reporting is these three steps and nothing else
(`within_trigger`, `within_fail`).

A console without a receiver either shows a fault or passes it on, as it is
set (`holds_shell_completed`). What is shown goes to the output, unless it
cannot be laid out; then the delivery ends with the reason, and the session
is left as it was when the fault was delivered (`within_surface_shown`).
-/
import CommandConsole.Proofs.Fault.Options
import CommandConsole.Proofs.Session.Run

namespace CommandConsole.Session

open CommandConsole.Action

variable {σ : Type} (start : Program σ → Action σ Reply)

-- ============================================================== completion

/-- A fault with what the console of a session adds to it. -/
def completed (s : Session σ) (f : Fault) : Fault := f.replace s.settings.options

@[simp] theorem kind_completed (s : Session σ) (f : Fault) : (s.completed f).kind = f.kind := rfl

/-- A completed fault is shown if the console shows faults. -/
theorem holds_shell_completed (s : Session σ) (f : Fault) (missing : Bool) :
    (s.completed f).holds "shell" missing = s.settings.shell := by
  have hshell : (s.completed f).option? "shell" = some (.flag s.settings.shell) :=
    FaultOf.option?_replace f s.settings.options "shell"
  unfold FaultOf.holds
  rw [hshell]
  rfl

/-- A completed fault names the output of the console. -/
theorem output_completed (s : Session σ) (f : Fault) :
    (s.completed f).option? "output" = some .output :=
  FaultOf.option?_replace f s.settings.options "output"

-- ================================================================ delivery

/-- A session in which a fault is delivered. One that is an error is known
from then on. -/
def delivering (s : Session σ) (f : Fault) : Session σ :=
  { s with
    fault? := if f.kind.isWarning then s.fault? else some f
    events := .delivered f :: s.events }

@[simp] theorem host_delivering (s : Session σ) (f : Fault) : (delivering s f).host = s.host := rfl

@[simp] theorem terminal_delivering (s : Session σ) (f : Fault) :
    (delivering s f).terminal = s.terminal := rfl

/-- Hands a fault to the receiver of the faults, or else brings it to where
its options say. -/
def handOver (f : Fault) : Action σ Unit := do
  match (← Action.session).fallback? with
  | some receive => discard (start (receive f))
  | none => surface f

/-- What is triggered is completed, delivered and handed over. -/
theorem within_trigger (s : Session σ) {f full : Fault} {options : List (String × Detail Raised)}
    (h : f.replaceOf [] (FaultOf.merge s.settings.options options) = .ok full) :
    within s (trigger start f options)
      = within (delivering s full) (handOver start full >>= fun _ => pure full) := by
  unfold trigger
  rw [within_bind_ok (within_session s), h, within_bind_ok (within_ofExcept_ok s full)]
  unfold delivering
  cases full.kind.isWarning with
  | true => rfl
  | false => rfl

/-- What a run reports is completed, delivered and handed over, and the run
has failed. -/
theorem within_fail (s : Session σ) (f : Fault) :
    within s (fail start f)
      = within (delivering s (s.completed f))
          (handOver start (s.completed f) >>= fun _ => pure false) := by
  have hfull : f.replaceOf [] (FaultOf.merge s.settings.options []) = .ok (s.completed f) :=
    s.settings.replaceOf_options f
  unfold fail
  rw [within_bind, within_discard, within_trigger start s hfull, within_bind, within_bind]
  rcases within (delivering s (s.completed f)) (handOver start (s.completed f)) with ⟨_ | _, t⟩
  · rfl
  · rfl

variable {start} {s : Session σ} {f : Fault}

/-- A receiver gets the fault. -/
theorem within_handOver_some {receive : Fault → Program σ} (h : s.fallback? = some receive) :
    within s (handOver start f) = within s (discard (start (receive f))) := by
  unfold handOver
  rw [within_bind_ok (within_session s), h]

/-- A report ends as the receiver does that gets it. -/
theorem within_fail_some {receive : Fault → Program σ} (h : s.fallback? = some receive)
    (f : Fault) :
    within s (fail start f)
      = let result := within (delivering s (s.completed f)) (start (receive (s.completed f)))
        (result.1.map fun _ => false, result.2) := by
  have hdelivering : (delivering s (s.completed f)).fallback? = some receive := h
  rw [within_fail, within_bind_pure, within_handOver_some hdelivering, within_discard]
  rcases within (delivering s (s.completed f)) (start (receive (s.completed f))) with ⟨_ | _, t⟩
  · rfl
  · rfl

/-- Without a receiver the options of the fault say where it goes. -/
theorem within_handOver_none (h : s.fallback? = none) :
    within s (handOver start f) = within s (surface f) := by
  unfold handOver
  rw [within_bind_ok (within_session s), h]

/-- A fault that is shown on the output of the console is written, if it can
be laid out. -/
theorem within_surface_shown (hshell : f.holds "shell" true = true)
    (houtput : f.option? "output" = some .output) :
    within s (surface f)
      = match Fault.shown s.host s.terminal f with
        | .ok text => (.ok (), { s with events := .wrote text :: s.events })
        | .error p => (.error (.problem p), s) := by
  unfold surface display printFault
  rw [if_pos hshell, houtput]
  show within s (session >>= _) = _
  rw [within_bind_ok (within_session s)]
  cases Fault.shown s.host s.terminal f with
  | ok text => rfl
  | error p => rfl

/-- Without a receiver an error that is reported is the fault of the session,
also if it cannot be shown. -/
theorem fault?_fail_none (hfallback : s.fallback? = none) (hkind : f.kind.isWarning = false) :
    (within s (fail start f)).2.fault? = some (s.completed f) := by
  have hdelivering : (delivering s (s.completed f)).fallback? = none := hfallback
  rw [within_fail, within_bind_pure, within_handOver_none hdelivering]
  have hkept : Keeps Session.fault? (delivering s (s.completed f)) (surface (s.completed f)) :=
    keeps_surface (fun _ _ => rfl) (fun _ _ => rfl) _ _
  unfold Keeps at hkept
  rw [hkept]
  unfold delivering
  rw [kind_completed, hkind]
  rfl

/-- A warning that is not shown goes to the one who listens for warnings. -/
theorem within_surface_warned (hshell : f.holds "shell" true = false)
    (hkind : f.kind.isWarning = true) :
    within s (surface f) = (.ok (), { s with events := .warned f :: s.events }) := by
  unfold surface
  rw [if_neg (Bool.eq_false_iff.1 hshell), if_pos hkind]
  rfl

/-- A console without a receiver that shows its faults writes what it
reports. It raises the reason if the fault cannot be laid out. -/
theorem within_fail_shown (hfallback : s.fallback? = none) (hshell : s.settings.shell = true)
    (f : Fault) :
    within s (fail start f)
      = match Fault.shown s.host s.terminal (s.completed f) with
        | .ok text =>
            let t := delivering s (s.completed f)
            (.ok false, { t with events := .wrote text :: t.events })
        | .error p => (.error (.problem p), delivering s (s.completed f)) := by
  have hdelivering : (delivering s (s.completed f)).fallback? = none := hfallback
  have hholds : (s.completed f).holds "shell" true = true :=
    (holds_shell_completed s f true).trans hshell
  rw [within_fail, within_bind_pure, within_handOver_none hdelivering,
    within_surface_shown hholds (output_completed s f), host_delivering, terminal_delivering]
  cases Fault.shown s.host s.terminal (s.completed f) with
  | ok text => rfl
  | error p => rfl

/-- A console without a receiver that does not show its faults raises an
error, and tells the one who listens for warnings of a warning. -/
theorem within_fail_passed (hfallback : s.fallback? = none) (hshell : s.settings.shell = false)
    (f : Fault) :
    within s (fail start f)
      = let t := delivering s (s.completed f)
        if f.kind.isWarning then
          (.ok false, { t with events := .warned (s.completed f) :: t.events })
        else (.error (.fault (s.completed f)), t) := by
  have hdelivering : (delivering s (s.completed f)).fallback? = none := hfallback
  have hholds : (s.completed f).holds "shell" true = false :=
    (holds_shell_completed s f true).trans hshell
  rw [within_fail, within_bind_pure, within_handOver_none hdelivering]
  cases hkind : f.kind.isWarning with
  | true =>
      rw [within_surface_warned hholds hkind]
      rfl
  | false =>
      unfold surface
      rw [if_neg (Bool.eq_false_iff.1 hholds), kind_completed, hkind]
      rfl

end CommandConsole.Session
