/-
How programs of a host run in a session.

A program takes its steps in a session: what each step does to the session
is said by one equation, and an operation that the program asks for is done
where the program stands, whatever comes of it. Host code that may call host
code to some depth runs like a program whose operations may do so to a depth
that is smaller by one.
-/
import CommandConsole.Console
import CommandConsole.Proofs.Session.Run

namespace CommandConsole

open Session CommandConsole.Action

variable {σ : Type}

namespace Program

variable (perform : Operation (Program σ) → Action σ Reply) (s : Session σ)

@[simp] theorem within_execute_done (outcome : Except Raised Reply) :
    within s ((done outcome).execute perform) = (outcome, s) := by
  cases outcome with
  | ok r => rfl
  | error e => rfl

@[simp] theorem within_execute_read (next : σ → Program σ) :
    within s ((read next).execute perform) = within s ((next s.state).execute perform) := rfl

@[simp] theorem within_execute_write (state : σ) (next : Program σ) :
    within s ((write state next).execute perform)
      = within { s with state := state } (next.execute perform) := rfl

/-- A program goes on with what comes of the operation that it asks for,
where that has led. -/
theorem within_execute_perform (op : Operation (Program σ))
    (next : Except Raised Reply → Program σ) :
    within s ((Program.perform op next).execute perform)
      = within (within s (perform op)).2 ((next (within s (perform op)).1).execute perform) := by
  have hexecute : (Program.perform op next).execute perform
      = attempt (perform op) >>= fun outcome => (next outcome).execute perform := rfl
  rw [hexecute, within_bind_ok (within_attempt s (perform op))]

end Program

namespace Session

/-- Host code that calls host code runs its program. -/
theorem start_succ (depth : Nat) (program : Program σ) :
    start (depth + 1) program = program.execute (perform (start depth)) := rfl

/-- How an operation ends that answers with a truth value. -/
def flagged (result : Except Raised Bool × Session σ) : Except Raised Reply × Session σ :=
  (result.1.map .flag, result.2)

@[simp] theorem flagged_ok (answer : Bool) (t : Session σ) :
    flagged (.ok answer, t) = (.ok (.flag answer), t) := rfl

variable (start : Program σ → Action σ Reply) (s : Session σ)

theorem within_perform_run (line : Object) :
    within s (perform start (.run line)) = flagged (within s (run start line)) :=
  within_bind_pure s (run start line) Reply.flag

theorem within_perform_submit (text : Object) :
    within s (perform start (.submit text)) = flagged (within s (submit start text)) :=
  within_bind_pure s (submit start text) Reply.flag

theorem within_perform_register (candidate : CommandCandidate (Program σ)) (development : Bool) :
    within s (perform start (.register candidate development))
      = flagged (within s (register start candidate development)) :=
  within_bind_pure s (register start candidate development) Reply.flag

theorem within_perform_remove (name : Object) :
    within s (perform start (.remove name)) = flagged (within s (remove name)) :=
  within_bind_pure s (remove name) Reply.flag

theorem within_perform_registerType (type : Ty) (candidate : ParserCandidate (Program σ))
    (default? : Option Object) :
    within s (perform start (.registerType type candidate default?))
      = flagged (within s (registerType start type candidate default?)) :=
  within_bind_pure s (registerType start type candidate default?) Reply.flag

theorem within_perform_cycle (direction : Object) :
    within s (perform start (.cycle direction))
      = match s.history.cycle direction with
        | .ok (line, history) => (.ok (.text line), { s with history := history })
        | .error p => (.error (.problem p), s) := by
  refine (within_bind_ok (within_session s) _).trans ?_
  rcases s.history.cycle direction with p | ⟨line, history⟩
  · rfl
  · rfl

end Session

end CommandConsole
