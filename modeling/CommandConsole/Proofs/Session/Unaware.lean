/-
Host code that does not know whether the console shows its faults.

Two faults are alike if they differ at most in the options that say where they
are delivered (`Fault.Alike`), and so are two overviews that differ at most in
that and in whether the faults are shown (`Overview.Alike`). A program is
unaware of this if it uses the console at most to look something up and to
write to the output, and goes on in the same way with overviews that are
alike (`Program.Unaware`). It may raise anything.

The built-in commands are unaware of it, the one that ends the application
included (`Builtin.unaware_commands`).
-/
import CommandConsole.Proofs.Fault.Options
import CommandConsole.Proofs.Registry.Resolution
import CommandConsole.Proofs.Session.Looking

namespace CommandConsole

-- ================================================================== faults

/-- Two faults differ at most in the options that say where they are
delivered. -/
structure Fault.Alike (f g : Fault) : Prop where
  kind : f.kind = g.kind
  message : f.message = g.message
  option? : ∀ {name}, name ≠ "shell" → name ≠ "output" → f.option? name = g.option? name

/-- Two overviews differ at most in whether faults are shown. -/
structure Overview.Alike (o o' : Overview) : Prop where
  settings : { o.settings with shell := false } = { o'.settings with shell := false }
  commands : o.commands = o'.commands
  parsers : o.parsers = o'.parsers
  history : o.history = o'.history
  fault? : Option.Rel Fault.Alike o.fault? o'.fault?

-- ================================================================ programs

namespace Program

variable {σ : Type}

/-- Programs that use the console at most to look something up and to write
to the output, and do not depend on whether the console shows its faults. -/
inductive Unaware : Program σ → Prop
  | done (outcome : Except Raised Reply) : Unaware (.done outcome)
  | read {next : σ → Program σ} (h : ∀ s, Unaware (next s)) : Unaware (.read next)
  | write (state : σ) {next : Program σ} (h : Unaware next) : Unaware (.write state next)
  | perform {op : Operation (Program σ)} {next : Except Raised Reply → Program σ}
      (hop : op.LooksUp) (h : ∀ outcome, Unaware (next outcome)) : Unaware (.perform op next)
  | overview {next : Except Raised Reply → Program σ} (h : ∀ outcome, Unaware (next outcome))
      (hsame : ∀ {o o' : Overview}, o.Alike o' →
        next (.ok (.overview o)) = next (.ok (.overview o'))) :
      Unaware (.perform .overview next)

theorem Unaware.handle {p : Program σ} (h : p.Unaware) {next : Except Raised Reply → Program σ}
    (hnext : ∀ outcome, (next outcome).Unaware) : (p.handle next).Unaware := by
  induction h with
  | done outcome => exact hnext outcome
  | read _ ih => exact .read ih
  | write state _ ih => exact .write state ih
  | perform hop _ ih => exact .perform hop ih
  | overview _ hsame ih => exact .overview ih fun hlike => by rw [hsame hlike]

theorem closed_unaware : Closed (@Unaware σ) where
  answer := fun r => .done (.ok r)
  call := fun _ h => .perform h .done
  andThen := by
    intro p next hp hnext
    refine hp.handle fun outcome => ?_
    cases outcome with
    | ok r => exact hnext r
    | error e => exact .done (.error e)

/-- A program that asks for an overview, and goes on with it unless that
raises something. -/
theorem unaware_overviewing {next : Reply → Program σ} (h : ∀ r, (next r).Unaware)
    (hsame : ∀ {o o' : Overview}, o.Alike o' → next (.overview o) = next (.overview o')) :
    (performing .overview next).Unaware := by
  refine .overview (fun outcome => ?_) hsame
  cases outcome with
  | ok r => exact h r
  | error e => exact .done (.error e)

end Program

/-- The routines of a command do not depend on whether the console shows its
faults. -/
structure Command.Unaware {σ : Type} (c : Command (Program σ)) : Prop where
  callback : ∀ objects, (c.callback objects).Unaware
  default : ∀ routine, c.default? = some routine → ∀ objects, (routine objects).Unaware

theorem Command.Unaware.of_callback {σ : Type} {c : Command (Program σ)}
    (hcallback : ∀ objects, (c.callback objects).Unaware) (hdefault : c.default? = none) :
    c.Unaware := by
  refine ⟨hcallback, fun routine h => ?_⟩
  rw [hdefault] at h
  cases h

-- ======================================================= built-in commands

namespace Builtin

open Program

variable {σ : Type}

theorem unaware_describePrevious : (describePrevious : Program σ).Unaware := by
  refine unaware_overviewing (fun r => ?_) fun hlike => ?_
  · split
    · exact closed_describe closed_unaware _
    · exact .done (.ok .nothing)
  · dsimp only
    rw [hlike.history]

theorem unaware_listNames : (listNames : Program σ).Unaware := by
  refine unaware_overviewing (fun r => ?_) fun hlike => ?_
  · split
    · exact closed_logText closed_unaware _
    · exact .done (.ok .nothing)
  · dsimp only
    rw [hlike.commands]

theorem unaware_commands {c : Command (Program σ)} (hc : c ∈ commands) : c.Unaware := by
  simp only [commands, List.mem_cons, List.not_mem_nil, or_false] at hc
  rcases hc with rfl | rfl | rfl | rfl | rfl | rfl | rfl
  · exact .of_callback (fun _ => closed_instructions closed_unaware) rfl
  · exact .of_callback (fun _ => closed_unaware.call trivial trivial) rfl
  · exact .of_callback (fun _ => closed_unaware.call trivial trivial) rfl
  · refine ⟨fun _ => closed_describe closed_unaware _, ?_⟩
    rintro _ ⟨⟩ _
    exact unaware_describePrevious
  · exact .of_callback (fun _ => unaware_listNames) rfl
  · exact .of_callback (fun _ => closed_logText closed_unaware _) rfl
  · exact .of_callback (fun _ => .done _) rfl

end Builtin

end CommandConsole
