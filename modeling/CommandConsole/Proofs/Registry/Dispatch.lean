/-
What lines ask for.

A line asks for one of four things, and the tokens that were typed say which
of them (`dispatch_cases`): nothing, since its first token finds no command;
a command for which too few arguments were typed; the default routine of a
command; or the routine of a command, with an argument for each of its
parameters. Arguments that are typed beyond the parameters do not count as
too many: they are folded into the last one (`Line.length_tail_fold`).
-/
import CommandConsole.Dispatch

namespace CommandConsole

/-- Folding leaves as many arguments as were typed, but no more than there
are parameters. -/
theorem Line.length_tail_fold (words : List String) (count : Nat) :
    (fold words count).tail.length = min words.tail.length count := by
  unfold fold
  split
  · next hfew =>
    rw [List.length_tail]
    omega
  · next hmany =>
    cases count with
    | zero =>
        simp only [List.length_tail, List.length_take]
        omega
    | succ n =>
        simp only [List.length_tail, List.length_append, List.length_take, List.length_singleton]
        omega

namespace Registry

variable {ρ : Type}

/-- A routine of a command that tokens ask for, and the tokens and parameters
of its arguments. -/
inductive Asks (c : Command ρ) (words : List String) :
    Role → (List Object → ρ) → List (String × Parameter) → Prop
  /-- The default routine is asked for if no argument was typed, or if none
  can be. -/
  | default {routine : List Object → ρ} (hroutine : c.default? = some routine)
      (hbare : words.tail = [] ∨ c.outline.parameters = []) : Asks c words .default routine []
  /-- The routine of the command is asked for if enough arguments were
  typed, and the default routine is not. -/
  | callback (henough : c.outline.parameters.length ≤ words.tail.length)
      (hother : c.default? = none ∨ words.tail ≠ [] ∧ c.outline.parameters ≠ []) :
      Asks c words .callback c.callback
        ((Line.fold words c.outline.parameters.length).tail.zip c.outline.parameters)

/-- What tokens ask of a command. -/
theorem request_cases (c : Command ρ) (words : List String) :
    (words.tail.length < c.outline.parameters.length
        ∧ ¬ (words.tail = [] ∧ c.default?.isSome = true)
        ∧ request c words = .mismatch c words.tail.length)
      ∨ (∃ routine, Asks c words .default routine [] ∧ request c words = .bare c routine)
      ∨ ∃ arguments, Asks c words .callback c.callback arguments
          ∧ request c words = .call c arguments := by
  have hlength := Line.length_tail_fold words c.outline.parameters.length
  have hempty : (Line.fold words c.outline.parameters.length).tail = []
      ↔ words.tail = [] ∨ c.outline.parameters = [] := by
    rw [← List.length_eq_zero_iff, hlength, ← List.length_eq_zero_iff, ← List.length_eq_zero_iff]
    omega
  unfold request
  dsimp only
  split
  · next routine hargs hroutine =>
    exact .inr (.inl ⟨routine, .default hroutine (hempty.1 hargs), rfl⟩)
  · next hother =>
    have hdefault : c.default? = none ∨ words.tail ≠ [] ∧ c.outline.parameters ≠ [] := by
      rw [← not_or, ← hempty]
      cases hroutine : c.default? with
      | none => exact .inl rfl
      | some routine => exact .inr fun hargs => hother routine hargs hroutine
    split
    · next hall =>
      exact .inr (.inr ⟨_, .callback (by omega) hdefault, rfl⟩)
    · next hfew =>
      have hgiven : (Line.fold words c.outline.parameters.length).tail.length
          = words.tail.length := by omega
      refine .inl ⟨by omega, ?_, by rw [hgiven]⟩
      rintro ⟨hnone, hsome⟩
      rcases hdefault with hdefault | ⟨htyped, -⟩
      · rw [hdefault] at hsome
        cases hsome
      · exact htyped hnone

/-- What a line asks for. -/
theorem dispatch_cases (r : Registry ρ) (line : String) :
    (r.find? ((Line.tokens line).headD "") = none
        ∧ r.dispatch line = .unknown ((Line.tokens line).headD ""))
      ∨ ∃ c, r.find? ((Line.tokens line).headD "") = some c
          ∧ r.dispatch line = request c (Line.tokens line) := by
  unfold dispatch
  dsimp only
  cases r.find? ((Line.tokens line).headD "") with
  | none => exact .inl ⟨rfl, rfl⟩
  | some c => exact .inr ⟨c, rfl, rfl⟩

end Registry

end CommandConsole
