/-
Typing more narrows the completions down.

Who types on keeps to the commands that were offered before: an identifier that
starts with the lower case of a longer partial name starts with the lower case
of the part that was typed first. There is one exception, and it is exact
(`completions_narrow`). A capital sigma at the end of a word has another small
letter than within one. If what was typed first closes a word with a capital
sigma, and the word goes on in what is typed behind it, then no identifier
completes both the longer name and the shorter one, and a command may come up
that was not offered before (`completions_widen`).
-/
import CommandConsole.Proofs.Registry.Completions
import CommandConsole.Proofs.Text.Parts

namespace CommandConsole

variable {ρ : Type}

namespace Completion

/-- A command is offered if one of its identifiers starts with what was typed in
lower case, and what was typed is not blank. -/
theorem offered_iff {typed : String} {commands : List (Command ρ)} {c : Command ρ}
    (hc : c ∈ commands) :
    (∃ k ∈ all typed (commands.map (·.outline)), k.command = c.outline)
      ↔ Text.isBlankText typed = false
        ∧ ∃ t ∈ c.outline.identifiers, (Text.lower typed).toList <+: t.toList := by
  rw [all_eq_map]
  constructor
  · rintro ⟨k, hk, hcommand⟩
    obtain ⟨⟨d, t⟩, hmatch, rfl⟩ := List.mem_map.1 hk
    obtain ⟨hblank, -, ht, hstarts⟩ := mem_matchesIn.1 hmatch
    have houtline : d.outline = c.outline := hcommand
    rw [houtline] at ht
    exact ⟨hblank, t, ht, hstarts⟩
  · rintro ⟨hblank, t, ht, hstarts⟩
    exact ⟨ofMatch typed (c, t),
      List.mem_map_of_mem (mem_matchesIn.2 ⟨hblank, hc, ht, hstarts⟩), rfl⟩

end Completion

namespace Registry

/-- Whatever changes have led to a registry, each completion of a longer partial
name shows an identifier of a registered command. The identifier completes the
part that was typed first, and so the command is offered for this part too,
unless the part closes a word with a capital sigma that goes on behind it. Then
the command is offered for the part only if another identifier of it completes
the part. -/
theorem completions_narrow (changes : List (Change ρ)) {typed : String}
    (htyped : Text.isBlankText typed = false) (more : String) :
    let offered (typed : String) := Completion.all typed (after changes).outlines
    let kept := ¬ (Text.closesWithSigma [] typed.toList = true
      ∧ Text.meetsCased more.toList = true)
    ∀ k ∈ offered (typed ++ more), ∃ c ∈ (after changes).commands, c.outline = k.command
      ∧ ∃ t ∈ c.outline.identifiers, k.text = Completion.extended (typed ++ more) t
        ∧ ((Text.lower typed).toList <+: t.toList ↔ kept)
        ∧ ((∃ first ∈ offered typed, first.command = k.command)
          ↔ kept ∨ ∃ u ∈ c.outline.identifiers, u ≠ t
            ∧ (Text.lower typed).toList <+: u.toList) := by
  intro offered kept k hk
  have hall : offered (typed ++ more) = _ := Completion.all_eq_map _ (after changes).commands
  rw [hall] at hk
  obtain ⟨⟨c, t⟩, hmatch, rfl⟩ := List.mem_map.1 hk
  obtain ⟨-, hc, ht, hstarts⟩ := Completion.mem_matchesIn.1 hmatch
  have hkept : (Text.lower typed).toList <+: t.toList ↔ kept := Text.starts_with_part_iff hstarts
  have hoffered : (∃ first ∈ offered typed, first.command = c.outline) ↔ _ :=
    Completion.offered_iff hc
  refine ⟨c, hc, rfl, t, ht, rfl, hkept, ?_⟩
  rw [show (Completion.ofMatch (typed ++ more) (c, t)).command = c.outline from rfl, hoffered,
    and_iff_right htyped]
  constructor
  · rintro ⟨u, hu, hcompletes⟩
    by_cases hsame : u = t
    · subst hsame
      exact .inl (hkept.1 hcompletes)
    · exact .inr ⟨u, hu, hsame, hcompletes⟩
  · rintro (h | ⟨u, hu, -, hcompletes⟩)
    · exact ⟨t, ht, hkept.2 h⟩
    · exact ⟨u, hu, hcompletes⟩

/-- A command whose name has a small sigma between two other letters. -/
def sigmaBetween : CommandDraft Unit where
  name := .text "ΑΣΑ"
  callback := .routine ⟨"f", none, none, fun _ => ()⟩
  aliases := .text ""
  descr := .text ""
  parameters := .ok []
  default? := none

/-- The command that is offered for `ΑΣΑ` is offered for `Α` as well. -/
theorem completions_narrow_sigma :
    ∃ c, ∃ h : Command.ofDraft sigmaBetween = .ok c,
      let r := after [.register c (.draft h) true]
      (Completion.all "ΑΣΑ" r.outlines).length = 1
        ∧ ∀ k ∈ Completion.all "ΑΣΑ" r.outlines,
          ∃ first ∈ Completion.all "Α" r.outlines, first.command = k.command := by
  refine ⟨_, rfl, by decide +kernel, fun k hk => ?_⟩
  obtain ⟨c, -, -, t, -, -, -, hoffered⟩ :=
    completions_narrow _ (show Text.isBlankText "Α" = false by decide) "ΣΑ" k hk
  exact hoffered.2 (.inl fun h => absurd h.1 (by decide))

/-- It is not offered for `ΑΣ`, which has a final sigma in lower case. -/
theorem completions_widen :
    ∃ c, ∃ h : Command.ofDraft sigmaBetween = .ok c,
      let r := after [.register c (.draft h) true]
      Text.isBlankText "ΑΣ" = false
        ∧ (Completion.all "ΑΣ" r.outlines).map (·.command.name) = []
        ∧ (Completion.all ("ΑΣ" ++ "Α") r.outlines).map (·.command.name) = ["ασα"] :=
  ⟨_, rfl, by decide, by decide +kernel, by decide +kernel⟩

end Registry

end CommandConsole
