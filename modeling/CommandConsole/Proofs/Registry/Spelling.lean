/-
Spellings in upper case.

A registry looks a spelling up by its canonical form. Spellings of one form find the same
in every registry, and for two of different forms there is a registry that tells them
apart, since a command of the one name can be registered by itself (`find?_agree_iff`).

So upper case makes no difference to what a spelling finds just if its characters come
back from upper case (`find?_upper_iff`). Those of the plain table do
(`find?_upper_plain`).
-/
import CommandConsole.Program
import CommandConsole.Proofs.Registry.Resolution
import CommandConsole.Proofs.Text.Upper

namespace CommandConsole.Registry

variable {ρ : Type}

-- ================================================================ two spellings

/-- A command of a name, with a routine and nothing else. -/
def bareDraft (name : String) (run : List Object → ρ) : CommandDraft ρ where
  name := .text name
  callback := .routine ⟨"", none, none, run⟩
  aliases := .tuple []
  descr := .text ""
  parameters := .ok []
  default? := none

/-- If a spelling has a canonical form that is not empty, there is a registry in which it
finds a command, and in which no spelling of another form finds any. -/
theorem exists_find?_ne (run : List Object → ρ) {s t : String} (hne : Text.canonical s ≠ "")
    (h : Text.canonical s ≠ Text.canonical t) :
    ∃ changes : List (Change ρ),
      ((after changes).find? s).isSome = true ∧ (after changes).find? t = none := by
  let c : Command ρ := ⟨⟨Text.canonical s, [], "", [], false⟩, run, none⟩
  have hmade : Command.ofDraft (bareDraft s run) = .ok c := rfl
  let changes : List (Change ρ) := [.register c (.draft hmade) true]
  have hentries : (after changes).entries = [(Text.canonical s, kept c true)] := by
    have hempty : ∀ entry ∈ (empty : Registry ρ).entries, entry.1 = entry.2.outline.name :=
      fun _ he => absurd he List.not_mem_nil
    have hinsert : (after changes) = ((empty : Registry ρ).insert c true).2 := rfl
    rw [hinsert]
    rcases insert_cases hempty c true with ⟨-, hrefused⟩ | ⟨hadded, -⟩
    · exact absurd (hrefused.resolve_left hne) fun hconflicts => hconflicts rfl
    · rw [hadded]
      rfl
  have hcommands : ∀ d, d ∈ (after changes).commands ↔ d = kept c true := by
    intro d
    rw [mem_commands, hentries]
    simp [eq_comm]
  have hidentifiers : ∀ name, name ∈ (kept c true).outline.identifiers ↔ name = Text.canonical s := by
    intro name
    rw [kept_identifiers, Outline.mem_identifiers, or_iff_left List.not_mem_nil]
  have hsound := sound_after changes
  refine ⟨changes, ?_, ?_⟩
  · have hfound : (after changes).find? s = some (kept c true) :=
      hsound.find?_eq_some_iff.2 ⟨(hcommands _).2 rfl, (hidentifiers _).2 rfl⟩
    rw [hfound]
    rfl
  · refine hsound.find?_eq_none_iff.2 fun d hd hmem => ?_
    rw [(hcommands d).1 hd, hidentifiers] at hmem
    exact h hmem.symm

/-- Two spellings find the same in every registry just if they have one canonical
form. -/
theorem find?_agree_iff (run : List Object → ρ) {s t : String} :
    (∀ changes : List (Change ρ), (after changes).find? s = (after changes).find? t)
      ↔ Text.canonical s = Text.canonical t := by
  constructor
  · intro hall
    by_contra hne
    by_cases hempty : Text.canonical s = ""
    · have hother : Text.canonical t ≠ "" := fun heq => hne (hempty.trans heq.symm)
      obtain ⟨changes, hfound, hnone⟩ := exists_find?_ne run hother (Ne.symm hne)
      rw [← hall changes, hnone] at hfound
      cases hfound
    · obtain ⟨changes, hfound, hnone⟩ := exists_find?_ne run hempty hne
      rw [hall changes, hnone] at hfound
      cases hfound
  · intro h changes
    exact (after changes).find?_congr h

-- ================================================================== upper case

/-- A spelling in upper case finds what the spelling finds, in every registry, just if
each of its characters, but for blanks, comes back from upper case: by itself, or as a
small sigma of the form that its place asks for. Where it does not, some registry has a
command that one of the two finds and the other does not. -/
theorem find?_upper_iff {σ : Type} (s : String) :
    (∀ changes : List (Change (Program σ)),
        (after changes).find? (Text.upper s) = (after changes).find? s)
      ↔ Text.ComesBack (Text.withoutBlanks s).toList := by
  rw [find?_agree_iff fun _ => Program.answer .nothing, Text.canonical_upper_iff]

/-- A command of such a name is not found by the name in upper case, and the name in upper
case finds a command that the name does not. -/
theorem find?_upper_sharp :
    ∃ c d, ∃ (hc : Command.ofDraft (bareDraft "ß" fun _ => ()) = .ok c)
        (hd : Command.ofDraft (bareDraft "ss" fun _ => ()) = .ok d),
      let r := after [.register c (.draft hc) true]
      let other := after [.register d (.draft hd) true]
      Text.upper "ß" = "SS"
        ∧ (r.find? "ß").isSome = true ∧ r.find? (Text.upper "ß") = none
        ∧ other.find? "ß" = none ∧ (other.find? (Text.upper "ß")).isSome = true := by
  refine ⟨_, _, rfl, rfl, by decide +kernel, by decide +kernel, ?_, ?_, by decide +kernel⟩
  · exact Option.isNone_iff_eq_none.1 (by decide +kernel)
  · exact Option.isNone_iff_eq_none.1 (by decide +kernel)

/-- The characters of the plain table come back, and so upper case makes no difference to
spellings in them. -/
theorem find?_upper_plain {s : String} (h : ∀ c ∈ s.toList, c.toNat < 0x80) (r : Registry ρ) :
    r.find? (Text.upper s) = r.find? s := by
  refine r.find?_congr ((Text.canonical_upper_iff s).2 (Text.comesBack_of_plain fun c hc => ?_))
  unfold Text.withoutBlanks at hc
  rw [String.toList_ofList] at hc
  exact h c (List.mem_filter.1 hc).1

end CommandConsole.Registry
