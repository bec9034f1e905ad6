/-
What is proposed to one who mistypes a name.

A run of a line that names no command reports this at once, and the report
proposes the identifiers that come closest to what was typed. They are drawn
from those of the registered commands, no two of which share one, and so each is
proposed once and finds a command. Which of them are proposed, and in which
order, is a matter of their ranks alone (`Text.closeMatches_eq`). It does not
depend on the order in which the commands were registered, nor on the order in
which the identifiers of a command are gone through (`run_proposes`).
-/
import Mathlib.Data.List.Nodup
import Mathlib.Data.List.Perm.Basic
import CommandConsole.Proofs.Session.Acceptance
import CommandConsole.Proofs.Session.Hint
import CommandConsole.Proofs.Text.Ranking

namespace CommandConsole

-- ============================================================= identifiers

namespace Registry

variable {ρ : Type}

theorem taken_eq (r : Registry ρ) : r.taken = r.commands.flatMap (·.outline.identifiers) := by
  unfold taken outlines
  rw [List.flatMap_map]

/-- A row in which the identifiers in use may be met: the commands in some
order, and the identifiers of each command in some order. -/
def MeetsIn (r : Registry ρ) (row : List String) : Prop :=
  ∃ (commands : List (Command ρ)) (order : Command ρ → List String),
    commands.Perm r.commands ∧ (∀ c, (order c).Perm c.outline.identifiers)
      ∧ row = commands.flatMap order

theorem meetsIn_taken (r : Registry ρ) : r.MeetsIn r.taken :=
  ⟨r.commands, (·.outline.identifiers), List.Perm.refl _, fun _ => List.Perm.refl _, r.taken_eq⟩

/-- In whatever order they are met, they are the same. -/
theorem MeetsIn.perm_taken {r : Registry ρ} {row : List String} (h : r.MeetsIn row) :
    row.Perm r.taken := by
  obtain ⟨commands, order, hcommands, horder, rfl⟩ := h
  rw [taken_eq]
  exact List.Perm.flatMap hcommands fun c _ => horder c

theorem taken_perm {r other : Registry ρ} (h : other.entries.Perm r.entries) :
    other.taken.Perm r.taken := by
  rw [taken_eq, taken_eq]
  exact (h.map (·.2)).flatMap_right _

/-- No identifier is in use twice. -/
theorem Sound.nodup_taken {r : Registry ρ} (h : r.Sound) (hmade : ∀ c ∈ r.commands, c.Made) :
    r.taken.Nodup := by
  rw [taken_eq, List.nodup_flatMap]
  constructor
  · intro c hc
    exact (Outline.pairwise_insertText (hmade c hc).pairwise_aliases).imp Std.ne_of_lt
  · exact h.disjoint.map Prod.snd fun _ _ hab => hab

/-- What is proposed does not depend on the order in which the identifiers are
met. -/
theorem similar_eq_of_perm {r : Registry ρ} {row : List String} (h : row.Perm r.taken)
    (token : String) : Text.closeMatches (Text.lower token) row 5 = r.similar token := by
  unfold similar
  rw [Text.closeMatches_eq, Text.closeMatches_eq, Text.ranked_eq_of_perm _ h]

theorem mem_taken_of_mem_similar {r : Registry ρ} {token t : String} (h : t ∈ r.similar token) :
    t ∈ r.taken := by
  unfold similar at h
  rw [Text.closeMatches_eq] at h
  exact (List.mem_filter.1 ((Text.ranked_perm _ _).mem_iff.1 (List.mem_of_mem_take h))).1

theorem length_similar_le (r : Registry ρ) (token : String) : (r.similar token).length ≤ 5 := by
  unfold similar
  rw [Text.closeMatches_eq, List.length_take]
  exact Nat.min_le_left _ _

/-- Nothing is proposed twice. -/
theorem nodup_similar {r : Registry ρ} (h : r.taken.Nodup) (token : String) :
    (r.similar token).Nodup := by
  unfold similar
  rw [Text.closeMatches_eq]
  exact ((Text.ranked_perm _ _).nodup_iff.2 (h.filter _)).sublist (List.take_sublist _ _)

end Registry

-- ==================================================================== runs

namespace Session

open CommandConsole.Action

variable {σ : Type}

/-- A registry into which made commands were registered one after the other has
come about by changes. -/
theorem exists_after_eq_registryOf {commands : List (Command (Program σ))}
    (h : ∀ c ∈ commands, c.Made) : ∃ changes, Registry.after changes = registryOf commands := by
  induction commands using List.reverseRecOn with
  | nil => exact ⟨[], rfl⟩
  | append_singleton rest c ih =>
      rw [List.forall_mem_append] at h
      obtain ⟨changes, hchanges⟩ := ih h.1
      have hc := h.2 c (List.mem_singleton_self c)
      refine ⟨changes ++ [.register c hc false], ?_⟩
      rw [Registry.after_append_singleton, hchanges, registryOf_append_singleton]
      rfl

/-- The commands that a console begins with have been made. -/
theorem made_of_openWith {options : ConsoleOptions} {around : Surroundings σ} {s : Session σ}
    (hopen : openWith options around = .ok s) : ∀ c ∈ s.registry.commands, c.Made := by
  obtain ⟨settings, history, -, -, rfl⟩ := exists_of_openWith_eq_ok hopen
  intro c hc
  unfold beginning at hc
  dsimp only at hc
  split at hc
  · exact Builtin.made_of_mem_commands (mem_commands_registryOf hc)
  · cases hc

/-- Whatever has been done in a console since it was opened, its registry is one
that changes make of an empty one, if its commands have been made. -/
theorem exists_after_of_course {options : ConsoleOptions} {around : Surroundings σ}
    {s₀ s : Session σ} (hopen : openWith options around = .ok s₀) (hcourse : Course s₀ s)
    (hmade : ∀ c ∈ s.registry.commands, c.Made) :
    ∃ changes, s.registry = Registry.after changes := by
  have hfiled := filed_of_course hopen hcourse
  have hnames : ∀ c ∈ s.registry.commands, c.outline.name ≠ "" := by
    intro c hc
    obtain ⟨entry, he, rfl⟩ := Registry.mem_commands.1 hc
    rw [← hfiled.key_eq entry he]
    exact hfiled.key_ne_empty entry he
  have hentries : (registryOf s.registry.commands).entries = s.registry.entries := by
    rw [entries_registryOf hnames (hfiled.disjoint.map Prod.snd fun _ _ hab => hab),
      Registry.commands, List.map_map]
    refine (List.map_congr_left fun entry he => ?_).trans (List.map_id _)
    exact Prod.ext (hfiled.key_eq entry he).symm rfl
  obtain ⟨changes, hchanges⟩ := exists_after_eq_registryOf hmade
  exact ⟨changes, (hchanges.trans (congrArg Registry.mk hentries)).symm⟩

/-- The first thing that a run of a line does is to report that no command has
the name. The report proposes some identifiers, and hints at the first of
them. -/
def Proposes (depth : Nat) (s : Session σ) (line : String) (found : List String) : Prop :=
  ∃ f, nextEvent? (within s (perform (start depth) (.run (.text line)))).2 (begun s line)
      = some (.delivered f)
    ∧ f.kind = .commandNotFound
    ∧ f.option? "suggestions" = some (.object (.list (found.map .text)))
    ∧ f.option? "hint" = some (.text (Fault.notFoundHint found))

/-- A run of a line whose first token finds no command proposes what is similar
to the token. -/
theorem proposes_similar {s : Session σ} {line : String} (hline : line ≠ "")
    (hunknown : s.registry.find? ((Line.tokens line).headD "") = none) (depth : Nat) :
    Proposes depth s line (s.registry.similar ((Line.tokens line).headD "")) := by
  have hdispatch : s.registry.dispatch line = .unknown ((Line.tokens line).headD "") := by
    rcases s.registry.dispatch_cases line with ⟨-, hdispatch⟩ | ⟨c, hfound, -⟩
    · exact hdispatch
    · rw [hunknown] at hfound
      cases hfound
  let f := Fault.commandNotFound s.host line ((Line.tokens line).headD "")
    (s.registry.similar ((Line.tokens line).headD ""))
  obtain ⟨later, hlater⟩ := exists_events_fail (leads_start depth) (s := begun s line) f
  refine ⟨(begun s line).completed f, ?_, rfl, ?_, ?_⟩
  · rw [within_perform_run, within_run_unknown _ s hline hdispatch]
    exact nextEvent?_append hlater
  · exact (FaultOf.option?_replace f _ "suggestions").trans rfl
  · exact (FaultOf.option?_replace f _ "hint").trans rfl

/-- Whatever changes have led to the registry of a session, a run of a line whose
first token finds no command proposes at most five identifiers, none of them
twice, and each finds a registered command. The same ones are proposed, in the
same order and with the same hint, in whatever order the commands have been
registered, and in whatever order the identifiers of each command are gone
through. -/
theorem run_proposes {changes : List (Registry.Change (Program σ))} {s : Session σ}
    (hregistry : s.registry = Registry.after changes) {line : String} (hline : line ≠ "")
    (hunknown : s.registry.find? ((Line.tokens line).headD "") = none) (depth : Nat) :
    ∃ found : List String, found.length ≤ 5 ∧ found.Nodup
      ∧ (∀ t ∈ found, ∃ c ∈ s.registry.commands, s.registry.find? t = some c)
      ∧ (∀ row, s.registry.MeetsIn row →
          Text.closeMatches (Text.lower ((Line.tokens line).headD "")) row 5 = found)
      ∧ ∀ other : Session σ, other.registry.entries.Perm s.registry.entries →
          Proposes depth other line found := by
  have hsound : s.registry.Sound := hregistry ▸ Registry.sound_after changes
  have hmade : ∀ c ∈ s.registry.commands, c.Made := by
    rw [hregistry]
    exact fun c hc => Registry.made_of_mem_after hc
  refine ⟨s.registry.similar ((Line.tokens line).headD ""), Registry.length_similar_le _ _,
    Registry.nodup_similar (hsound.nodup_taken hmade) _, fun t ht => ?_,
    fun row hrow => Registry.similar_eq_of_perm hrow.perm_taken _, fun other hperm => ?_⟩
  · obtain ⟨entry, he, hidentifier⟩ := Registry.mem_taken.1 (Registry.mem_taken_of_mem_similar ht)
    exact ⟨entry.2, Registry.mem_commands.2 ⟨entry, he, rfl⟩,
      hsound.find?_of_mem_identifiers he hidentifier⟩
  · have hsimilar : other.registry.similar ((Line.tokens line).headD "")
        = s.registry.similar ((Line.tokens line).headD "") :=
      Registry.similar_eq_of_perm (Registry.taken_perm hperm) _
    rw [← hsimilar]
    refine proposes_similar hline ?_ depth
    rw [hsound.find?_perm hperm, hunknown]

/-- A console with the built-in commands proposes `print` to one who types
`PRNT`. -/
theorem run_proposes_print :
    ∃ s₀ : Session Unit, openWith .standard .quiet = .ok s₀
      ∧ s₀.registry.find? "PRNT" = none ∧ Proposes 1 s₀ "PRNT hello" ["print"] := by
  obtain ⟨s₀, hopen⟩ : ∃ s₀ : Session Unit, openWith .standard .quiet = .ok s₀ := ⟨_, rfl⟩
  have hregistry : s₀.registry = registryOf Builtin.commands := by
    obtain ⟨settings, history, -, -, rfl⟩ := exists_of_openWith_eq_ok hopen
    rfl
  obtain ⟨changes, hchanges⟩ := exists_after_of_course hopen .refl (made_of_openWith hopen)
  have htoken : (Line.tokens "PRNT hello").headD "" = "PRNT" := by decide
  have hunknown : s₀.registry.find? "PRNT" = none := by
    rw [hregistry]
    rfl
  obtain ⟨found, -, -, -, hrow, hproposes⟩ := run_proposes hchanges
    (show "PRNT hello" ≠ "" by decide) (by rw [htoken]; exact hunknown) 1
  have hfound : found = ["print"] := by
    have hclose : s₀.registry.taken.filter (Text.isClose (Text.lower "PRNT")) = ["print"] := by
      rw [hregistry]
      decide +kernel
    rw [htoken] at hrow
    rw [← hrow _ s₀.registry.meetsIn_taken, Text.closeMatches_eq, Text.ranked, hclose,
      List.mergeSort_singleton]
    rfl
  rw [← hfound]
  exact ⟨s₀, hopen, hunknown, hproposes s₀ (List.Perm.refl _)⟩

end Session

end CommandConsole
