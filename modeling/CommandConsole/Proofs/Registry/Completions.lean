/-
The completions of a partial name are its matches, in their order.

A match is a command with an identifier of it that starts with the partial
name in lower case. The completions are made in two passes over the commands,
one for the names and one for the aliases, and each completion comes of a
match: it shows the identifier and leads to the command (`all_eq_map`). What
there is to say about the completions is therefore said about the matches:

- every match is met, and nothing else is (`mem_matchesIn`);
- they stand in the order of the passes (`Precedes`): the names before the
  aliases, each of the two in the order of the commands, and the aliases of
  one command in ascending order (`pairwise_matchesIn`);
- no identifier is met twice (`nodup_matchesIn`), since no two commands of a
  registry share one, and no command has its name for an alias.
-/
import Mathlib.Data.List.Basic
import Mathlib.Data.List.Induction
import CommandConsole.Completion
import CommandConsole.Proofs.Registry.Resolution

namespace CommandConsole

namespace Completion

variable {ρ : Type}

-- ================================================================= matches

/-- An identifier starts with what was typed if the one row of characters
starts with the other. -/
theorem starts_iff {lowered t : String} :
    starts lowered t = true ↔ lowered.toList <+: t.toList :=
  List.isPrefixOf_iff_prefix

/-- The commands whose name completes what was typed, with their names. -/
def namesIn (typed : String) (commands : List (Command ρ)) : List (Command ρ × String) :=
  (commands.filter fun c => starts (Text.lower typed) c.outline.name).map fun c =>
    (c, c.outline.name)

/-- The aliases of a command that complete what was typed, with the command. -/
def aliasesOf (typed : String) (c : Command ρ) : List (Command ρ × String) :=
  (c.outline.aliases.filter fun s => starts (Text.lower typed) s).map fun s => (c, s)

/-- The matches of what was typed among some commands. -/
def matchesIn (typed : String) (commands : List (Command ρ)) : List (Command ρ × String) :=
  if Text.isBlankText typed then []
  else namesIn typed commands ++ commands.flatMap (aliasesOf typed)

/-- The completion that a match makes. -/
def ofMatch (typed : String) (m : Command ρ × String) : Completion :=
  ⟨extended typed m.2, m.1.outline⟩

/-- Each completion comes of the match in its place. -/
theorem all_eq_map (typed : String) (commands : List (Command ρ)) :
    all typed (commands.map (·.outline)) = (matchesIn typed commands).map (ofMatch typed) := by
  have hnames : ofNames typed (commands.map (·.outline))
      = (namesIn typed commands).map (ofMatch typed) := by
    unfold ofNames namesIn
    rw [List.filter_map, List.map_map, List.map_map]
    rfl
  have haliases : (commands.map (·.outline)).flatMap (ofAliases typed)
      = (commands.flatMap (aliasesOf typed)).map (ofMatch typed) := by
    have hone : ∀ c : Command ρ,
        ofAliases typed c.outline = (aliasesOf typed c).map (ofMatch typed) := by
      intro c
      unfold ofAliases aliasesOf
      rw [List.map_map]
      rfl
    rw [List.flatMap_map, List.map_flatMap]
    simp only [hone]
  unfold all matchesIn
  split
  · rfl
  · rw [hnames, haliases, List.map_append]

theorem mem_namesIn {typed : String} {commands : List (Command ρ)} {c : Command ρ} {t : String} :
    (c, t) ∈ namesIn typed commands
      ↔ c ∈ commands ∧ t = c.outline.name ∧ (Text.lower typed).toList <+: t.toList := by
  unfold namesIn
  rw [List.mem_map]
  constructor
  · rintro ⟨d, hd, heq⟩
    obtain ⟨rfl, rfl⟩ := Prod.mk.inj heq
    obtain ⟨hmem, hstarts⟩ := List.mem_filter.1 hd
    exact ⟨hmem, rfl, starts_iff.1 hstarts⟩
  · rintro ⟨hmem, rfl, hprefix⟩
    exact ⟨c, List.mem_filter.2 ⟨hmem, starts_iff.2 hprefix⟩, rfl⟩

theorem mem_aliasesOf {typed : String} {c d : Command ρ} {t : String} :
    (c, t) ∈ aliasesOf typed d
      ↔ c = d ∧ t ∈ c.outline.aliases ∧ (Text.lower typed).toList <+: t.toList := by
  unfold aliasesOf
  rw [List.mem_map]
  constructor
  · rintro ⟨s, hs, heq⟩
    obtain ⟨rfl, rfl⟩ := Prod.mk.inj heq
    obtain ⟨hmem, hstarts⟩ := List.mem_filter.1 hs
    exact ⟨rfl, hmem, starts_iff.1 hstarts⟩
  · rintro ⟨rfl, hmem, hprefix⟩
    exact ⟨t, List.mem_filter.2 ⟨hmem, starts_iff.2 hprefix⟩, rfl⟩

/-- The matches of what was typed are the commands with those of their
identifiers that start with it in lower case, unless it is blank. -/
theorem mem_matchesIn {typed : String} {commands : List (Command ρ)} {c : Command ρ}
    {t : String} :
    (c, t) ∈ matchesIn typed commands
      ↔ Text.isBlankText typed = false ∧ c ∈ commands ∧ t ∈ c.outline.identifiers
        ∧ (Text.lower typed).toList <+: t.toList := by
  unfold matchesIn
  split
  · next hblank =>
    rw [hblank]
    exact iff_of_false List.not_mem_nil fun h => Bool.noConfusion h.1
  · next hblank =>
    rw [Bool.not_eq_true] at hblank
    rw [List.mem_append, mem_namesIn, List.mem_flatMap, Outline.mem_identifiers,
      and_iff_right hblank]
    constructor
    · rintro (⟨hmem, hname, hprefix⟩ | ⟨d, hd, hmem⟩)
      · exact ⟨hmem, .inl hname, hprefix⟩
      · obtain ⟨rfl, halias, hprefix⟩ := mem_aliasesOf.1 hmem
        exact ⟨hd, .inr halias, hprefix⟩
    · rintro ⟨hmem, hname | halias, hprefix⟩
      · exact .inl ⟨hmem, hname, hprefix⟩
      · exact .inr ⟨c, hmem, mem_aliasesOf.2 ⟨rfl, halias, hprefix⟩⟩

-- =================================================================== order

/-- One match stands before another one among the matches of some commands. -/
inductive Precedes (commands : List (Command ρ)) : Command ρ × String → Command ρ × String → Prop
  /-- A name stands before an alias. -/
  | nameAlias {c d : Command ρ} {t : String} (ht : t ∈ d.outline.aliases) :
      Precedes commands (c, c.outline.name) (d, t)
  /-- Names follow the order of the commands. -/
  | names {c d : Command ρ} (h : [c, d].Sublist commands) :
      Precedes commands (c, c.outline.name) (d, d.outline.name)
  /-- Aliases follow the order of their commands. -/
  | aliases {c d : Command ρ} {s t : String} (hs : s ∈ c.outline.aliases)
      (ht : t ∈ d.outline.aliases) (h : [c, d].Sublist commands) :
      Precedes commands (c, s) (d, t)
  /-- The aliases of one command ascend. -/
  | ascending {c : Command ρ} {s t : String} (hs : s ∈ c.outline.aliases)
      (ht : t ∈ c.outline.aliases) (h : s < t) : Precedes commands (c, s) (c, t)

/-- The elements of a row stand in its order. -/
theorem pairwise_sublist {α : Type} (row : List α) :
    row.Pairwise fun a b => [a, b].Sublist row :=
  List.pairwise_iff_forall_sublist.2 id

theorem pairwise_aliasesOf {typed : String} {commands : List (Command ρ)} {c : Command ρ}
    (hc : c.outline.aliases.Pairwise (· < ·)) :
    (aliasesOf typed c).Pairwise (Precedes commands) := by
  refine List.pairwise_map.2 (List.Pairwise.imp_of_mem ?_ (hc.filter _))
  intro s t hs ht hlt
  exact .ascending (List.mem_filter.1 hs).1 (List.mem_filter.1 ht).1 hlt

/-- The matches stand in order, if the aliases of each command ascend. -/
theorem pairwise_matchesIn (typed : String) {commands : List (Command ρ)}
    (hsorted : ∀ c ∈ commands, c.outline.aliases.Pairwise (· < ·)) :
    (matchesIn typed commands).Pairwise (Precedes commands) := by
  have hnames : (namesIn typed commands).Pairwise (Precedes commands) :=
    List.pairwise_map.2 (((pairwise_sublist commands).filter _).imp .names)
  have haliases : (commands.flatMap (aliasesOf typed)).Pairwise (Precedes commands) := by
    refine List.pairwise_flatMap.2 ⟨fun c hc => pairwise_aliasesOf (hsorted c hc), ?_⟩
    refine (pairwise_sublist commands).imp ?_
    rintro c d hcd ⟨c', s⟩ hs ⟨d', t⟩ ht
    obtain ⟨rfl, hs, -⟩ := mem_aliasesOf.1 hs
    obtain ⟨rfl, ht, -⟩ := mem_aliasesOf.1 ht
    exact .aliases hs ht hcd
  unfold matchesIn
  split
  · exact List.Pairwise.nil
  · refine List.pairwise_append.2 ⟨hnames, haliases, ?_⟩
    rintro ⟨c, s⟩ hs ⟨d, t⟩ ht
    obtain ⟨-, rfl, -⟩ := mem_namesIn.1 hs
    obtain ⟨d', -, ht⟩ := List.mem_flatMap.1 ht
    exact .nameAlias (mem_aliasesOf.1 ht).2.1

/-- The identifiers of two matches in order differ, if no two commands share an
identifier and no command has its name for an alias. -/
theorem Precedes.ne {commands : List (Command ρ)}
    (hwell : ∀ c ∈ commands, c.outline.WellFormed)
    (hdisjoint : commands.Pairwise fun c d =>
      c.outline.identifiers.Disjoint d.outline.identifiers)
    {m n : Command ρ × String} (h : Precedes commands m n) (hm : m.1 ∈ commands)
    (hn : n.1 ∈ commands) : m.2 ≠ n.2 := by
  have hapart : ∀ {c d : Command ρ} {s t : String}, [c, d].Sublist commands →
      s ∈ c.outline.identifiers → t ∈ d.outline.identifiers → s ≠ t := by
    intro c d s t hcd hs ht heq
    exact List.pairwise_iff_forall_sublist.1 hdisjoint hcd hs (heq ▸ ht)
  cases h with
  | @nameAlias c d t ht =>
      intro heq
      dsimp only at heq hm hn
      have hshared : c.outline.name ∈ d.outline.identifiers :=
        Outline.mem_identifiers.2 (.inr (heq ▸ ht))
      by_cases hcd : c = d
      · subst hcd
        exact (hwell c hm).alias_ne_name (heq ▸ ht)
      · exact Registry.disjoint_of_pairwise hdisjoint hm hn hcd
          (Outline.mem_identifiers.2 (.inl rfl)) hshared
  | names hcd =>
      exact hapart hcd (Outline.mem_identifiers.2 (.inl rfl)) (Outline.mem_identifiers.2 (.inl rfl))
  | aliases hs ht hcd =>
      exact hapart hcd (Outline.mem_identifiers.2 (.inr hs)) (Outline.mem_identifiers.2 (.inr ht))
  | ascending _ _ hlt => exact Std.ne_of_lt hlt

/-- No identifier is met twice. -/
theorem nodup_matchesIn {typed : String} {commands : List (Command ρ)}
    (hwell : ∀ c ∈ commands, c.outline.WellFormed)
    (hsorted : ∀ c ∈ commands, c.outline.aliases.Pairwise (· < ·))
    (hdisjoint : commands.Pairwise fun c d =>
      c.outline.identifiers.Disjoint d.outline.identifiers) :
    ((matchesIn typed commands).map (·.2)).Nodup := by
  refine List.pairwise_map.2 ((pairwise_matchesIn typed hsorted).imp_of_mem ?_)
  rintro ⟨c, s⟩ ⟨d, t⟩ hs ht hprecedes
  exact hprecedes.ne hwell hdisjoint (mem_matchesIn.1 hs).2.1 (mem_matchesIn.1 ht).2.1

end Completion

namespace Registry

variable {ρ : Type}

/-- No command comes into a registry that has not been made. -/
theorem made_of_mem_after {changes : List (Change ρ)} {c : Command ρ}
    (hc : c ∈ (after changes).commands) : c.Made := by
  induction changes using List.reverseRecOn generalizing c with
  | nil => exact absurd hc List.not_mem_nil
  | append_singleton rest step ih =>
      rw [after_append_singleton] at hc
      cases step with
      | register d made custom =>
          rcases mem_commands_insert hc with hc | rfl
          · exact ih hc
          · exact made_kept made custom
      | remove spelling => exact ih (mem_commands_erase hc)
      | clear => exact absurd hc List.not_mem_nil

/-- The completions of a partial name in a registry, whatever changes have led
to it, come of its matches, one of each in the same order: the text shows the
identifier of the match, and the command is that of the match. Unless the
partial name is blank, and then there are none, the matches are the commands of
the registry with those of their identifiers that start with it in lower case,
and no identifier is met twice. The names stand before the aliases, both in the
order of the commands, and the aliases of one command in ascending order. -/
theorem completions_after (changes : List (Change ρ)) (typed : String) :
    let commands := (after changes).commands
    ∃ found : List (Command ρ × String),
      Completion.all typed (after changes).outlines
          = found.map (fun m => ⟨Completion.extended typed m.2, m.1.outline⟩)
        ∧ (∀ c t, (c, t) ∈ found ↔ Text.isBlankText typed = false ∧ c ∈ commands
            ∧ t ∈ c.outline.identifiers ∧ (Text.lower typed).toList <+: t.toList)
        ∧ (found.map (·.2)).Nodup
        ∧ found.Pairwise (Completion.Precedes commands) := by
  intro commands
  have hsound := sound_after changes
  have hwell : ∀ c ∈ commands, c.outline.WellFormed :=
    fun c hc => (made_of_mem_after hc).wellFormed
  have hsorted : ∀ c ∈ commands, c.outline.aliases.Pairwise (· < ·) :=
    fun c hc => (made_of_mem_after hc).pairwise_aliases
  have hdisjoint : commands.Pairwise fun c d =>
      c.outline.identifiers.Disjoint d.outline.identifiers :=
    hsound.disjoint.map Prod.snd fun _ _ hab => hab
  exact ⟨Completion.matchesIn typed commands, Completion.all_eq_map typed commands,
    fun c t => Completion.mem_matchesIn, Completion.nodup_matchesIn hwell hsorted hdisjoint,
    Completion.pairwise_matchesIn typed hsorted⟩

end Registry

end CommandConsole
