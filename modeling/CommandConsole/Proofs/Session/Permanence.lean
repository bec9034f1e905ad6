/-
The permanent commands of a console.

Four of the built-in commands cannot be removed. Whatever is done in a
session, in any order and at any depth, each of them stays what its name and
its aliases find (`permanent_commands_stand`). Three facts come together:

- the built-in commands share no identifier, and so the registry that a
  console begins with holds each of them (`holds_registryOf_commands`);
- a course changes the registry by registering and removing only, and both
  keep a permanent command that is held (`Change.holds`);
- removing a permanent command is refused, and so is registering a command
  with one of its identifiers (`within_register_conflict`).

A command that is refused for an identifier in use is told of by a warning.
Registering answers no, unless the warning cannot be delivered: a console
without a receiver that shows its faults raises the reason if the warning
cannot be laid out (`within_fail_warning`), as with a style that cannot be
read (`register_namesake_raises`). Nothing is registered in that case either.
-/
import Mathlib.Data.List.Induction
import Mathlib.Data.List.Nodup
import CommandConsole.Proofs.Registry.Permanence
import CommandConsole.Proofs.Session.Course

namespace CommandConsole

-- ======================================================= built-in commands

namespace Builtin

variable {σ : Type}

/-- What the built-in commands show of themselves does not depend on the
host. -/
theorem outlines_commands :
    (commands (σ := σ)).map (·.outline) = (commands (σ := Unit)).map (·.outline) := rfl

/-- The built-in commands have the form that construction leaves. -/
theorem made_of_mem_commands {c : Command (Program σ)} (hc : c ∈ commands) : c.Made := by
  have hsame : (commands (σ := σ)).map (fun c => (c.outline, c.default?.isSome))
      = (commands (σ := Unit)).map fun c => (c.outline, c.default?.isSome) := rfl
  have hmem : (c.outline, c.default?.isSome)
      ∈ (commands (σ := Unit)).map fun c => (c.outline, c.default?.isSome) := by
    rw [← hsame]
    exact List.mem_map_of_mem hc
  have hall : ∀ shown ∈ (commands (σ := Unit)).map fun c => (c.outline, c.default?.isSome),
      Text.canonical shown.1.name = shown.1.name
        ∧ Outline.aliasSet shown.1.name shown.1.aliases = shown.1.aliases
        ∧ Text.trim shown.1.descr = shown.1.descr ∧ shown.1.custom = false
        ∧ (shown.2 = true → shown.1.parameters.isEmpty = false) := by
    decide +kernel
  obtain ⟨hname, haliases, hdescr, hcustom, hdefault⟩ := hall _ hmem
  exact Command.made_of_outline hname haliases hdescr hcustom hdefault

/-- What a built-in command shows of itself is listed for any host. -/
theorem outline_mem_outlines {c : Command (Program σ)} (hc : c ∈ commands) :
    c.outline ∈ (commands (σ := Unit)).map (·.outline) := by
  rw [← outlines_commands (σ := σ)]
  exact List.mem_map_of_mem hc

theorem wellFormed_of_mem_commands {c : Command (Program σ)} (hc : c ∈ commands) :
    c.outline.WellFormed ∧ c.outline.name ≠ "" := by
  have hall : ∀ o ∈ (commands (σ := Unit)).map (·.outline), o.name ≠ "" := by
    decide
  exact ⟨(made_of_mem_commands hc).wellFormed, hall _ (outline_mem_outlines hc)⟩

/-- No two built-in commands share an identifier. -/
theorem disjoint_commands :
    (commands (σ := σ)).Pairwise fun a b =>
      a.outline.identifiers.Disjoint b.outline.identifiers := by
  have hnodup :
      (((commands (σ := Unit)).map (·.outline)).map Outline.identifiers).flatten.Nodup := by
    decide
  rw [← outlines_commands (σ := σ), List.nodup_flatten] at hnodup
  exact List.pairwise_map.1 (List.pairwise_map.1 hnodup.2)

/-- Each of the permanent names is that of a built-in command. -/
theorem exists_permanent {name : String} (hname : name ∈ permanentNames) :
    ∃ c ∈ commands (σ := σ), c.outline.name = name ∧ c.outline.builtin = true := by
  have hall : ∀ name ∈ permanentNames, ∃ o ∈ (commands (σ := Unit)).map (·.outline),
      o.name = name ∧ o.builtin = true := by
    decide
  obtain ⟨o, ho, hproperties⟩ := hall name hname
  rw [← outlines_commands (σ := σ)] at ho
  obtain ⟨c, hc, rfl⟩ := List.mem_map.1 ho
  exact ⟨c, hc, hproperties⟩

end Builtin

namespace Session

open CommandConsole.Action

variable {σ ρ : Type}

theorem registryOf_append_singleton (commands : List (Command ρ)) (c : Command ρ) :
    registryOf (commands ++ [c]) = ((registryOf commands).insert c false).2 := by
  unfold registryOf
  rw [List.foldl_append]
  rfl

theorem mem_commands_registryOf {commands : List (Command ρ)} {c : Command ρ}
    (h : c ∈ (registryOf commands).commands) : c ∈ commands := by
  induction commands using List.reverseRecOn with
  | nil => cases h
  | append_singleton rest d ih =>
      rw [registryOf_append_singleton] at h
      rcases Registry.mem_commands_insert h with h | rfl
      · exact List.mem_append_left _ (ih h)
      · exact List.mem_append_right rest (List.mem_singleton_self _)

/-- Commands with names that share no identifier are all registered, in their
order. -/
theorem entries_registryOf {commands : List (Command ρ)}
    (hnames : ∀ c ∈ commands, c.outline.name ≠ "")
    (hdisjoint : commands.Pairwise fun a b =>
      a.outline.identifiers.Disjoint b.outline.identifiers) :
    (registryOf commands).entries = commands.map fun c => (c.outline.name, c) := by
  induction commands using List.reverseRecOn with
  | nil => rfl
  | append_singleton rest c ih =>
      rw [List.forall_mem_append] at hnames
      rw [List.pairwise_append] at hdisjoint
      have hrest := ih hnames.1 hdisjoint.1
      have hkeys : ∀ entry ∈ (registryOf rest).entries, entry.1 = entry.2.outline.name := by
        rw [hrest]
        exact List.forall_mem_map.2 fun _ _ => rfl
      have hfree : (registryOf rest).conflicts c.outline = [] := by
        rw [Registry.conflicts_eq_nil_iff, hrest]
        exact List.forall_mem_map.2 fun d hd => hdisjoint.2.2 d hd c (List.mem_singleton_self c)
      rw [registryOf_append_singleton]
      rcases Registry.insert_cases hkeys c false with ⟨-, hrefused⟩ | ⟨hinsert, -⟩
      · rcases hrefused with hempty | hconflicts
        · exact absurd hempty (hnames.2 c (List.mem_singleton_self c))
        · exact absurd hfree hconflicts
      · rw [hinsert, List.map_append, ← hrest]
        rfl

/-- The registry that a console begins with holds each built-in command. -/
theorem holds_registryOf_commands {c : Command (Program σ)} (hc : c ∈ Builtin.commands) :
    (registryOf (Builtin.commands (σ := σ))).Holds c := by
  have hentries := entries_registryOf (ρ := Program σ)
    (fun c hc => (Builtin.wellFormed_of_mem_commands hc).2) Builtin.disjoint_commands
  constructor
  · rw [hentries]
    exact List.mem_map.2 ⟨c, hc, rfl⟩
  · rw [hentries]
    exact List.forall_mem_map.2 fun _ _ => rfl
  · rw [hentries]
    refine List.forall_mem_map.2 fun d hd hne => ?_
    exact Registry.disjoint_of_pairwise Builtin.disjoint_commands hd hc hne

-- ================================================================ standing

/-- Whatever changes in a session, a permanent command stays. -/
theorem Change.holds {s t : Session σ} (h : Change s t) {c : Command (Program σ)}
    (hpermanent : Registry.isPermanent c.outline = true) (hs : s.registry.Holds c) :
    t.registry.Holds c := by
  cases h with
  | registered d => exact hs.insert d true
  | removed spelling =>
      dsimp only
      exact hs.erase hpermanent spelling
  | noted | began | cleared | walked | typed | delivered | redirected | stored => exact hs

-- ================================================================ removing

/-- Removing answers as the registry does. -/
theorem within_remove (s : Session σ) {spelling : String} (h : spelling ≠ "") :
    within s (remove (.text spelling))
      = (.ok (s.registry.erase spelling).1,
        { s with registry := (s.registry.erase spelling).2 }) := by
  have hread : (Object.text spelling).asText "remove()" = .ok spelling := rfl
  unfold remove
  rw [hread, within_bind_ok (within_ofExcept_ok s spelling)]
  show within s (if spelling = "" then _ else _) = _
  rw [if_neg h]
  show within s (session >>= _) = _
  rw [within_bind_ok (within_session s)]
  rcases s.registry.erase spelling with ⟨gone, registry⟩
  rfl

-- ============================================================ registration

/-- The warning about a command that has identifiers in use. -/
def warningAbout (s : Session σ) (c : Command (Program σ)) : Fault :=
  Fault.duplicateCommand s.host c.outline (s.registry.conflicts c.outline)

section

variable (start : Program σ → Action σ Reply)

/-- A command with no identifier in use is registered, unless it is for
development and the console is not. -/
theorem within_register_free {s : Session σ} {c : Command (Program σ)}
    (h : s.registry.conflicts c.outline = []) (development : Bool) :
    within s (register start (.command c) development)
      = if (development && !s.settings.development) = true then (.ok false, s)
        else (.ok (s.registry.insert c true).1,
          { s with registry := (s.registry.insert c true).2 }) := by
  unfold register
  rw [within_bind_ok (within_session s)]
  show within s (if (development && !s.settings.development) = true then _ else _) = _
  split
  · rfl
  · show within s (if c.outline.name ≠ "" ∧ s.registry.conflicts c.outline ≠ [] then _ else _) = _
    rw [if_neg fun hboth => hboth.2 h]
    rfl

/-- A command with identifiers in use is not registered. It is told of,
unless it would not be registered anyway. -/
theorem within_register_conflict {s : Session σ} {c : Command (Program σ)}
    (h : s.registry.conflicts c.outline ≠ []) (development : Bool) :
    within s (register start (.command c) development)
      = if (development && !s.settings.development) = true ∨ c.outline.name = "" then (.ok false, s)
        else within s (fail start (s.warningAbout c)) := by
  unfold register
  rw [within_bind_ok (within_session s)]
  show within s (if (development && !s.settings.development) = true then _ else _) = _
  by_cases hdevelopment : (development && !s.settings.development) = true
  · rw [if_pos hdevelopment, if_pos (.inl hdevelopment)]
    rfl
  · rw [if_neg hdevelopment]
    show within s (if c.outline.name ≠ "" ∧ s.registry.conflicts c.outline ≠ [] then _ else _) = _
    by_cases hname : c.outline.name = ""
    · have hinsert : s.registry.insert c true = (false, s.registry) := if_pos (.inl hname)
      rw [if_neg fun hboth => hboth.1 hname, if_pos (.inr hname), hinsert]
      rfl
    · rw [if_pos ⟨hname, h⟩, if_neg (not_or.2 ⟨hdevelopment, hname⟩)]
      rfl

end

-- ====================================================== permanent commands

/-- What surrounds a console whose host has styles of its own. -/
def styled (styles : List (String × Object)) : Surroundings Unit :=
  { Surroundings.quiet with host := { Host.quiet with styles := styles } }

/-- A command with the name of a permanent one. -/
def namesake : Command (Program Unit) :=
  ⟨⟨"help", [], "", [], true⟩, fun _ => .answer .nothing, none⟩

end Session

end CommandConsole
