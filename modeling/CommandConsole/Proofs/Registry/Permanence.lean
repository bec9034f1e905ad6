/-
Commands that stay in a registry.

A registry holds a command for good (`Holds`) if the command stands under
its name, as every other one does, and shares no identifier with another
one. Then every spelling of its identifiers finds it (`Holds.find?_eq_some`).

Both operations keep this of a command that cannot be removed, whatever
commands come and whatever they are made of. Registering adds a command
only if none of its identifiers is in use (`Holds.insert`). Removing takes
away what a spelling finds: either the command itself, which is refused
(`Holds.erase_eq`), or a command with another name (`Holds.erase`).
-/
import CommandConsole.Proofs.Registry.Resolution

namespace CommandConsole.Registry

variable {ρ : Type}

/-- A command stands under its name in a registry in which every command
does, and no other one shares an identifier with it. -/
structure Holds (r : Registry ρ) (c : Command ρ) : Prop where
  mem : (c.outline.name, c) ∈ r.entries
  key_eq : ∀ entry ∈ r.entries, entry.1 = entry.2.outline.name
  alone : ∀ entry ∈ r.entries, entry.2 ≠ c →
    entry.2.outline.identifiers.Disjoint c.outline.identifiers

variable {r : Registry ρ} {c d : Command ρ}

/-- A command that shares an identifier with one that is held is that one. -/
theorem Holds.eq_of_mem_identifiers (h : r.Holds c) (hd : d ∈ r.commands) {t : String}
    (htd : t ∈ d.outline.identifiers) (htc : t ∈ c.outline.identifiers) : d = c := by
  obtain ⟨entry, he, rfl⟩ := mem_commands.1 hd
  by_contra hne
  exact h.alone entry he hne htd htc

/-- Every spelling of its identifiers finds a command that is held. -/
theorem Holds.find?_eq_some (h : r.Holds c) (hc : c.outline.WellFormed)
    (hname : c.outline.name ≠ "") {s : String} (hs : Text.canonical s ∈ c.outline.identifiers) :
    r.find? s = some c := by
  have hne : Text.canonical s ≠ "" := fun hempty =>
    hc.empty_notMem_identifiers hname (hempty ▸ hs)
  obtain ⟨d, hfound⟩ :=
    exists_find?_eq_some h.key_eq hne (mem_commands.2 ⟨_, h.mem, rfl⟩) hs
  obtain ⟨hd, hs'⟩ := of_find?_eq_some h.key_eq hfound
  rw [hfound, h.eq_of_mem_identifiers hd hs' hs]

-- ================================================================== change

/-- Registering keeps a command that is held. -/
theorem Holds.insert (h : r.Holds c) (d : Command ρ) (custom : Bool) :
    (r.insert d custom).2.Holds c := by
  rcases insert_cases h.key_eq d custom with ⟨hinsert, -⟩ | ⟨hinsert, -, hfree⟩
  · rw [hinsert]
    exact h
  · rw [hinsert]
    constructor
    · exact List.mem_append_left _ h.mem
    · exact List.forall_mem_append.2
        ⟨h.key_eq, List.forall_mem_singleton.2 (kept_name d custom).symm⟩
    · refine List.forall_mem_append.2 ⟨h.alone, List.forall_mem_singleton.2 fun _ => ?_⟩
      rw [kept_identifiers]
      exact List.disjoint_symm (conflicts_eq_nil_iff.1 hfree _ h.mem)

/-- Removing a command that is held and cannot be removed is refused, under
every spelling of its identifiers. -/
theorem Holds.erase_eq (h : r.Holds c) (hc : c.outline.WellFormed)
    (hname : c.outline.name ≠ "") (hpermanent : isPermanent c.outline = true) {s : String}
    (hs : Text.canonical s ∈ c.outline.identifiers) : r.erase s = (false, r) := by
  unfold erase
  rw [h.find?_eq_some hc hname hs]
  exact if_pos hpermanent

/-- Removing keeps a command that is held and cannot be removed. -/
theorem Holds.erase (h : r.Holds c) (hpermanent : isPermanent c.outline = true) (s : String) :
    (r.erase s).2.Holds c := by
  unfold Registry.erase
  split
  · exact h
  · next d hfound =>
    split
    · exact h
    · next hremovable =>
      -- what is removed is another command, and so it has another name
      have hother : d ≠ c := by
        rintro rfl
        exact hremovable hpermanent
      have hnames : c.outline.name ≠ d.outline.name := fun hname =>
        hother (h.eq_of_mem_identifiers (of_find?_eq_some h.key_eq hfound).1
          (Outline.mem_identifiers.2 (.inl rfl)) (Outline.mem_identifiers.2 (.inl hname.symm)))
      constructor
      · exact List.mem_filter.2 ⟨h.mem, bne_iff_ne.2 hnames⟩
      · exact fun entry he => h.key_eq entry (List.mem_filter.1 he).1
      · exact fun entry he => h.alone entry (List.mem_filter.1 he).1

end CommandConsole.Registry
