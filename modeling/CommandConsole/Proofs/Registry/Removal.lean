/-
What a removal takes away.

A spelling is removed with the command that it finds, if it finds one that may
go. The command is taken out of the row of entries, and nothing else is
(`Filed.erase_eq`), since no other entry has its key. So a command that has just
been registered can be removed again by any of its identifiers, and the registry
is what it was before (`Filed.erase_added`).

What spellings find follows in a registry in good order (`Sound.removal`). Those
that found the command find nothing any more, since no other command answers to
them. Any other one finds what it found before.
-/
import CommandConsole.Proofs.Registry.Permanence

namespace CommandConsole.Registry

variable {ρ : Type} {r : Registry ρ} {c : Command ρ} {spelling : String}

-- ================================================================= entries

/-- A command that is registered is held. -/
theorem Filed.holds (h : r.Filed) (hc : (c.outline.name, c) ∈ r.entries) : r.Holds c where
  mem := hc
  key_eq := h.key_eq
  alone := by
    intro entry he hne
    refine disjoint_of_pairwise h.disjoint he hc ?_
    rintro rfl
    exact hne rfl

section

variable {before behind : List (String × Command ρ)}

theorem sublist_around (hentries : r.entries = before ++ (c.outline.name, c) :: behind) :
    (before ++ behind).Sublist r.entries := by
  rw [hentries]
  exact (List.sublist_cons_self _ _).append_left before

/-- The entries around a command share no identifier with it. -/
theorem Filed.disjoint_around (h : r.Filed)
    (hentries : r.entries = before ++ (c.outline.name, c) :: behind) :
    ∀ entry ∈ before ++ behind, entry.2.outline.identifiers.Disjoint c.outline.identifiers := by
  have hdisjoint := h.disjoint
  rw [hentries, List.pairwise_middle fun hab => List.disjoint_symm hab] at hdisjoint
  exact fun entry he => List.disjoint_symm (List.rel_of_pairwise_cons hdisjoint he)

/-- Without its key a command is taken out of the row of entries, and nothing
else is. -/
theorem Filed.without_eq (h : r.Filed)
    (hentries : r.entries = before ++ (c.outline.name, c) :: behind) :
    r.without c.outline.name = ⟨before ++ behind⟩ := by
  have hkey : ∀ entry ∈ before ++ behind, (entry.1 != c.outline.name) = true := by
    intro entry he
    rw [bne_iff_ne, h.key_eq entry ((sublist_around hentries).subset he)]
    intro hname
    exact h.disjoint_around hentries entry he (Outline.mem_identifiers.2 (.inl rfl))
      (Outline.mem_identifiers.2 (.inl hname))
  obtain ⟨hbefore, hbehind⟩ := List.forall_mem_append.1 hkey
  unfold without
  rw [hentries, List.filter_append, List.filter_eq_self.2 hbefore, List.filter_cons,
    if_neg fun hne => bne_iff_ne.1 hne rfl, List.filter_eq_self.2 hbehind]

/-- The commands that are left are the other ones. -/
theorem Filed.mem_commands_iff (h : r.Filed)
    (hentries : r.entries = before ++ (c.outline.name, c) :: behind) {d : Command ρ} :
    d ∈ (⟨before ++ behind⟩ : Registry ρ).commands ↔ d ∈ r.commands ∧ d ≠ c := by
  rw [mem_commands, mem_commands]
  constructor
  · rintro ⟨entry, he, rfl⟩
    refine ⟨⟨entry, (sublist_around hentries).subset he, rfl⟩, fun hsame => ?_⟩
    have hname : c.outline.name ∈ c.outline.identifiers := Outline.mem_identifiers.2 (.inl rfl)
    exact h.disjoint_around hentries entry he (hsame ▸ hname) hname
  · rintro ⟨⟨entry, he, rfl⟩, hne⟩
    refine ⟨entry, ?_, rfl⟩
    rw [hentries, List.mem_append, List.mem_cons] at he
    rcases he with he | rfl | he
    · exact List.mem_append_left _ he
    · exact absurd rfl hne
    · exact List.mem_append_right _ he

/-- Removing a command that may go takes it out of the row of entries. -/
theorem Filed.erase_eq (h : r.Filed)
    (hentries : r.entries = before ++ (c.outline.name, c) :: behind)
    (hfound : r.find? spelling = some c) (hremovable : isPermanent c.outline = false) :
    r.erase spelling = (true, ⟨before ++ behind⟩) := by
  unfold erase
  rw [hfound]
  dsimp only
  rw [if_neg (Bool.eq_false_iff.1 hremovable), h.without_eq hentries]

end

/-- What a caller registers may go. -/
theorem isPermanent_markCustom (c : Command ρ) : isPermanent (markCustom c).outline = false := rfl

/-- A command that a caller has just registered is removed by any of its
identifiers, and the registry is what it was before. -/
theorem Filed.erase_added (h : r.Filed) (hc : c.Made) (hname : c.outline.name ≠ "")
    (hfree : r.conflicts c.outline = [])
    (hspelling : Text.canonical spelling ∈ c.outline.identifiers) :
    erase ⟨r.entries ++ [(c.outline.name, markCustom c)]⟩ spelling = (true, r) := by
  have hfiled : Filed ⟨r.entries ++ [(c.outline.name, markCustom c)]⟩ := by
    rcases insert_cases h.key_eq c true with ⟨-, hrefused⟩ | ⟨hadded, -⟩
    · exact absurd hrefused (not_or.2 ⟨hname, not_not.2 hfree⟩)
    · have hkept := h.insert c true
      rwa [hadded] at hkept
  have hholds := hfiled.holds (c := markCustom c)
    (List.mem_append_right _ (List.mem_singleton_self _))
  have hfound := hholds.find?_eq_some (made_kept hc true).wellFormed hname hspelling
  have herase := hfiled.erase_eq rfl hfound (isPermanent_markCustom c)
  rwa [List.append_nil] at herase

-- ================================================================= look-up

section

variable {before behind : List (String × Command ρ)}

/-- A spelling finds what is left just if it found it before. -/
theorem Sound.find?_left_eq_some_iff (h : r.Sound)
    (hentries : r.entries = before ++ (c.outline.name, c) :: behind) {t : String}
    {d : Command ρ} :
    find? ⟨before ++ behind⟩ t = some d ↔ r.find? t = some d ∧ d ≠ c := by
  have hleft : Sound ⟨before ++ behind⟩ := h.of_sublist (sublist_around hentries)
  rw [hleft.find?_eq_some_iff, h.find?_eq_some_iff, h.filed.mem_commands_iff hentries,
    and_right_comm]

/-- What found the command finds nothing without it. -/
theorem Sound.find?_left_eq_none (h : r.Sound)
    (hentries : r.entries = before ++ (c.outline.name, c) :: behind) {t : String}
    (ht : r.find? t = some c) : find? ⟨before ++ behind⟩ t = none := by
  refine Option.eq_none_iff_forall_ne_some.2 fun d hd => ?_
  obtain ⟨hfound, hne⟩ := (h.find?_left_eq_some_iff hentries).1 hd
  exact hne (Option.some.inj (hfound.symm.trans ht))

/-- What did not find the command finds the same without it. -/
theorem Sound.find?_left_eq (h : r.Sound)
    (hentries : r.entries = before ++ (c.outline.name, c) :: behind) {t : String}
    (ht : r.find? t ≠ some c) : find? ⟨before ++ behind⟩ t = r.find? t := by
  refine Option.ext fun d => (h.find?_left_eq_some_iff hentries).trans (and_iff_left_of_imp ?_)
  rintro hd rfl
  exact ht hd

end

/-- How a removal ends. -/
inductive Removal (r : Registry ρ) (spelling : String) : Bool × Registry ρ → Prop
  /-- A spelling that finds nothing need not be removed. -/
  | missing (h : r.find? spelling = none) : Removal r spelling (true, r)
  /-- A permanent command is not removed. -/
  | refused {c : Command ρ} (hfound : r.find? spelling = some c)
      (hpermanent : isPermanent c.outline = true) : Removal r spelling (false, r)
  /-- Any other command is taken out, and nothing else is. Its identifiers find
  nothing any more, nor does what found it, and what did not find it finds what it
  found before. -/
  | removed {c : Command ρ} {before behind : List (String × Command ρ)}
      (hfound : r.find? spelling = some c) (hremovable : isPermanent c.outline = false)
      (hentries : r.entries = before ++ (c.outline.name, c) :: behind)
      (hidentifiers : ∀ t ∈ c.outline.identifiers, find? ⟨before ++ behind⟩ t = none)
      (hgone : ∀ t, r.find? t = some c → find? ⟨before ++ behind⟩ t = none)
      (hothers : ∀ t, r.find? t ≠ some c → find? ⟨before ++ behind⟩ t = r.find? t) :
      Removal r spelling (true, ⟨before ++ behind⟩)

/-- In a registry in good order a removal ends in one of these ways. -/
theorem Sound.removal (h : r.Sound) (spelling : String) :
    Removal r spelling (r.erase spelling) := by
  cases hfound : r.find? spelling with
  | none =>
      have herase : r.erase spelling = (true, r) := by
        unfold erase
        rw [hfound]
      rw [herase]
      exact .missing hfound
  | some c =>
      cases hpermanent : isPermanent c.outline with
      | true =>
          have herase : r.erase spelling = (false, r) := by
            unfold erase
            rw [hfound]
            exact if_pos hpermanent
          rw [herase]
          exact .refused hfound hpermanent
      | false =>
          obtain ⟨⟨key, d⟩, he, rfl⟩ := mem_commands.1 (mem_commands_of_find? hfound)
          obtain rfl : key = d.outline.name := h.key_eq _ he
          obtain ⟨before, behind, hentries⟩ := List.append_of_mem he
          rw [h.filed.erase_eq hentries hfound hpermanent]
          exact .removed hfound hpermanent hentries
            (fun t ht => h.find?_left_eq_none hentries (h.find?_of_mem_identifiers he ht))
            (fun t ht => h.find?_left_eq_none hentries ht) fun t ht => h.find?_left_eq hentries ht

end CommandConsole.Registry
