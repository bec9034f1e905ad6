/-
A spelling finds the command that answers to it.

A spelling is looked up in two ways: its canonical form is tried as a key
first, and then the commands are asked, in the order of their registration,
whether it is an alias of theirs, for which they take the canonical form of
the canonical form. In a registry in good order this comes to one relation
that mentions neither the ways nor the order: the canonical form is among
the identifiers of the command (`find?_after`).

- A command that is found answers to the spelling (`of_find?_eq_some`):
  what stands under a key has it as its name, and what is asked a second
  time for a canonical form is asked for the same.
- A command that answers to it is found (`find?_eq_some_iff`): the look-up
  ends with some command, and no other one has the identifier
  (`eq_of_mem_identifiers`).

Good order does not depend on the order of the entries (`Sound.perm`), and
so neither does what a spelling finds.
-/
import CommandConsole.Proofs.Registry.Uniqueness

namespace CommandConsole.Registry

variable {ρ : Type}

-- ============================================================ good order

/-- An identifier belongs to one entry. -/
theorem Sound.eq_of_mem_identifiers {r : Registry ρ} (h : r.Sound)
    {a b : String × Command ρ} (ha : a ∈ r.entries) (hb : b ∈ r.entries) {t : String}
    (hta : t ∈ a.2.outline.identifiers) (htb : t ∈ b.2.outline.identifiers) : a = b := by
  by_contra hne
  exact disjoint_of_pairwise h.disjoint ha hb hne hta htb

/-- The entries of a registry in good order may stand in another order. -/
theorem Sound.perm {r other : Registry ρ} (h : r.Sound)
    (hperm : other.entries.Perm r.entries) : other.Sound where
  wellFormed := fun entry he => h.wellFormed entry (hperm.subset he)
  key_eq := fun entry he => h.key_eq entry (hperm.subset he)
  key_ne_empty := fun entry he => h.key_ne_empty entry (hperm.subset he)
  disjoint := (hperm.pairwise_iff fun hab => List.disjoint_symm hab).2 h.disjoint

/-- The empty text is no identifier. -/
theorem Sound.empty_notMem_identifiers {r : Registry ρ} (h : r.Sound)
    {entry : String × Command ρ} (he : entry ∈ r.entries) :
    "" ∉ entry.2.outline.identifiers :=
  (h.wellFormed entry he).empty_notMem_identifiers
    (h.key_eq entry he ▸ h.key_ne_empty entry he)

/-- The commands are those of the entries. -/
theorem mem_commands {r : Registry ρ} {c : Command ρ} :
    c ∈ r.commands ↔ ∃ entry ∈ r.entries, entry.2 = c :=
  List.mem_map

theorem mem_place {key : String} {c : Command ρ} {entry : String × Command ρ}
    {entries : List (String × Command ρ)} (h : entry ∈ place key c entries) :
    entry ∈ entries ∨ entry = (key, c) := by
  induction entries with
  | nil => exact .inr (List.mem_singleton.1 h)
  | cons first rest ih =>
      rw [place] at h
      split at h
      · rcases List.mem_cons.1 h with rfl | h
        · exact .inr rfl
        · exact .inl (List.mem_cons_of_mem first h)
      · rcases List.mem_cons.1 h with rfl | h
        · exact .inl List.mem_cons_self
        · exact (ih h).imp_left (List.mem_cons_of_mem first)

/-- After a registration the commands are those from before, and the new
one. -/
theorem mem_commands_insert {r : Registry ρ} {c d : Command ρ} {custom : Bool}
    (h : d ∈ (r.insert c custom).2.commands) : d ∈ r.commands ∨ d = kept c custom := by
  unfold insert at h
  split at h
  · exact .inl h
  · obtain ⟨entry, hentry, rfl⟩ := mem_commands.1 h
    rcases mem_place hentry with hentry | rfl
    · exact .inl (mem_commands.2 ⟨entry, hentry, rfl⟩)
    · exact .inr rfl

theorem mem_commands_erase {r : Registry ρ} {spelling : String} {c : Command ρ}
    (h : c ∈ (r.erase spelling).2.commands) : c ∈ r.commands := by
  obtain ⟨entry, hentry, rfl⟩ := mem_commands.1 h
  exact mem_commands.2 ⟨entry, (entries_erase_sublist r spelling).subset hentry, rfl⟩

-- =============================================================== look-up

/-- What a spelling finds depends on its canonical form. -/
theorem find?_congr (r : Registry ρ) {s t : String} (h : Text.canonical s = Text.canonical t) :
    r.find? s = r.find? t := by
  unfold find?
  rw [h]

/-- What is found under a key is the command of an entry that has the key. -/
theorem exists_of_named?_eq_some {r : Registry ρ} {key : String} {c : Command ρ}
    (hfound : r.named? key = some c) :
    ∃ entry ∈ r.entries, entry.1 = key ∧ entry.2 = c := by
  obtain ⟨entry, hentry, rfl⟩ := Option.map_eq_some_iff.1 hfound
  have hkey : (entry.1 == key) = true :=
    List.find?_some (p := fun e : String × Command ρ => e.1 == key) hentry
  exact ⟨entry, List.mem_of_find?_eq_some hentry, eq_of_beq hkey, rfl⟩

/-- What a spelling finds is registered. -/
theorem mem_commands_of_find? {r : Registry ρ} {spelling : String} {c : Command ρ}
    (h : r.find? spelling = some c) : c ∈ r.commands := by
  unfold find? at h
  simp only at h
  split at h
  · cases h
  · split at h
    · next d hd =>
      obtain rfl := Option.some.inj h
      obtain ⟨entry, hentry, -, rfl⟩ := exists_of_named?_eq_some hd
      exact mem_commands.2 ⟨entry, hentry, rfl⟩
    · exact List.mem_of_find?_eq_some h

/-- A command that a spelling finds is registered and has the canonical form
of the spelling among its identifiers, if the commands stand under their
names. -/
theorem of_find?_eq_some {r : Registry ρ}
    (hkeys : ∀ entry ∈ r.entries, entry.1 = entry.2.outline.name) {s : String} {c : Command ρ}
    (hfound : r.find? s = some c) :
    c ∈ r.commands ∧ Text.canonical s ∈ c.outline.identifiers := by
  unfold find? at hfound
  simp only at hfound
  split at hfound
  · cases hfound
  · split at hfound
    · -- under its key, which is its name
      next d hd =>
      obtain rfl := Option.some.inj hfound
      obtain ⟨entry, he, hkey, rfl⟩ := exists_of_named?_eq_some hd
      refine ⟨mem_commands.2 ⟨entry, he, rfl⟩, Outline.mem_identifiers.2 (.inl ?_)⟩
      rw [← hkey, hkeys entry he]
    · -- by an alias, asked for a second time
      refine ⟨List.mem_of_find?_eq_some hfound, Outline.mem_identifiers.2 (.inr ?_)⟩
      have halias : c.outline.hasAlias [Text.canonical s] = true :=
        List.find?_some (p := fun c : Command ρ => c.outline.hasAlias [Text.canonical s]) hfound
      have hmem := (Outline.hasAlias_singleton.1 halias).2
      rwa [Text.canonical_canonical] at hmem

/-- Some command is found if a registered one has the canonical form of the
spelling among its identifiers, and the form is not empty. -/
theorem exists_find?_eq_some {r : Registry ρ}
    (hkeys : ∀ entry ∈ r.entries, entry.1 = entry.2.outline.name) {s : String}
    {c : Command ρ} (hne : Text.canonical s ≠ "") (hc : c ∈ r.commands)
    (hs : Text.canonical s ∈ c.outline.identifiers) : ∃ d, r.find? s = some d := by
  obtain ⟨entry, he, rfl⟩ := mem_commands.1 hc
  unfold find?
  rw [if_neg hne]
  split
  · next d _ => exact ⟨d, rfl⟩
  · next hnamed =>
    have hother : ∀ other ∈ r.entries, other.1 ≠ Text.canonical s := by
      intro other ho hkey
      exact List.find?_eq_none.1 (Option.map_eq_none_iff.1 hnamed) other ho (beq_iff_eq.2 hkey)
    -- the canonical form is not the name of the command, and so an alias
    have halias : entry.2.outline.hasAlias [Text.canonical s] = true := by
      refine Outline.hasAlias_singleton.2 ⟨hne, ?_⟩
      rw [Text.canonical_canonical]
      rcases Outline.mem_identifiers.1 hs with hname | halias
      · exact absurd ((hkeys entry he).trans hname.symm) (hother entry he)
      · exact halias
    exact Option.isSome_iff_exists.1
      (List.find?_isSome.2 ⟨entry.2, mem_commands.2 ⟨entry, he, rfl⟩, halias⟩)

/-- No identifier of a registered command is empty. -/
theorem Sound.canonical_ne_empty {r : Registry ρ} (h : r.Sound) {s : String} {c : Command ρ}
    (hc : c ∈ r.commands) (hs : Text.canonical s ∈ c.outline.identifiers) :
    Text.canonical s ≠ "" := by
  obtain ⟨entry, he, rfl⟩ := mem_commands.1 hc
  exact fun hempty => h.empty_notMem_identifiers he (hempty ▸ hs)

/-- A spelling finds the registered command that has its canonical form among
its identifiers. -/
theorem Sound.find?_eq_some_iff {r : Registry ρ} (h : r.Sound) {s : String}
    {c : Command ρ} :
    r.find? s = some c ↔ c ∈ r.commands ∧ Text.canonical s ∈ c.outline.identifiers := by
  constructor
  · exact of_find?_eq_some h.key_eq
  · rintro ⟨hc, hs⟩
    obtain ⟨d, hfound⟩ := exists_find?_eq_some h.key_eq (h.canonical_ne_empty hc hs) hc hs
    obtain ⟨hd, hs'⟩ := of_find?_eq_some h.key_eq hfound
    obtain ⟨a, ha, rfl⟩ := mem_commands.1 hc
    obtain ⟨b, hb, rfl⟩ := mem_commands.1 hd
    rw [hfound, h.eq_of_mem_identifiers ha hb hs hs']

/-- Each of its identifiers finds a registered command. -/
theorem Sound.find?_of_mem_identifiers {r : Registry ρ} (h : r.Sound)
    {entry : String × Command ρ} (he : entry ∈ r.entries) {t : String}
    (ht : t ∈ entry.2.outline.identifiers) : r.find? t = some entry.2 := by
  refine h.find?_eq_some_iff.2 ⟨mem_commands.2 ⟨entry, he, rfl⟩, ?_⟩
  rw [(h.wellFormed entry he).canonical_identifier ht]
  exact ht

/-- A spelling finds nothing if no registered command has its canonical form
among its identifiers. -/
theorem Sound.find?_eq_none_iff {r : Registry ρ} (h : r.Sound) {s : String} :
    r.find? s = none ↔ ∀ c ∈ r.commands, Text.canonical s ∉ c.outline.identifiers := by
  constructor
  · intro hnone c hc hs
    rw [h.find?_eq_some_iff.2 ⟨hc, hs⟩] at hnone
    cases hnone
  · intro hall
    cases hfound : r.find? s with
    | none => rfl
    | some c =>
        obtain ⟨hc, hs⟩ := of_find?_eq_some h.key_eq hfound
        exact absurd hs (hall c hc)

/-- What a spelling finds does not depend on the order of the entries. -/
theorem Sound.find?_perm {r other : Registry ρ} (h : r.Sound)
    (hperm : other.entries.Perm r.entries) (s : String) : other.find? s = r.find? s := by
  have hmem : ∀ c, c ∈ other.commands ↔ c ∈ r.commands := fun c => (hperm.map (·.2)).mem_iff
  refine Option.ext fun c => ?_
  rw [(h.perm hperm).find?_eq_some_iff, h.find?_eq_some_iff, hmem]

-- ============================================================= uniqueness

/-- The commands that answer to a spelling. -/
def answering (r : Registry ρ) (spelling : String) : List (Command ρ) :=
  r.commands.filter fun c => c.outline.identifiers.contains (Text.canonical spelling)

/-- At most one command answers to a spelling. -/
theorem Sound.length_answering_le_one {r : Registry ρ} (h : r.Sound) (s : String) :
    (r.answering s).length ≤ 1 := by
  have hdisjoint : (r.answering s).Pairwise fun c d =>
      c.outline.identifiers.Disjoint d.outline.identifiers :=
    (h.disjoint.map Prod.snd fun _ _ hab => hab).sublist List.filter_sublist
  have hanswers : ∀ c ∈ r.answering s, Text.canonical s ∈ c.outline.identifiers :=
    fun c hc => List.contains_iff_mem.1 (List.mem_filter.1 hc).2
  match hlist : r.answering s with
  | [] => exact Nat.zero_le 1
  | [_] => exact Nat.le_refl 1
  | c :: d :: rest =>
      -- two of them would share the canonical form
      rw [hlist] at hdisjoint hanswers
      exact absurd (hanswers d (List.mem_cons_of_mem c List.mem_cons_self))
        (List.rel_of_pairwise_cons hdisjoint List.mem_cons_self
          (hanswers c List.mem_cons_self))

/-- A spelling finds a command exactly if its canonical form is one of the
identifiers of the command, and nothing exactly if the form is empty or an
identifier of no command. At most one command answers to it, and it finds
the same in whatever order the commands have been registered. -/
theorem find?_after (changes : List (Change ρ)) (s : String) :
    (∀ c ∈ (after changes).commands,
        (after changes).find? s = some c ↔ Text.canonical s ∈ c.outline.identifiers)
      ∧ ((after changes).find? s = none
          ↔ Text.canonical s = ""
            ∨ ∀ c ∈ (after changes).commands, Text.canonical s ∉ c.outline.identifiers)
      ∧ ((after changes).answering s).length ≤ 1
      ∧ ∀ other : Registry ρ, other.entries.Perm (after changes).entries →
          other.find? s = (after changes).find? s := by
  have h := sound_after changes
  refine ⟨fun c hc => ?_, ?_, h.length_answering_le_one s,
    fun other hperm => h.find?_perm hperm s⟩
  · rw [h.find?_eq_some_iff, and_iff_right hc]
  · rw [h.find?_eq_none_iff]
    refine ⟨.inr, ?_⟩
    rintro (hempty | hall)
    · intro c hc
      obtain ⟨entry, he, rfl⟩ := mem_commands.1 hc
      rw [hempty]
      exact h.empty_notMem_identifiers he
    · exact hall

end CommandConsole.Registry
