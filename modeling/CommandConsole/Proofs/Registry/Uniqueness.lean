/-
No identifier belongs to two commands of a registry.

A registry is changed by three operations: a command is registered under
its name, the command that a spelling names is removed, and all commands
are removed. Whatever changes are made to an empty registry, in any order,
each command stands under its canonical name, no command has an empty
identifier, and no two commands share one (`identifiers_after`).

# The invariant

`Filed` says so of one registry as far as the registry itself sees to it, and
`Sound` says as well that the commands have well-formed identifiers. Each
change keeps both (`sound_change`), and so does every run of changes
(`sound_after`).

- Registering is the only change that adds an entry. It adds one if the
  name is not empty and no identifier is in use (`insert_cases`), and since
  the key of every entry is an identifier in use, the new one has a key of
  its own and goes to the end (`place_eq_append`).
- Removing and clearing leave a part of the entries, and what holds of
  every entry and of every pair of entries holds of a part.
-/
import Mathlib.Data.List.Pairwise
import CommandConsole.Proofs.Command.Identifiers

namespace CommandConsole.Registry

variable {ρ : Type}

-- ================================================================= changes

/-- A change of a registry. -/
inductive Change (ρ : Type) where
  /-- A command is registered, by a caller if `custom` says so. -/
  | register (c : Command ρ) (made : c.Made) (custom : Bool)
  /-- The command that a spelling names is removed. -/
  | remove (spelling : String)
  /-- All commands are removed. -/
  | clear

/-- A registry with a change made to it, which may come to nothing. -/
def change (r : Registry ρ) : Change ρ → Registry ρ
  | .register c _ custom => (r.insert c custom).2
  | .remove spelling => (r.erase spelling).2
  | .clear => empty

/-- The registry that some changes make of an empty one. -/
def after (changes : List (Change ρ)) : Registry ρ := changes.foldl change empty

theorem after_append_singleton (changes : List (Change ρ)) (step : Change ρ) :
    after (changes ++ [step]) = (after changes).change step := by
  unfold after
  rw [List.foldl_append]
  rfl

-- =============================================================== invariant

/-- Of commands in a row that share no identifier, any two others share none. -/
theorem disjoint_of_pairwise {α : Type} {f : α → Outline} {row : List α}
    (h : row.Pairwise fun a b => (f a).identifiers.Disjoint (f b).identifiers) {a b : α}
    (ha : a ∈ row) (hb : b ∈ row) (hne : a ≠ b) :
    (f a).identifiers.Disjoint (f b).identifiers := by
  have hsymm : Std.Symm fun a b => (f a).identifiers.Disjoint (f b).identifiers :=
    ⟨fun _ _ hab => List.disjoint_symm hab⟩
  exact h.forall ha hb hne

/-- The commands of a registry stand under their names, none of which is empty,
and share no identifier. -/
structure Filed (r : Registry ρ) : Prop where
  key_eq : ∀ entry ∈ r.entries, entry.1 = entry.2.outline.name
  key_ne_empty : ∀ entry ∈ r.entries, entry.1 ≠ ""
  disjoint : r.entries.Pairwise fun a b =>
    a.2.outline.identifiers.Disjoint b.2.outline.identifiers

/-- A registry in good order. -/
structure Sound (r : Registry ρ) : Prop where
  wellFormed : ∀ entry ∈ r.entries, entry.2.outline.WellFormed
  key_eq : ∀ entry ∈ r.entries, entry.1 = entry.2.outline.name
  key_ne_empty : ∀ entry ∈ r.entries, entry.1 ≠ ""
  disjoint : r.entries.Pairwise fun a b =>
    a.2.outline.identifiers.Disjoint b.2.outline.identifiers

theorem Sound.filed {r : Registry ρ} (h : r.Sound) : r.Filed :=
  ⟨h.key_eq, h.key_ne_empty, h.disjoint⟩

/-- Good order is a matter of the registry and of what its commands are. -/
theorem Filed.sound {r : Registry ρ} (h : r.Filed)
    (hwell : ∀ entry ∈ r.entries, entry.2.outline.WellFormed) : r.Sound :=
  ⟨hwell, h.key_eq, h.key_ne_empty, h.disjoint⟩

theorem filed_empty : (empty : Registry ρ).Filed := by
  constructor
  · exact fun _ h => absurd h List.not_mem_nil
  · exact fun _ h => absurd h List.not_mem_nil
  · exact List.Pairwise.nil

/-- The registry without commands is in good order. -/
theorem sound_empty : (empty : Registry ρ).Sound :=
  filed_empty.sound fun _ h => absurd h List.not_mem_nil

theorem Filed.of_sublist {r part : Registry ρ} (h : r.Filed)
    (hpart : part.entries.Sublist r.entries) : part.Filed where
  key_eq := fun entry he => h.key_eq entry (hpart.subset he)
  key_ne_empty := fun entry he => h.key_ne_empty entry (hpart.subset he)
  disjoint := h.disjoint.sublist hpart

/-- A part of a registry in good order is in good order. -/
theorem Sound.of_sublist {r part : Registry ρ} (h : r.Sound)
    (hpart : part.entries.Sublist r.entries) : part.Sound :=
  (h.filed.of_sublist hpart).sound fun entry he => h.wellFormed entry (hpart.subset he)

-- ================================================================ inserting

/-- The identifiers in use are those of the commands. -/
theorem mem_taken {r : Registry ρ} {t : String} :
    t ∈ r.taken ↔ ∃ entry ∈ r.entries, t ∈ entry.2.outline.identifiers := by
  unfold taken outlines commands
  rw [List.mem_flatMap]
  constructor
  · rintro ⟨o, ho, ht⟩
    obtain ⟨c, hc, rfl⟩ := List.mem_map.1 ho
    obtain ⟨entry, he, rfl⟩ := List.mem_map.1 hc
    exact ⟨entry, he, ht⟩
  · rintro ⟨entry, he, ht⟩
    exact ⟨_, List.mem_map_of_mem (List.mem_map_of_mem he), ht⟩

/-- There are no conflicts if no command shares an identifier. -/
theorem conflicts_eq_nil_iff {r : Registry ρ} {o : Outline} :
    r.conflicts o = []
      ↔ ∀ entry ∈ r.entries, entry.2.outline.identifiers.Disjoint o.identifiers := by
  unfold conflicts
  rw [List.filter_eq_nil_iff]
  constructor
  · intro h entry he t ht ho
    exact h t ho (List.contains_iff_mem.2 (mem_taken.2 ⟨entry, he, ht⟩))
  · intro h t ho htaken
    obtain ⟨entry, he, ht⟩ := mem_taken.1 (List.contains_iff_mem.1 htaken)
    exact h entry he ht ho

/-- A key that no entry has gets an entry at the end. -/
theorem place_eq_append {key : String} {c : Command ρ}
    {entries : List (String × Command ρ)} (h : ∀ entry ∈ entries, entry.1 ≠ key) :
    place key c entries = entries ++ [(key, c)] := by
  induction entries with
  | nil => rfl
  | cons entry rest ih =>
      rw [place, if_neg (h entry List.mem_cons_self),
        ih fun e he => h e (List.mem_cons_of_mem entry he), List.cons_append]

/-- What a registry keeps of a command that it registers. -/
def kept (c : Command ρ) (custom : Bool) : Command ρ := if custom then markCustom c else c

/-- Being registered by a caller does not change the identifiers. -/
@[simp] theorem kept_identifiers (c : Command ρ) (custom : Bool) :
    (kept c custom).outline.identifiers = c.outline.identifiers := by
  cases custom <;> rfl

@[simp] theorem kept_name (c : Command ρ) (custom : Bool) :
    (kept c custom).outline.name = c.outline.name := by
  cases custom <;> rfl

/-- Registering either is refused, and leaves the registry as it is, or adds
the command at the end, if the commands stand under their names. -/
theorem insert_cases {r : Registry ρ}
    (hkeys : ∀ entry ∈ r.entries, entry.1 = entry.2.outline.name) (c : Command ρ)
    (custom : Bool) :
    (r.insert c custom = (false, r) ∧ (c.outline.name = "" ∨ r.conflicts c.outline ≠ []))
      ∨ (r.insert c custom = (true, ⟨r.entries ++ [(c.outline.name, kept c custom)]⟩)
        ∧ c.outline.name ≠ "" ∧ r.conflicts c.outline = []) := by
  unfold insert
  split
  · next hrefused => exact .inl ⟨rfl, hrefused⟩
  · next hadded =>
    rw [not_or, not_not] at hadded
    refine .inr ⟨?_, hadded⟩
    rw [place_eq_append]
    · rfl
    · -- the key of an entry is an identifier in use, and the name is none
      intro entry he hkey
      refine conflicts_eq_nil_iff.1 hadded.2 entry he
        (Outline.mem_identifiers.2 (.inl ?_)) (Outline.mem_identifiers.2 (.inl rfl))
      rw [← hkeys entry he, hkey]

/-- Registering any command keeps the entries apart. -/
theorem Filed.insert {r : Registry ρ} (h : r.Filed) (c : Command ρ) (custom : Bool) :
    (r.insert c custom).2.Filed := by
  rcases insert_cases h.key_eq c custom with ⟨hinsert, -⟩ | ⟨hinsert, hname, hfree⟩
  · rw [hinsert]
    exact h
  · rw [hinsert]
    constructor
    · exact List.forall_mem_append.2
        ⟨h.key_eq, List.forall_mem_singleton.2 (kept_name c custom).symm⟩
    · exact List.forall_mem_append.2 ⟨h.key_ne_empty, List.forall_mem_singleton.2 hname⟩
    · refine List.pairwise_append.2 ⟨h.disjoint, List.pairwise_singleton _ _, fun a ha => ?_⟩
      refine List.forall_mem_singleton.2 ?_
      rw [kept_identifiers]
      exact conflicts_eq_nil_iff.1 hfree a ha

/-- What a registry keeps of a command is a command again. -/
theorem made_kept {c : Command ρ} (h : c.Made) (custom : Bool) : (kept c custom).Made := by
  cases custom with
  | false => exact h
  | true => exact .marked h

/-- Registering a command keeps a registry in good order. -/
theorem sound_insert {r : Registry ρ} (h : r.Sound) {c : Command ρ} (hc : c.Made)
    (custom : Bool) : (r.insert c custom).2.Sound := by
  refine (h.filed.insert c custom).sound ?_
  rcases insert_cases h.key_eq c custom with ⟨hinsert, -⟩ | ⟨hinsert, -⟩
  · rw [hinsert]
    exact h.wellFormed
  · rw [hinsert]
    exact List.forall_mem_append.2
      ⟨h.wellFormed, List.forall_mem_singleton.2 (made_kept hc custom).wellFormed⟩

-- ================================================================= removing

/-- Removing leaves a part of the entries. -/
theorem entries_erase_sublist (r : Registry ρ) (spelling : String) :
    (r.erase spelling).2.entries.Sublist r.entries := by
  unfold erase
  split
  · exact List.Sublist.refl _
  · split
    · exact List.Sublist.refl _
    · exact List.filter_sublist

-- ===================================================================== runs

/-- A change keeps a registry in good order. -/
theorem sound_change {r : Registry ρ} (h : r.Sound) (step : Change ρ) :
    (r.change step).Sound := by
  cases step with
  | register c made custom =>
      rw [change]
      exact sound_insert h made custom
  | remove spelling =>
      rw [change]
      exact h.of_sublist (entries_erase_sublist r spelling)
  | clear => exact sound_empty

/-- Changes that are made one after the other keep a registry in good
order. -/
theorem sound_foldl {r : Registry ρ} (h : r.Sound) (changes : List (Change ρ)) :
    (changes.foldl change r).Sound := by
  induction changes generalizing r with
  | nil => exact h
  | cons step rest ih => exact ih (sound_change h step)

/-- What changes make of an empty registry is in good order. -/
theorem sound_after (changes : List (Change ρ)) : (after changes).Sound :=
  sound_foldl sound_empty changes

/-- Whatever changes are made to an empty registry, each command stands
under its name, which is a canonical form and not empty; no command has an
empty identifier; and no two commands share one. -/
theorem identifiers_after (changes : List (Change ρ)) :
    (∀ entry ∈ (after changes).entries, entry.1 = entry.2.outline.name
        ∧ Text.canonical entry.1 = entry.1 ∧ entry.1 ≠ "")
      ∧ (∀ entry ∈ (after changes).entries, "" ∉ entry.2.outline.identifiers)
      ∧ (after changes).entries.Pairwise fun a b =>
          a.2.outline.identifiers.Disjoint b.2.outline.identifiers := by
  have h := sound_after changes
  refine ⟨fun entry he => ⟨h.key_eq entry he, ?_, h.key_ne_empty entry he⟩,
    fun entry he => ?_, h.disjoint⟩
  · rw [h.key_eq entry he]
    exact (h.wellFormed entry he).canonical_name
  · refine (h.wellFormed entry he).empty_notMem_identifiers ?_
    rw [← h.key_eq entry he]
    exact h.key_ne_empty entry he

end CommandConsole.Registry
