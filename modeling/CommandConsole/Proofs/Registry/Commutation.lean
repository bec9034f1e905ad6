/-
Changes of a registry that have nothing to do with each other.

A change touches some texts (`Touches`): registering touches the identifiers of
the command, and removing touches the canonical form of the spelling and the
identifiers of the command that it finds. Every change reads the whole registry,
since a registration asks for conflicts and a removal looks among all aliases. In
a registry in good order this comes to what the touched texts find, and to nothing
else:

- a spelling of a text that is not touched finds what it found before
  (`Sound.find?_change_untouched`);
- a spelling of a touched text finds what the change leaves there, or what it found
  before if the change is refused (`Sound.find?_change_touched`);
- whether a change is refused depends on what touched texts find
  (`Sound.answer_eq`).

So two changes that touch no text in common do not notice each other
(`Sound.find?_comm`). What spellings find tells a registry in good order but for the
order of its entries (`Sound.perm_of_find?_eq`), and therefore the two orders of the
changes lead to the same commands (`changes_commute`).
-/
import CommandConsole.Proofs.Registry.Removal

namespace CommandConsole.Registry

variable {ρ : Type} {r r' : Registry ρ} {a b : Change ρ} {s t : String}

-- ================================================================= changes

/-- The answer to a change: whether a command was registered, or whether a
spelling names no command now. Clearing is never refused. -/
def answer (r : Registry ρ) : Change ρ → Bool
  | .register c _ custom => (r.insert c custom).1
  | .remove spelling => (r.erase spelling).1
  | .clear => true

/-- A change of a registry touches a text. -/
def Touches (r : Registry ρ) : Change ρ → String → Prop
  | .register c _ _, t => t ∈ c.outline.identifiers
  | .remove spelling, t =>
      t = Text.canonical spelling ∨ ∃ c, r.find? spelling = some c ∧ t ∈ c.outline.identifiers
  | .clear, _ => True

/-- What the touched texts find after a change that was not refused: the command
that was registered, or nothing. -/
def Change.leaves : Change ρ → Option (Command ρ)
  | .register c _ custom => some (kept c custom)
  | .remove _ | .clear => none

-- =================================================================== frame

/-- A change leaves alone what it does not touch. -/
theorem Sound.find?_change_untouched (h : r.Sound) (hs : ¬ r.Touches a (Text.canonical s)) :
    (r.change a).find? s = r.find? s := by
  cases a with
  | clear => exact absurd trivial hs
  | register c made custom =>
      have hsound := sound_insert h made custom
      show (r.insert c custom).2.find? s = r.find? s
      rcases insert_cases h.key_eq c custom with ⟨hinsert, -⟩ | ⟨hinsert, -⟩
      · rw [hinsert]
      · rw [hinsert] at hsound ⊢
        cases hfound : r.find? s with
        | some d =>
            obtain ⟨hd, hsd⟩ := h.find?_eq_some_iff.1 hfound
            obtain ⟨entry, he, rfl⟩ := mem_commands.1 hd
            refine hsound.find?_eq_some_iff.2 ⟨mem_commands.2 ⟨entry, ?_, rfl⟩, hsd⟩
            exact List.mem_append_left _ he
        | none =>
            refine hsound.find?_eq_none_iff.2 fun d hd => ?_
            obtain ⟨entry, he, rfl⟩ := mem_commands.1 hd
            rcases List.mem_append.1 he with he | he
            · exact h.find?_eq_none_iff.1 hfound _ (mem_commands.2 ⟨entry, he, rfl⟩)
            · rw [List.mem_singleton.1 he, kept_identifiers]
              exact hs
  | remove spelling =>
      have hends := h.removal spelling
      show (r.erase spelling).2.find? s = r.find? s
      generalize r.erase spelling = result at hends
      cases hends with
      | missing | refused => rfl
      | removed hfound _ _ _ _ hothers =>
          refine hothers s fun hsame => hs (.inr ⟨_, hfound, ?_⟩)
          exact (h.find?_eq_some_iff.1 hsame).2

-- ================================================================ locality

/-- A spelling of a text that a removal touches finds what the removal finds. -/
theorem Sound.find?_of_touches_remove (h : r.Sound)
    (hs : r.Touches (.remove t) (Text.canonical s)) : r.find? s = r.find? t := by
  rcases hs with hs | ⟨c, hc, hsc⟩
  · exact r.find?_congr hs
  · rw [hc]
    exact h.find?_eq_some_iff.2 ⟨(h.find?_eq_some_iff.1 hc).1, hsc⟩

/-- After a change the touched texts find what it leaves, or what they found before
if it was refused. -/
theorem Sound.find?_change_touched (h : r.Sound) (hs : r.Touches a (Text.canonical s)) :
    (r.change a).find? s = if r.answer a = true then a.leaves else r.find? s := by
  cases a with
  | clear => exact sound_empty.find?_eq_none_iff.2 fun c hc => absurd hc List.not_mem_nil
  | register c made custom =>
      have hsound := sound_insert h made custom
      show (r.insert c custom).2.find? s
        = if (r.insert c custom).1 = true then some (kept c custom) else r.find? s
      rcases insert_cases h.key_eq c custom with ⟨hinsert, -⟩ | ⟨hinsert, -⟩
      · rw [hinsert, if_neg Bool.false_ne_true]
      · rw [hinsert] at hsound ⊢
        rw [if_pos rfl]
        refine hsound.find?_eq_some_iff.2
          ⟨mem_commands.2 ⟨(c.outline.name, kept c custom), ?_, rfl⟩, ?_⟩
        · exact List.mem_append_right _ (List.mem_singleton_self _)
        · rw [kept_identifiers]
          exact hs
  | remove spelling =>
      have hsame := h.find?_of_touches_remove hs
      have hends := h.removal spelling
      show (r.erase spelling).2.find? s = if (r.erase spelling).1 = true then none else r.find? s
      generalize r.erase spelling = result at hends
      cases hends with
      | missing hnone =>
          rw [if_pos rfl]
          exact hsame.trans hnone
      | refused => rw [if_neg Bool.false_ne_true]
      | removed hfound _ _ _ hgone _ =>
          rw [if_pos rfl]
          exact hgone s (hsame.trans hfound)

/-- A command is registered if it has a name and its identifiers find nothing. -/
theorem Sound.insert_eq_true_iff (h : r.Sound) {c : Command ρ} (hc : c.Made) (custom : Bool) :
    (r.insert c custom).1 = true
      ↔ c.outline.name ≠ "" ∧ ∀ t ∈ c.outline.identifiers, r.find? t = none := by
  have hfree : r.conflicts c.outline = [] ↔ ∀ t ∈ c.outline.identifiers, r.find? t = none := by
    rw [conflicts_eq_nil_iff]
    constructor
    · intro hdisjoint t ht
      refine h.find?_eq_none_iff.2 fun d hd => ?_
      obtain ⟨entry, he, rfl⟩ := mem_commands.1 hd
      rw [hc.wellFormed.canonical_identifier ht]
      exact fun htd => hdisjoint entry he htd ht
    · intro hnone entry he t hte ht
      have hmissed := h.find?_eq_none_iff.1 (hnone t ht) _ (mem_commands.2 ⟨entry, he, rfl⟩)
      rw [hc.wellFormed.canonical_identifier ht] at hmissed
      exact hmissed hte
  rcases insert_cases h.key_eq c custom with ⟨hinsert, hrefused⟩ | ⟨hinsert, hadded⟩
  · rw [hinsert, ← hfree]
    exact iff_of_false Bool.false_ne_true fun hboth => hrefused.elim hboth.1 (· hboth.2)
  · rw [hinsert, ← hfree]
    exact iff_of_true rfl hadded

/-- A removal is refused if the command that the spelling finds is permanent. -/
theorem erase_fst (r : Registry ρ) (spelling : String) :
    (r.erase spelling).1 = (r.find? spelling).all fun c => !isPermanent c.outline := by
  unfold erase
  cases r.find? spelling with
  | none => rfl
  | some c =>
      dsimp only [Option.all_some]
      cases isPermanent c.outline with
      | true => rfl
      | false => rfl

-- ============================================================ independence

/-- The texts that a change touches find the same in two registries. -/
def Agree (r r' : Registry ρ) (a : Change ρ) : Prop :=
  ∀ s, r.Touches a (Text.canonical s) → r'.find? s = r.find? s

/-- A change touches the same texts where those texts find the same. -/
theorem Agree.touches_iff (h : Agree r r' a) : r'.Touches a t ↔ r.Touches a t := by
  cases a with
  | register | clear => exact Iff.rfl
  | remove spelling =>
      have hsame : r'.find? spelling = r.find? spelling := h spelling (.inl rfl)
      show _ ∨ (∃ c, r'.find? spelling = some c ∧ _) ↔ _ ∨ ∃ c, r.find? spelling = some c ∧ _
      rw [hsame]

/-- A change is answered in the same way where the texts that it touches find the
same. -/
theorem Sound.answer_eq (h : r.Sound) (h' : r'.Sound) (hagree : Agree r r' a) :
    r'.answer a = r.answer a := by
  cases a with
  | clear => rfl
  | register c made custom =>
      refine Bool.eq_iff_iff.2 ?_
      show (r'.insert c custom).1 = true ↔ (r.insert c custom).1 = true
      rw [h.insert_eq_true_iff made, h'.insert_eq_true_iff made]
      refine and_congr_right fun _ => forall₂_congr fun t ht => ?_
      have htouched : r.Touches (.register c made custom) (Text.canonical t) := by
        unfold Touches
        rwa [made.wellFormed.canonical_identifier ht]
      rw [hagree t htouched]
  | remove spelling =>
      show (r'.erase spelling).1 = (r.erase spelling).1
      rw [erase_fst, erase_fst, hagree spelling (.inl rfl)]

/-- Two changes of a registry touch no text in common. -/
def Apart (r : Registry ρ) (a b : Change ρ) : Prop := ∀ t, r.Touches a t → ¬ r.Touches b t

theorem Apart.symm (h : r.Apart a b) : r.Apart b a := fun t hb ha => h t ha hb

/-- What a change touches finds the same after another one that touches nothing of
it. -/
theorem Sound.agree_change (h : r.Sound) (hapart : r.Apart a b) : Agree r (r.change b) a :=
  fun _ hs => h.find?_change_untouched (hapart _ hs)

/-- Where one of two changes that are apart touches, the other one does not show. -/
theorem Sound.find?_comm_touched (h : r.Sound) (hapart : r.Apart a b)
    (hs : r.Touches a (Text.canonical s)) :
    ((r.change b).change a).find? s = ((r.change a).change b).find? s := by
  have hsound := sound_change h b
  have hagree := h.agree_change hapart
  have huntouched : ¬ (r.change a).Touches b (Text.canonical s) := fun hb =>
    hapart _ hs ((h.agree_change hapart.symm).touches_iff.1 hb)
  rw [hsound.find?_change_touched (hagree.touches_iff.2 hs), h.answer_eq hsound hagree,
    hagree s hs, (sound_change h a).find?_change_untouched huntouched, h.find?_change_touched hs]

/-- Two changes that are apart lead to the same look-ups in either order. -/
theorem Sound.find?_comm (h : r.Sound) (hapart : r.Apart a b) (s : String) :
    ((r.change a).change b).find? s = ((r.change b).change a).find? s := by
  by_cases ha : r.Touches a (Text.canonical s)
  · exact (h.find?_comm_touched hapart ha).symm
  · by_cases hb : r.Touches b (Text.canonical s)
    · exact h.find?_comm_touched hapart.symm hb
    · have hleft := mt (h.agree_change hapart.symm).touches_iff.1 hb
      have hright := mt (h.agree_change hapart).touches_iff.1 ha
      rw [(sound_change h a).find?_change_untouched hleft, h.find?_change_untouched ha,
        (sound_change h b).find?_change_untouched hright, h.find?_change_untouched hb]

-- ================================================================= entries

/-- No entry stands twice in a registry in good order. -/
theorem Sound.nodup_entries (h : r.Sound) : r.entries.Nodup := by
  refine h.disjoint.imp fun {x y} hdisjoint heq => ?_
  subst heq
  exact hdisjoint (Outline.mem_identifiers.2 (.inl rfl)) (Outline.mem_identifiers.2 (.inl rfl))

/-- What spellings find tells the entries of a registry in good order, but for the
order in which they stand. -/
theorem Sound.perm_of_find?_eq (h : r.Sound) (h' : r'.Sound)
    (hfind : ∀ s, r.find? s = r'.find? s) : r.entries.Perm r'.entries := by
  have hsubset : ∀ {p q : Registry ρ}, p.Sound → q.Sound → (∀ s, p.find? s = q.find? s) →
      ∀ entry ∈ p.entries, entry ∈ q.entries := by
    intro p q hp hq hpq entry he
    have hname : entry.2.outline.name ∈ entry.2.outline.identifiers :=
      Outline.mem_identifiers.2 (.inl rfl)
    have hfound := hp.find?_of_mem_identifiers he hname
    rw [hpq] at hfound
    obtain ⟨other, ho, hsame⟩ := mem_commands.1 (hq.find?_eq_some_iff.1 hfound).1
    have hkey : other.1 = entry.1 := by rw [hq.key_eq other ho, hp.key_eq entry he, hsame]
    rwa [← Prod.ext hkey hsame]
  refine (List.perm_ext_iff_of_nodup h.nodup_entries h'.nodup_entries).2 fun entry => ?_
  exact ⟨hsubset h h' hfind entry, hsubset h' h (fun s => (hfind s).symm) entry⟩

/-- Whatever changes have led to a registry, two changes of it that touch no text in
common may be made in either order. Each of them gets the same answer, and the
registry holds the same commands in the end, under the same keys and with the same
marks, so that every spelling finds the same. Only the order of the commands may
differ. -/
theorem changes_commute (changes : List (Change ρ)) {a b : Change ρ}
    (hapart : (after changes).Apart a b) :
    let r := after changes
    (r.change b).answer a = r.answer a
      ∧ (r.change a).answer b = r.answer b
      ∧ ((r.change a).change b).entries.Perm ((r.change b).change a).entries
      ∧ ∀ s, ((r.change a).change b).find? s = ((r.change b).change a).find? s := by
  intro r
  have h : r.Sound := sound_after changes
  have hfind := h.find?_comm hapart
  refine ⟨h.answer_eq (sound_change h b) (h.agree_change hapart),
    h.answer_eq (sound_change h a) (h.agree_change hapart.symm), ?_, hfind⟩
  exact (sound_change (sound_change h a) b).perm_of_find?_eq
    (sound_change (sound_change h b) a) hfind

/-- A command with a name and an alias that does nothing. -/
def idle (name other : String) : CommandDraft Unit where
  name := .text name
  callback := .routine ⟨"f", none, none, fun _ => ()⟩
  aliases := .text other
  descr := .text ""
  parameters := .ok []
  default? := none

/-- Removing a command by an alias and registering another one commute. -/
theorem changes_commute_say :
    ∃ c d, ∃ (hc : Command.ofDraft (idle "print" "say") = .ok c)
        (hd : Command.ofDraft (idle "Greet" "hi") = .ok d),
      let r := after [.register c (.draft hc) true]
      let a : Change Unit := .remove " SAY "
      let b : Change Unit := .register d (.draft hd) true
      r.Apart a b
        ∧ (r.change b).answer a = r.answer a ∧ r.answer a = true
        ∧ (r.change a).answer b = r.answer b ∧ r.answer b = true
        ∧ ((r.change a).change b).find? "say" = ((r.change b).change a).find? "say" := by
  refine ⟨_, _, rfl, rfl, ?_⟩
  intro r a b
  have hapart : r.Apart a b := by
    have hothers : ∀ t ∈ ["greet", "hi"], t ∉ ["print", "say"] := by decide
    rintro t (rfl | ⟨c, hc, ht⟩) hb
    · exact absurd (show Text.canonical " SAY " ∈ ["greet", "hi"] from hb) (by decide)
    · obtain rfl := Option.some.inj (hc.symm.trans (rfl : r.find? " SAY " = some _))
      exact hothers t hb ht
  obtain ⟨hfirst, hsecond, -, hfind⟩ := changes_commute _ hapart
  exact ⟨hapart, hfirst, rfl, hsecond, rfl, hfind "say"⟩

end CommandConsole.Registry
