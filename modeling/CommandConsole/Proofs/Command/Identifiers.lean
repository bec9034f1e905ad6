/-
The identifiers of a command.

Whatever a command is made from, its name and its aliases are canonical
forms, and no alias is empty or the name again (`Outline.WellFormed`). This
holds of every command there is (`Command.Made.wellFormed`): construction
brings it about, by a draft or by a function, and being registered by a
caller only sets a mark.
-/
import CommandConsole.Command.Source
import CommandConsole.Proofs.Text.Canonical
import CommandConsole.Registry

namespace CommandConsole

-- ================================================================ outlines

namespace Outline

/-- A text in its place is one more text of the row. -/
theorem mem_insertText {s t : String} {texts : List String} :
    t ∈ insertText s texts ↔ t = s ∨ t ∈ texts := by
  induction texts with
  | nil => simp [insertText]
  | cons u rest ih =>
      rw [insertText]
      split
      · next h => simp [h]
      · split
        · simp
        · simp only [List.mem_cons, ih]
          exact or_left_comm

/-- Sorting keeps what is there. -/
theorem mem_sortTexts {t : String} {texts : List String} :
    t ∈ sortTexts texts ↔ t ∈ texts := by
  unfold sortTexts
  induction texts with
  | nil => simp
  | cons u rest ih => rw [List.foldr_cons, mem_insertText, ih, List.mem_cons]

/-- A text in its place keeps a row in ascending order. -/
theorem pairwise_insertText {s : String} {texts : List String} (h : texts.Pairwise (· < ·)) :
    (insertText s texts).Pairwise (· < ·) := by
  induction texts with
  | nil => exact List.pairwise_singleton _ _
  | cons t rest ih =>
      obtain ⟨hfirst, hrest⟩ := List.pairwise_cons.1 h
      rw [insertText]
      split
      · exact h
      · next hne =>
        split
        · next hlt =>
          refine List.pairwise_cons.2 ⟨fun u hu => ?_, h⟩
          rcases List.mem_cons.1 hu with rfl | hu
          · exact hlt
          · exact String.lt_trans hlt (hfirst u hu)
        · next hge =>
          refine List.pairwise_cons.2 ⟨fun u hu => ?_, ih hrest⟩
          rcases mem_insertText.1 hu with rfl | hu
          · exact Std.lt_of_le_of_ne (String.not_lt.1 hge) (Ne.symm hne)
          · exact hfirst u hu

/-- What is sorted is in ascending order, each text once. -/
theorem pairwise_sortTexts (texts : List String) : (sortTexts texts).Pairwise (· < ·) := by
  unfold sortTexts
  induction texts with
  | nil => exact List.Pairwise.nil
  | cons u rest ih => exact pairwise_insertText ih

/-- The aliases that some spellings give. -/
theorem mem_aliasSet {name t : String} {spellings : List String} :
    t ∈ aliasSet name spellings
      ↔ (∃ s ∈ spellings, Text.canonical s = t) ∧ t ≠ "" ∧ t ≠ name := by
  unfold aliasSet
  rw [mem_sortTexts, List.mem_filter, List.mem_map]
  simp

/-- A command answers to its name and its aliases. -/
theorem mem_identifiers {o : Outline} {t : String} :
    t ∈ o.identifiers ↔ t = o.name ∨ t ∈ o.aliases :=
  mem_insertText

/-- A spelling of an alias is not empty, and its canonical form is one of
the aliases. -/
theorem hasAlias_singleton {o : Outline} {s : String} :
    o.hasAlias [s] = true ↔ s ≠ "" ∧ Text.canonical s ∈ o.aliases := by
  simp [hasAlias]

/-- The identifiers are canonical forms, and the aliases are not empty and
not the name. -/
structure WellFormed (o : Outline) : Prop where
  canonical_name : Text.canonical o.name = o.name
  canonical_alias : ∀ a ∈ o.aliases, Text.canonical a = a
  alias_ne_empty : "" ∉ o.aliases
  alias_ne_name : o.name ∉ o.aliases

/-- Every identifier is its own canonical form. -/
theorem WellFormed.canonical_identifier {o : Outline} (h : o.WellFormed) {t : String}
    (ht : t ∈ o.identifiers) : Text.canonical t = t := by
  rcases mem_identifiers.1 ht with rfl | ht
  · exact h.canonical_name
  · exact h.canonical_alias t ht

/-- No identifier is empty unless the name is. -/
theorem WellFormed.empty_notMem_identifiers {o : Outline} (h : o.WellFormed)
    (hname : o.name ≠ "") : "" ∉ o.identifiers := by
  intro hmem
  rcases mem_identifiers.1 hmem with heq | hmem
  · exact hname heq.symm
  · exact h.alias_ne_empty hmem

/-- The canonical forms of a name and of some spellings make well-formed
identifiers. -/
theorem wellFormed_of_spellings {o : Outline} {name : String} {spellings : List String}
    (hname : o.name = Text.canonical name) (haliases : o.aliases = aliasSet o.name spellings) :
    o.WellFormed := by
  refine ⟨?_, ?_, ?_, ?_⟩
  · rw [hname, Text.canonical_canonical]
  · intro a ha
    rw [haliases] at ha
    obtain ⟨⟨s, -, rfl⟩, -⟩ := mem_aliasSet.1 ha
    exact Text.canonical_canonical s
  · intro hmem
    rw [haliases] at hmem
    exact (mem_aliasSet.1 hmem).2.1 rfl
  · intro hmem
    rw [haliases] at hmem
    exact (mem_aliasSet.1 hmem).2.2 rfl

end Outline

-- ============================================================ construction

/-- What a chain of checks ends with, its first check ended with too. -/
theorem exists_of_bind_eq_ok {ε α β : Type} {first : Except ε α} {next : α → Except ε β}
    {b : β} (h : first >>= next = .ok b) : ∃ a, first = .ok a ∧ next a = .ok b := by
  cases first with
  | error e => cases h
  | ok a => exact ⟨a, rfl, h⟩

/-- A chain of checks fails where its first check does, or after it. -/
theorem bind_eq_error_iff {ε α β : Type} {first : Except ε α} {next : α → Except ε β} {e : ε} :
    first >>= next = .error e ↔ first = .error e ∨ ∃ a, first = .ok a ∧ next a = .error e := by
  cases first with
  | error e' =>
      refine ⟨fun h => .inl (congrArg _ (Except.error.inj h)), ?_⟩
      rintro (h | ⟨a, ha, -⟩)
      · exact congrArg _ (Except.error.inj h)
      · cases ha
  | ok a =>
      refine ⟨fun h => .inr ⟨a, rfl, h⟩, ?_⟩
      rintro (h | ⟨a', ha, h⟩)
      · cases h
      · cases ha
        exact h

/-- A row whose elements are read back one by one is read back. -/
theorem mapM_map_eq_ok {ε α β : Type} {f : α → β} {g : β → Except ε α}
    (h : ∀ a, g (f a) = .ok a) (row : List α) : (row.map f).mapM g = .ok row := by
  induction row with
  | nil => rfl
  | cons a rest ih =>
      rw [List.map_cons, List.mapM_cons, h, ih]
      rfl

namespace Command

variable {ρ : Type}

/-- What a draft must hold for a command to come of it, and the command. -/
theorem exists_of_ofDraft_eq_ok {draft : CommandDraft ρ} {c : Command ρ}
    (h : ofDraft draft = .ok c) :
    ∃ name descr parameters default? spellings callback,
      draft.name = .text name ∧ draft.descr = .text descr
        ∧ parametersIn draft.parameters = .ok parameters
        ∧ defaultFor parameters draft.default? = .ok default?
        ∧ aliasSpellings draft.aliases = .ok spellings
        ∧ routineFor .callback parameters.length draft.callback = .ok callback
        ∧ c = ⟨⟨Text.canonical name, Outline.aliasSet (Text.canonical name) spellings,
            Text.trim descr, parameters, false⟩, callback, default?⟩ := by
  unfold ofDraft at h
  split at h
  · next name hname =>
    split at h
    · next descr hdescr =>
      obtain ⟨parameters, hparameters, h⟩ := exists_of_bind_eq_ok h
      obtain ⟨default?, hdefault, h⟩ := exists_of_bind_eq_ok h
      obtain ⟨spellings, hspellings, h⟩ := exists_of_bind_eq_ok h
      obtain ⟨callback, hcallback, h⟩ := exists_of_bind_eq_ok h
      have hc := Except.ok.inj h
      subst hc
      exact ⟨name, descr, parameters, default?, spellings, callback, hname, hdescr,
        hparameters, hdefault, hspellings, hcallback, rfl⟩
    · cases h
  · cases h

/-- The commands that there are: those that a draft describes, and those
that a caller has registered. -/
inductive Made : Command ρ → Prop
  | draft {draft : CommandDraft ρ} {c : Command ρ} (h : ofDraft draft = .ok c) : Made c
  | marked {c : Command ρ} (h : Made c) : Made (Registry.markCustom c)

/-- A command that comes of a function comes of a draft. -/
theorem made_of_ofCallee_eq_ok {callee : Callee ρ} {notes : Notes ρ} {c : Command ρ}
    (h : ofCallee callee notes = .ok c) : Made c := by
  unfold ofCallee at h
  split at h
  · split at h
    · obtain ⟨types, -, h⟩ := exists_of_bind_eq_ok h
      obtain ⟨items, -, h⟩ := exists_of_bind_eq_ok h
      exact .draft h
    · cases h
  · cases h

/-- A draft that describes a command as it is. -/
def redraft (c : Command ρ) : CommandDraft ρ where
  name := .text c.outline.name
  callback := .routine ⟨"", none, none, c.callback⟩
  aliases := .list (c.outline.aliases.map .text)
  descr := .text c.outline.descr
  parameters := .ok (c.outline.parameters.map .parameter)
  default? := c.default?.map fun run => .routine ⟨"", none, none, run⟩

/-- A command comes of a draft if it has the form that construction leaves. -/
theorem made_of_outline {c : Command ρ} (hname : Text.canonical c.outline.name = c.outline.name)
    (haliases : Outline.aliasSet c.outline.name c.outline.aliases = c.outline.aliases)
    (hdescr : Text.trim c.outline.descr = c.outline.descr) (hcustom : c.outline.custom = false)
    (hdefault : c.default?.isSome = true → c.outline.parameters.isEmpty = false) : c.Made := by
  have hparameters : parametersIn (redraft c).parameters = .ok c.outline.parameters :=
    mapM_map_eq_ok (f := ParameterItem.parameter) (fun _ => rfl) _
  have hspellings : aliasSpellings (redraft c).aliases = .ok c.outline.aliases :=
    mapM_map_eq_ok (f := Object.text) (fun _ => rfl) _
  have hroutine : defaultFor c.outline.parameters (redraft c).default? = .ok c.default? := by
    unfold redraft
    cases hdefault? : c.default? with
    | none => rfl
    | some run =>
        rw [hdefault?] at hdefault
        show (if c.outline.parameters.isEmpty = true then _ else _) = _
        rw [if_neg (by rw [hdefault rfl]; exact Bool.false_ne_true)]
        rfl
  have hdraft : ofDraft (redraft c) = .ok c := by
    show (parametersIn (redraft c).parameters >>= fun parameters => _) = _
    rw [hparameters]
    show (defaultFor c.outline.parameters (redraft c).default? >>= fun default? => _) = _
    rw [hroutine]
    show (aliasSpellings (redraft c).aliases >>= fun spellings => _) = _
    rw [hspellings]
    show Except.ok (Command.mk ⟨Text.canonical c.outline.name,
      Outline.aliasSet (Text.canonical c.outline.name) c.outline.aliases,
      Text.trim c.outline.descr, c.outline.parameters, false⟩ c.callback c.default?) = _
    rw [hname, haliases, hdescr, ← hcustom]
  exact .draft hdraft

/-- The identifiers of every command are well formed. -/
theorem Made.wellFormed {c : Command ρ} (h : Made c) : c.outline.WellFormed := by
  induction h with
  | draft h =>
      obtain ⟨name, descr, parameters, default?, spellings, callback, -, -, -, -, -, -, rfl⟩ :=
        exists_of_ofDraft_eq_ok h
      exact Outline.wellFormed_of_spellings rfl rfl
  | marked _ ih =>
      exact ⟨ih.canonical_name, ih.canonical_alias, ih.alias_ne_empty, ih.alias_ne_name⟩

/-- The aliases of every command are in ascending order. -/
theorem Made.pairwise_aliases {c : Command ρ} (h : c.Made) :
    c.outline.aliases.Pairwise (· < ·) := by
  induction h with
  | draft h =>
      obtain ⟨name, descr, parameters, default?, spellings, callback, -, -, -, -, -, -, rfl⟩ :=
        exists_of_ofDraft_eq_ok h
      exact Outline.pairwise_sortTexts _
  | marked _ ih => exact ih

end Command

end CommandConsole
