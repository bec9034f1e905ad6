/-
How a command is spelled does not matter beyond the canonical forms of the
spellings.

The aliases of a command are told in one text with commas in between, or in
any row of texts (`Tells`, `aliasSpellings_eq_ok_iff`). Whichever it is, and
in whatever order and however often a spelling stands there, the command
answers to the canonical form of its name and to those of the aliases that
are not empty, and to nothing else (`identifiers_exact`).
-/
import CommandConsole.Proofs.Command.Identifiers
import CommandConsole.Proofs.Line.Pieces

namespace CommandConsole

namespace Command

-- ===================================================== spellings of aliases

/-- An object tells some spellings: a text has them between its commas, and
everything else has them as its items. -/
inductive Tells : Object → List String → Prop
  | commas {spellings : List String} (hne : spellings ≠ [])
      (hcommas : ∀ s ∈ spellings, ',' ∉ s.toList) :
      Tells (.text (",".intercalate spellings)) spellings
  | items {x : Object} {spellings : List String} (htext : ∀ s, x ≠ .text s)
      (hitems : x.items? = some (spellings.map .text)) : Tells x spellings

/-- The texts between the commas of a text. -/
theorem splitOn_eq_iff {s : String} {spellings : List String} :
    (s.toList.splitOn ',').map String.ofList = spellings
      ↔ spellings ≠ [] ∧ (∀ t ∈ spellings, ',' ∉ t.toList)
        ∧ ",".intercalate spellings = s := by
  constructor
  · rintro rfl
    refine ⟨by simp, ?_, ?_⟩
    · intro t ht
      obtain ⟨run, hrun, rfl⟩ := List.mem_map.1 ht
      rw [String.toList_ofList]
      exact Line.sep_notMem_of_mem_splitOn hrun
    · apply String.toList_inj.1
      rw [String.toList_intercalate, List.map_map]
      simp only [Function.comp_def, String.toList_ofList, List.map_id']
      exact List.intercalate_splitOn ','
  · rintro ⟨hne, hcommas, rfl⟩
    have hruns : ∀ run ∈ spellings.map String.toList, ',' ∉ run := by
      intro run hrun
      obtain ⟨t, ht, rfl⟩ := List.mem_map.1 hrun
      exact hcommas t ht
    rw [String.toList_intercalate]
    show (([','].intercalate (spellings.map String.toList)).splitOn ',').map String.ofList = _
    rw [List.splitOn_intercalate ',' hruns (by simpa using hne), List.map_map]
    simp [Function.comp_def]

/-- What an exact reader makes of a row. -/
theorem mapM_eq_ok_iff {ε α β : Type} {f : α → β} {g : β → Except ε α}
    (h : ∀ b a, g b = .ok a ↔ b = f a) {row : List β} {read : List α} :
    row.mapM g = .ok read ↔ row = read.map f := by
  constructor
  · intro hrow
    induction row generalizing read with
    | nil =>
        cases Except.ok.inj hrow
        rfl
    | cons b rest ih =>
        rw [List.mapM_cons] at hrow
        obtain ⟨a, ha, hrow⟩ := exists_of_bind_eq_ok hrow
        obtain ⟨others, hothers, hrow⟩ := exists_of_bind_eq_ok hrow
        cases Except.ok.inj hrow
        rw [List.map_cons, ← ih hothers, (h b a).1 ha]
  · rintro rfl
    exact mapM_map_eq_ok (fun a => (h (f a) a).2 rfl) read

/-- The items of a row are its spellings if all of them are texts. -/
private theorem itemTexts_eq_ok_iff {items : List Object} {spellings : List String} :
    aliasSpellings (.list items) = .ok spellings ↔ items = spellings.map .text := by
  refine mapM_eq_ok_iff (f := Object.text) fun item s => ?_
  constructor
  · intro h
    split at h
    · cases Except.ok.inj h
      rfl
    · cases h
  · rintro rfl
    rfl

/-- The spellings of aliases that an object holds are those that it
tells. -/
theorem aliasSpellings_eq_ok_iff {x : Object} {spellings : List String} :
    aliasSpellings x = .ok spellings ↔ Tells x spellings := by
  unfold aliasSpellings
  split
  · next s =>
    constructor
    · intro h
      obtain ⟨hne, hcommas, rfl⟩ := splitOn_eq_iff.1 (Except.ok.inj h)
      exact .commas hne hcommas
    · intro h
      generalize hx : Object.text s = x at h
      cases h with
      | commas hne hcommas =>
          cases hx
          rw [splitOn_eq_iff.2 ⟨hne, hcommas, rfl⟩]
      | items htext _ => exact absurd hx.symm (htext s)
  · next hnot =>
    constructor
    · intro h
      split at h
      · cases h
      · next items hitems =>
        exact .items hnot (hitems.trans (congrArg some (itemTexts_eq_ok_iff.1 h)))
    · intro h
      cases h with
      | commas _ _ => exact absurd rfl (hnot _)
      | items _ hitems =>
          rw [hitems]
          exact itemTexts_eq_ok_iff.2 rfl

end Command

-- ============================================================= identifiers

/-- What a command answers to when its name and its aliases are canonical
forms of some spellings. -/
theorem Outline.mem_identifiers_of_spellings {o : Outline} {name t : String}
    {spellings : List String} (hname : o.name = Text.canonical name)
    (haliases : o.aliases = aliasSet o.name spellings) :
    t ∈ o.identifiers
      ↔ t = Text.canonical name ∨ t ≠ "" ∧ ∃ s ∈ spellings, Text.canonical s = t := by
  rw [mem_identifiers, haliases, mem_aliasSet, hname]
  constructor
  · rintro (rfl | ⟨hspelled, hne, -⟩)
    · exact .inl rfl
    · exact .inr ⟨hne, hspelled⟩
  · rintro (rfl | ⟨hne, hspelled⟩)
    · exact .inl rfl
    · rcases eq_or_ne t (Text.canonical name) with heq | hother
      · exact .inl heq
      · exact .inr ⟨hspelled, hne, hother⟩

namespace Command

/-- Canonical forms have no blanks, are their own canonical forms and do not
change with the blanks of a text; hence a command has canonical identifiers,
none of its aliases is empty or its name, and it answers to the canonical
forms of its name and of the aliases that it was told, each of them once. -/
theorem identifiers_exact {ρ : Type} :
    (∀ s : String, (∀ c ∈ (Text.canonical s).toList, Text.isBlank c = false)
      ∧ Text.canonical (Text.canonical s) = Text.canonical s
      ∧ ∀ t : String, Text.Respaced s.toList t.toList → Text.canonical t = Text.canonical s)
    ∧ ∀ (draft : CommandDraft ρ) (c : Command ρ), ofDraft draft = .ok c →
        ∃ name spellings, draft.name = .text name ∧ Tells draft.aliases spellings
          ∧ c.outline.WellFormed
          ∧ c.outline.identifiers.Pairwise (· < ·)
          ∧ ∀ t, t ∈ c.outline.identifiers
            ↔ t = Text.canonical name
              ∨ t ≠ "" ∧ ∃ s ∈ spellings, Text.canonical s = t := by
  refine ⟨fun s => ⟨Text.isBlank_of_mem_canonical, Text.canonical_canonical s, fun t h =>
    Text.canonical_of_respaced h⟩, ?_⟩
  intro draft c h
  have hmade : Made c := .draft h
  obtain ⟨name, descr, parameters, default?, spellings, callback, hname, -, -, -, hspellings, -,
    rfl⟩ := exists_of_ofDraft_eq_ok h
  exact ⟨name, spellings, hname, aliasSpellings_eq_ok_iff.1 hspellings, hmade.wellFormed,
    Outline.pairwise_insertText hmade.pairwise_aliases,
    fun _ => Outline.mem_identifiers_of_spellings rfl rfl⟩

/-- A command told with blanks and capitals, with an empty alias, a repeated
one and one that is its name. -/
theorem identifiers_exact_loading :
    ∃ (draft : CommandDraft Unit) (c : Command Unit),
      draft.name = .text " Scene Load " ∧ draft.aliases = .text "go,,Scene\tload, G O"
        ∧ ofDraft draft = .ok c ∧ c.outline.identifiers = ["go", "sceneload"]
        ∧ ∃ name spellings, draft.name = .text name ∧ Tells draft.aliases spellings
          ∧ c.outline.WellFormed
          ∧ c.outline.identifiers.Pairwise (· < ·)
          ∧ ∀ t, t ∈ c.outline.identifiers
            ↔ t = Text.canonical name
              ∨ t ≠ "" ∧ ∃ s ∈ spellings, Text.canonical s = t :=
  ⟨⟨.text " Scene Load ", .routine ⟨"", none, none, fun _ => ()⟩,
      .text "go,,Scene\tload, G O", .text "", .ok [], none⟩, _, rfl, rfl, rfl,
    by decide +kernel, identifiers_exact.2 _ _ rfl⟩

end Command

end CommandConsole
