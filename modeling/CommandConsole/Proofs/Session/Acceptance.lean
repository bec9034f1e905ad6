/-
Accepting a completion reaches its command.

A completion keeps what was typed and shows the rest of an identifier behind
it. Its text starts with what was typed as it was typed, and it finds the
command of the completion just if its canonical form is an identifier of that
command. For this there are three things to know.

- The commands of a console share no identifier at any moment (`filed_of_course`),
  since registering and removing see to it whatever commands come. If the
  commands have been made, as the built-in ones have, the registry is in good
  order.
- Nothing that was typed is blank if there is a completion, and so the canonical
  form of the text is its lower case (`canonical_extended_iff`).
- The lower case of the text is the identifier, unless what was typed has a
  capital I with a dot above or closes a word with a capital sigma that goes on
  behind it. In the first case the rest is cut off at the wrong place, and the
  text may find nothing (`completions_mislead`).
-/
import CommandConsole.Proofs.Registry.Completions
import CommandConsole.Proofs.Session.LastFault
import CommandConsole.Proofs.Session.Permanence
import CommandConsole.Proofs.Text.Parts

namespace CommandConsole

-- ============================================================== completions

namespace Completion

/-- What was typed, with the rest of an identifier behind it, has the identifier
for its canonical form, unless it has a capital I with a dot above or closes a
word with a capital sigma that goes on with the rest. -/
theorem canonical_extended_iff {typed t : String} (ht : Text.canonical t = t)
    (hstarts : (Text.lower typed).toList <+: t.toList) :
    let rest := t.toList.drop typed.toList.length
    Text.canonical (extended typed t) = t
      ↔ 'İ' ∉ typed.toList
        ∧ ¬ (Text.closesWithSigma [] typed.toList = true ∧ Text.meetsCased rest = true) := by
  intro rest
  have hsettled : ∀ c ∈ t.toList, Text.Settled c := by
    intro c hc
    rw [← ht] at hc
    exact Text.settled_of_mem_lower hc
  have hfull : ∀ c ∈ t.toList, Text.isBlank c = false := by
    intro c hc
    rw [← ht] at hc
    exact Text.isBlank_of_mem_canonical c hc
  have htyped : ∀ c ∈ typed.toList, Text.isBlank c = false :=
    Text.isBlank_of_lower fun c hc => hfull c (hstarts.subset hc)
  have hextended : ∀ c ∈ (extended typed t).toList, Text.isBlank c = false := by
    unfold extended
    rw [String.toList_append, String.toList_ofList]
    exact List.forall_mem_append.2 ⟨htyped, fun c hc => hfull c (List.mem_of_mem_drop hc)⟩
  rw [Text.canonical, Text.withoutBlanks_of_forall hextended]
  exact Text.lower_append_drop_iff hsettled hstarts

end Completion

namespace Session

open CommandConsole.Action

variable {σ ρ : Type}

-- ================================================================ registry

theorem filed_registryOf (commands : List (Command ρ)) : (registryOf commands).Filed := by
  induction commands using List.reverseRecOn with
  | nil => exact Registry.filed_empty
  | append_singleton rest c ih =>
      rw [registryOf_append_singleton]
      exact ih.insert c false

/-- An elementary change keeps the commands apart. -/
theorem Change.filed {s t : Session σ} (h : Change s t) (hs : s.registry.Filed) :
    t.registry.Filed := by
  cases h with
  | registered c => exact hs.insert c true
  | removed spelling =>
      dsimp only
      exact hs.of_sublist (Registry.entries_erase_sublist s.registry spelling)
  | noted | began | cleared | walked | typed | delivered | redirected | stored => exact hs

/-- Whatever has been done in a console since it was opened, its commands stand
under their names and share no identifier. -/
theorem filed_of_course {options : ConsoleOptions} {around : Surroundings σ}
    {s₀ s : Session σ} (hopen : openWith options around = .ok s₀) (hcourse : Course s₀ s) :
    s.registry.Filed := by
  obtain ⟨settings, history, -, -, rfl⟩ := exists_of_openWith_eq_ok hopen
  have hbeginning :
      (beginning settings history options.builtins.truthy around).registry.Filed := by
    unfold beginning
    dsimp only
    split
    · exact filed_registryOf _
    · exact Registry.filed_empty
  exact Course.induction hcourse hbeginning fun _ _ hchange hu => hchange.filed hu

-- =============================================================== acceptance

/-- A spelling is resolved to what it finds. -/
theorem within_resolve_found {s : Session σ} {spelling : String} {c : Command (Program σ)}
    (h : s.registry.find? spelling = some c) (start : Program σ → Action σ Reply) :
    within s (perform start (.resolve (.text spelling)))
      = (.ok (.command c.outline c.default?.isSome), s) := by
  have hresolve : within s (resolve (.text spelling)) = (.ok (some c), s) := by
    rw [← h]
    rfl
  show within s (resolve (.text spelling) >>= _) = _
  rw [within_bind_ok hresolve]
  rfl

/-- Whatever is typed at whatever moment, if the commands have been made, each
completion starts with what was typed as it was typed. It shows the rest of an
identifier of its command that stands after as many characters as were typed,
and it finds the command just if its canonical form is an identifier of the
command. It is the identifier itself unless a capital I with a dot above was
typed, or a capital sigma that closes a word and goes on with the rest, and then
accepting the completion resolves to its command. -/
theorem completions_resolve {options : ConsoleOptions} {around : Surroundings σ}
    {s₀ s : Session σ} (hopen : openWith options around = .ok s₀) (hcourse : Course s₀ s)
    (hmade : ∀ c ∈ s.registry.commands, c.Made) (typed : String) (depth : Nat) :
    ∃ found, within s (perform (start depth) (.complete (.text typed)))
        = (.ok (.completions found), s)
      ∧ ∀ k ∈ found, typed.toList <+: k.text.toList
        ∧ ∃ c ∈ s.registry.commands, c.outline = k.command ∧ ∃ t ∈ c.outline.identifiers,
          let rest := t.toList.drop typed.toList.length
          let kept := 'İ' ∉ typed.toList
            ∧ ¬ (Text.closesWithSigma [] typed.toList = true ∧ Text.meetsCased rest = true)
          k.text = typed ++ String.ofList rest
            ∧ (s.registry.find? k.text = some c ↔ Text.canonical k.text ∈ c.outline.identifiers)
            ∧ (Text.canonical k.text = t ↔ kept)
            ∧ (kept → within s (perform (start depth) (.resolve (.text k.text)))
                = (.ok (.command c.outline c.default?.isSome), s)) := by
  have hsound : s.registry.Sound :=
    (filed_of_course hopen hcourse).sound fun entry he =>
      (hmade entry.2 (Registry.mem_commands.2 ⟨entry, he, rfl⟩)).wellFormed
  refine ⟨Completion.all typed s.registry.outlines, rfl, fun k hk => ?_⟩
  have hall : Completion.all typed s.registry.outlines = _ :=
    Completion.all_eq_map typed s.registry.commands
  rw [hall] at hk
  obtain ⟨⟨c, t⟩, hmatch, rfl⟩ := List.mem_map.1 hk
  obtain ⟨-, hc, ht, hstarts⟩ := Completion.mem_matchesIn.1 hmatch
  have hcanonical := (hmade c hc).wellFormed.canonical_identifier ht
  have hkept := Completion.canonical_extended_iff hcanonical hstarts
  have hfind : s.registry.find? (Completion.extended typed t) = some c
      ↔ Text.canonical (Completion.extended typed t) ∈ c.outline.identifiers := by
    rw [hsound.find?_eq_some_iff, and_iff_right hc]
  refine ⟨?_, c, hc, rfl, t, ht, rfl, hfind, hkept, fun h => within_resolve_found ?_ _⟩
  · show typed.toList <+: (Completion.extended typed t).toList
    unfold Completion.extended
    rw [String.toList_append]
    exact List.prefix_append _ _
  · refine hfind.2 ?_
    rw [hkept.2 h]
    exact ht

/-- The one completion of `PRi` in a console with the built-in commands reaches
its command. -/
theorem completions_resolve_print :
    ∃ s₀ : Session Unit, openWith .standard .quiet = .ok s₀
      ∧ ∃ k, within s₀ (perform (start 1) (.complete (.text "PRi"))) = (.ok (.completions [k]), s₀)
        ∧ k.text = "PRint" ∧ k.command.name = "print"
        ∧ ∃ more, within s₀ (perform (start 1) (.resolve (.text k.text)))
          = (.ok (.command k.command more), s₀) := by
  obtain ⟨s₀, hopen⟩ : ∃ s₀ : Session Unit, openWith .standard .quiet = .ok s₀ := ⟨_, rfl⟩
  have hregistry : s₀.registry = registryOf Builtin.commands := by
    obtain ⟨settings, history, -, -, rfl⟩ := exists_of_openWith_eq_ok hopen
    rfl
  have hmade : ∀ c ∈ s₀.registry.commands, c.Made := by
    intro c hc
    rw [hregistry] at hc
    exact Builtin.made_of_mem_commands (mem_commands_registryOf hc)
  have hone : ∃ k : Completion, Completion.all "PRi" s₀.registry.outlines = [k]
      ∧ k.text = "PRint" ∧ k.command.name = "print" := by
    rw [hregistry]
    exact ⟨_, rfl, rfl, rfl⟩
  obtain ⟨k, hk, htext, hname⟩ := hone
  obtain ⟨found, hcomplete, hfound⟩ := completions_resolve hopen .refl hmade "PRi" 1
  have hanswer : within s₀ (perform (start 1) (.complete (.text "PRi")))
      = (.ok (.completions (Completion.all "PRi" s₀.registry.outlines)), s₀) := rfl
  rw [hk] at hanswer
  obtain rfl : found = [k] := by
    rw [hanswer] at hcomplete
    injection hcomplete with hreply
    injection hreply with hcompletions
    injection hcompletions with hsame
    exact hsame.symm
  obtain ⟨-, c, -, hcommand, t, -, -, -, -, hresolve⟩ := hfound k (List.mem_singleton_self k)
  refine ⟨s₀, hopen, k, hanswer, htext, hname, c.default?.isSome, ?_⟩
  rw [← hcommand]
  exact hresolve ⟨by decide, fun h => absurd h.1 (by decide)⟩

/-- A command whose name begins with a capital I with a dot above. -/
def dotted : CommandDraft (Program Unit) where
  name := .text "İx"
  callback := .routine ⟨"f", none, none, fun _ => .answer .nothing⟩
  aliases := .text ""
  descr := .text ""
  parameters := .ok []
  default? := none

/-- The completion of such a letter has the dot twice, and finds nothing. -/
theorem completions_mislead :
    ∃ s₀ : Session Unit, openWith bareOptions .quiet = .ok s₀
      ∧ ∃ c, Command.ofDraft dotted = .ok c
        ∧ let s := s₀.after [.register (.command c) false]
          operate s (.complete (.text "İ"))
              = (.ok (.completions [⟨"İ\u0307x", (Registry.markCustom c).outline⟩]), s)
            ∧ operate s (.resolve (.text "İ\u0307x")) = (.ok .nothing, s) :=
  ⟨_, rfl, _, rfl, rfl, rfl⟩

end Session

end CommandConsole
