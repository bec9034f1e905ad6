/-
What colours do to the output of a console.

A console may have colours, and its host may have styles of its own. Take two
consoles that are opened alike but for that, and have the same operations
performed in both. As long as their styles can be read and their host code is
blind to colours, they differ in the control sequences that they write and in
nothing else (`colours_only_style`): they write the same text, answer the same,
and agree in their commands, their parsers, their history and their fault. A
style that cannot be read keeps an operation from being done in the console
that uses it (`colours_differ`).

A console without colours writes no control sequence that selects a style, with
one exception: the names of the parameters stand out in what help prints about
them (`colourless_selects`, `help_selects`).

Both are shown by way of a third console, which writes to an output that
understands no codes: whatever is done in it, it is the plainer one.
-/
import CommandConsole.Proofs.Session.Lockstep

namespace CommandConsole

open Display Display.Terminal

-- ================================================================== output

namespace Display.Terminal

/-- A row of characters holds a control sequence that selects a style. -/
def Selects (cs : List Char) : Prop :=
  ∃ before parameters after, cs = before ++ escapeChar :: '[' :: (parameters ++ 'm' :: after)
    ∧ ∀ c ∈ parameters, isParameter c = true

theorem Selects.mem {cs : List Char} (h : Selects cs) : escapeChar ∈ cs ∧ 'm' ∈ cs := by
  obtain ⟨before, parameters, after, rfl, -⟩ := h
  refine ⟨List.mem_append_right _ List.mem_cons_self, List.mem_append_right _ ?_⟩
  refine List.mem_cons_of_mem _ (List.mem_cons_of_mem _ (List.mem_append_right _ ?_))
  exact List.mem_cons_self

/-- Emptying an output selects no style ... -/
theorem not_selects_erased (t : Terminal) : ¬ Selects t.erased.toList := by
  have hnone : 'm' ∉ t.erased.toList := by
    unfold erased
    split
    · decide
    · decide
  exact fun h => hnone h.mem.2

/-- ... and writes nothing but control sequences. -/
theorem coded_erased (t : Terminal) : Coded t.erased.toList [] := by
  have hhome : Coded (escapeChar :: '[' :: ([] ++ ['H'])) [] :=
    .code (List.forall_mem_nil _) rfl .nil
  have hcodes : Coded (escapeChar :: '[' :: (['2'] ++ 'J' :: escapeChar :: '[' :: ([] ++ ['H'])))
      [] := .code (List.forall_mem_singleton.2 rfl) rfl hhome
  unfold erased
  split
  · exact hcodes
  · exact .nil

end Display.Terminal

/-- The text that was written, if that is what happened. -/
def Event.text? : Event → Option String
  | .wrote text => some text
  | _ => none

/-- What was written to the output by a row of events, the latest one first. -/
def Event.output (events : List Event) : String :=
  String.join (events.filterMap Event.text?).reverse

theorem Event.output_cons (e : Event) (events : List Event) :
    Event.output (e :: events) = Event.output events ++ e.text?.getD "" := by
  unfold Event.output
  cases htext : e.text? with
  | none =>
      rw [List.filterMap_cons_none htext]
      exact String.append_empty.symm
  | some text =>
      rw [List.filterMap_cons_some htext, List.reverse_cons, String.join_append, String.join_cons]
      exact congrArg (_ ++ ·) String.append_empty

namespace Session

variable {σ : Type}

/-- The texts that were written in a session, the earliest one first. -/
def texts (s : Session σ) : List String := (s.events.filterMap Event.text?).reverse

theorem mem_texts {s : Session σ} {text : String} :
    text ∈ s.texts ↔ .wrote text ∈ s.events := by
  unfold texts
  rw [List.mem_reverse, List.mem_filterMap]
  constructor
  · rintro ⟨e, he, htext⟩
    cases e with
    | wrote _ =>
        cases htext
        exact he
    | _ => cases htext
  · exact fun h => ⟨_, h, rfl⟩

/-- What was written in a session. -/
def output (s : Session σ) : String := Event.output s.events

end Session

/-- What surrounds a console, with other styles of the host. -/
def Surroundings.restyled {σ : Type} (around : Surroundings σ) (styles : List (String × Object)) :
    Surroundings σ :=
  { around with host := { around.host with styles := styles } }

/-- What surrounds a console, with an output that understands no codes. -/
def Surroundings.plain {σ : Type} (around : Surroundings σ) : Surroundings σ :=
  { around with terminal := around.terminal.plain }

-- ================================================================== traces

namespace Trace

variable {colours : Bool} {t : Terminal} {events events' : List Event}

/-- The same host code was called. -/
theorem calls_eq (h : Trace colours t events events') :
    events'.filter Event.isCall = events.filter Event.isCall := by
  induction h with
  | nil => rfl
  | emptied _ _ ih => exact ih
  | cons he _ ih =>
      cases he with
      | same e => rw [List.filter_cons, List.filter_cons, ih]
      | _ => exact ih

/-- The same text was written, with control sequences put in by an output that
understands them. -/
theorem shows_output (h : Trace true t events events') :
    Shows t.ansi (Event.output events) (Event.output events') := by
  induction h with
  | nil => exact shows_refl _
  | @emptied hansi events events' _ ih =>
      rw [hansi] at ih ⊢
      have hall := Coded.append ih t.coded_erased
      rw [List.append_nil, ← String.toList_append] at hall
      rw [Event.output_cons]
      exact hall
  | @cons e e' he events events' _ ih =>
      rw [Event.output_cons, Event.output_cons]
      refine ih.append ?_
      cases he with
      | same e => exact shows_refl _
      | delivered _ => exact shows_refl _
      | warned _ => exact shows_refl _
      | wrote htext => exact htext
      | helped hcolours => cases hcolours

/-- A text that is written without colours is written without them on an output
that understands no codes, or it empties the output, or help prints it about a
parameter. -/
theorem wrote_cases (h : Trace false t events events') {text : String}
    (htext : .wrote text ∈ events) :
    .wrote text ∈ events' ∨ text = t.erased
      ∨ ∃ p, t.written (Builtin.parameterText p) = .ok text := by
  induction h with
  | nil => cases htext
  | emptied _ _ ih =>
      rcases List.mem_cons.1 htext with heq | hrest
      · exact .inr (.inl (Event.wrote.inj heq))
      · exact ih hrest
  | @cons e e' he events events' _ ih =>
      rcases List.mem_cons.1 htext with rfl | hrest
      · cases he with
        | same => exact .inl List.mem_cons_self
        | wrote hshows =>
            cases hshows
            exact .inl List.mem_cons_self
        | helped _ p hwritten => exact .inr (.inr ⟨p, hwritten⟩)
      · exact (ih hrest).imp_left (List.mem_cons_of_mem _)

end Trace

namespace Session

open CommandConsole.Action

variable {σ : Type} {colours : Bool} {same : σ → σ → Prop} {s t u : Session σ}

-- ============================================================== agreement

/-- Two sessions agree in what a console is about, without regard to colours. -/
structure Recoloured (s t : Session σ) : Prop where
  outlines : t.registry.outlines = s.registry.outlines
  types : t.parsers.entries.map ParserEntry.type = s.parsers.entries.map ParserEntry.type
  history : t.history = s.history
  fault? : t.fault?.map (Fault.dull true) = s.fault?.map (Fault.dull true)
  calls : t.calls = s.calls

namespace Plainer

theorem types_eq (h : Plainer colours same s t) :
    t.parsers.entries.map ParserEntry.type = s.parsers.entries.map ParserEntry.type :=
  (map_eq_map (fun he => he.type) h.parsers).symm

/-- Two consoles agree if a third one is the plainer one of both. -/
theorem recoloured (h : Plainer true same s u) (h' : Plainer true same t u) : Recoloured s t where
  outlines := h'.registry.outlines_eq.symm.trans h.registry.outlines_eq
  types := h'.types_eq.symm.trans h.types_eq
  history := h'.history.symm.trans h.history
  fault? := h'.fault?_eq.symm.trans h.fault?_eq
  calls := h'.trace.calls_eq.symm.trans h.trace.calls_eq

theorem shows_output (h : Plainer true same s t) :
    Shows s.terminal.ansi s.output t.output := h.trace.shows_output

/-- What is written is the text of the plainer console with control sequences
put in, which can be taken out again if the text has none of its own. -/
theorem stripped_output (h : Plainer true same s t) (hfree : escapeChar ∉ t.output.toList) :
    stripped s.output.toList = t.output.toList := by
  have hshows := h.shows_output
  cases hansi : s.terminal.ansi with
  | false =>
      rw [hansi] at hshows
      have heq : s.output = t.output := hshows
      rw [heq]
      exact (coded_refl _).stripped_eq hfree
  | true =>
      rw [hansi] at hshows
      exact Coded.stripped_eq hshows hfree

end Plainer

/-- Outcomes are the same without regard to colours if a third one is the same
as both. -/
theorem endsAlike_of_endsAlike {outcome outcome' third : Except Raised Reply}
    (h : EndsAlike colours (Reply.Alike colours) outcome third)
    (h' : EndsAlike colours (Reply.Alike colours) outcome' third) :
    EndsAlike colours (Reply.Alike colours) outcome outcome' := by
  cases h with
  | ok hr =>
      cases h' with
      | ok hr' => exact .ok (Eq.trans hr (Eq.symm hr'))
  | error he =>
      cases h' with
      | error he' => exact .error (he.trans he'.symm)

-- ================================================================= opening

/-- A session writes to the same output all along. -/
theorem terminal_after (s : Session σ) (ops : List (Operation (Program σ))) :
    (s.after ops).terminal = s.terminal :=
  Course.induction (P := fun t => t.terminal = s.terminal) (course_after s ops) rfl
    fun u v hchange hu => by
      cases hchange with
      | _ => exact hu

/-- The settings of a console that is opened with or without colours. -/
theorem settings_colorful {options : ConsoleOptions} {settings : Settings}
    (h : options.settings = .ok settings) (colorful : Object) :
    ConsoleOptions.settings { options with colorful := colorful }
        = .ok { settings with colorful := colorful.truthy }
      ∧ settings.colorful = options.colorful.truthy := by
  obtain ⟨name, hsettings⟩ := exists_settings_eq h
  obtain rfl := Except.ok.inj (h.symm.trans (hsettings options rfl rfl))
  exact ⟨hsettings _ rfl rfl, rfl⟩

theorem alike_registryOf {R : Program σ → Program σ → Prop} {commands : List (Command (Program σ))}
    (h : ∀ c ∈ commands, c.Alike R c) : (registryOf commands).Alike R (registryOf commands) := by
  have hfold : ∀ r : Registry (Program σ), r.Alike R r →
      (commands.foldl (fun r c => (r.insert c false).2) r).Alike R
        (commands.foldl (fun r c => (r.insert c false).2) r) := by
    induction commands with
    | nil => exact fun _ hr => hr
    | cons c rest ih =>
        rw [List.forall_mem_cons] at h
        exact fun r hr => ih h.2 _ (Registry.alike_insert hr h.1 false).2
  exact hfold _ .nil

/-- A console is opened with the plainer one if they are told the same, but for
colours, styles and the codes that the output understands. -/
theorem plainer_beginning {settings settings' : Settings} {history : History} {builtins : Bool}
    {around around' : Surroundings σ}
    (hsettings : settings' = { settings with colorful := settings'.colorful })
    (hcolourless : colours = false → settings.colorful = false ∧ settings'.colorful = false)
    (hterminal : around'.terminal = around.terminal.plain)
    (hhost : around'.host = { around.host with styles := around'.host.styles })
    (hlegible : colours = true → around.host.Legible ∧ around'.host.Legible)
    (hclasses : ∀ home name arguments, (around.construct home name arguments).Alike colours same
      (around'.construct home name arguments))
    (hstate : same around.state around'.state) :
    Plainer colours same (beginning settings history builtins around)
      (beginning settings' history builtins around') where
  settings := hsettings
  colourless := hcolourless
  terminal := hterminal
  host := hhost
  legible := hlegible
  construct := hclasses
  registry := by
    show Registry.Alike _ (if _ then _ else _) (if _ then _ else _)
    split
    · exact alike_registryOf fun c hc => Builtin.alike_commands hc
    · exact .nil
  parsers := .nil
  history := rfl
  fallback? := .none
  fault? := .none
  state := hstate
  trace := .nil

/-- A console can also be opened in other colours and styles, and one can be
opened that is the plainer one of both. -/
theorem exists_plainer {options : ConsoleOptions} {around : Surroundings σ}
    (hopen : openWith options around = .ok s) (colorful : Object) {styles : List (String × Object)}
    (hlegible : around.host.Legible) (hlegible' : (around.restyled styles).host.Legible)
    (hclasses : ∀ home name arguments, (around.construct home name arguments).Blind same)
    (hstate : same around.state around.state) :
    ∃ t u, openWith { options with colorful := colorful } (around.restyled styles) = .ok t
      ∧ openWith options around.plain = .ok u
      ∧ t.terminal = s.terminal ∧ Plainer true same s u ∧ Plainer true same t u := by
  obtain ⟨settings, history, hsettings, hhistory, rfl⟩ := exists_of_openWith_eq_ok hopen
  obtain ⟨hrecoloured, -⟩ := settings_colorful hsettings colorful
  refine ⟨_, _, openWith_eq_ok hrecoloured hhistory _, openWith_eq_ok hsettings hhistory _, rfl,
    ?_, ?_⟩
  · exact plainer_beginning rfl nofun rfl rfl (fun _ => ⟨hlegible, hlegible⟩) hclasses hstate
  · exact plainer_beginning rfl nofun rfl rfl (fun _ => ⟨hlegible', hlegible⟩) hclasses hstate

-- ================================================================= colours

/-- Two consoles are opened alike, but for their colours and the styles of their
hosts, which can be read. Then they agree, whatever operations are performed in
both, and each further operation ends in both in the same way, if the host code
is blind to colours. They write the same text: on an output that understands no
codes nothing else, and on any output what a third console writes on one that
understands none, once the control sequences are taken out. -/
theorem colours_only_style {options : ConsoleOptions} {around : Surroundings σ} {s₀ : Session σ}
    (hopen : openWith options around = .ok s₀) (colorful : Object)
    {styles : List (String × Object)} (hlegible : around.host.Legible)
    (hlegible' : (around.restyled styles).host.Legible)
    (hclasses : ∀ home name arguments, (around.construct home name arguments).Blind same)
    (hstate : same around.state around.state) :
    ∃ t₀ u₀, openWith { options with colorful := colorful } (around.restyled styles) = .ok t₀
      ∧ openWith options around.plain = .ok u₀
      ∧ ∀ ops : List (Operation (Program σ)), (∀ op ∈ ops, op.Blind same) →
        let s := s₀.after ops
        let t := t₀.after ops
        let text := (u₀.after ops).output.toList
        Recoloured s t
          ∧ (∀ op : Operation (Program σ), op.Blind same →
            EndsAlike true (Reply.Alike true) (operate s op).1 (operate t op).1)
          ∧ (around.terminal.ansi = false → t.output = s.output)
          ∧ (escapeChar ∉ text →
            stripped s.output.toList = text ∧ stripped t.output.toList = text) := by
  obtain ⟨t₀, u₀, hrestyled, hplain, hterminal, hplainer, hplainer'⟩ :=
    exists_plainer hopen colorful hlegible hlegible' hclasses hstate
  refine ⟨t₀, u₀, hrestyled, hplain, fun ops hops => ?_⟩
  have hafter := hplainer.after (List.forall₂_same.2 hops)
  have hafter' := hplainer'.after (List.forall₂_same.2 hops)
  have haround : s₀.terminal = around.terminal := by
    obtain ⟨settings, history, -, -, rfl⟩ := exists_of_openWith_eq_ok hopen
    rfl
  have hshows := hafter.shows_output
  have hshows' := hafter'.shows_output
  rw [terminal_after, haround] at hshows
  rw [terminal_after, hterminal, haround] at hshows'
  refine ⟨hafter.recoloured hafter', fun op hop => ?_, fun hansi => ?_, fun hfree => ?_⟩
  · exact endsAlike_of_endsAlike (inStep_operate hafter hop).ends (inStep_operate hafter' hop).ends
  · rw [hansi] at hshows hshows'
    exact hshows'.trans hshows.symm
  · exact ⟨hafter.stripped_output hfree, hafter'.stripped_output hfree⟩

/-- What surrounds a console whose output understands codes. -/
def vivid : Surroundings Unit := { Surroundings.quiet with terminal := ⟨80, true⟩ }

/-- What is printed and logged is the same text, with colours or without. -/
theorem colours_only_style_done :
    ∃ s₀ t₀, openWith .standard vivid = .ok s₀
      ∧ openWith { ConsoleOptions.standard with colorful := .bool false }
          (vivid.restyled [("log-success", .text "red")]) = .ok t₀
      ∧ let ops := [.run (.text "print hi"), .logAs .success (.text "done")]
        Recoloured (s₀.after ops) (t₀.after ops)
          ∧ (s₀.after ops).output ≠ (t₀.after ops).output
          ∧ stripped (s₀.after ops).output.toList = stripped (t₀.after ops).output.toList := by
  obtain ⟨s₀, hopen⟩ : ∃ s₀, openWith .standard vivid = .ok s₀ := ⟨_, rfl⟩
  have hlegible : (vivid.restyled [("log-success", .text "red")]).host.Legible :=
    List.forall_mem_singleton.2 (reads_of_isOk (by decide +kernel))
  have hclasses : ∀ home name arguments, (vivid.construct home name arguments).Blind (· = ·) :=
    fun _ _ _ => Program.alike_answer _
  obtain ⟨t₀, u₀, hrestyled, hplain, hall⟩ :=
    colours_only_style hopen (.bool false) (List.forall_mem_nil _) hlegible hclasses rfl
  obtain ⟨hrecoloured, -, -, hstripped⟩ :=
    hall [.run (.text "print hi"), .logAs .success (.text "done")]
      (List.forall_mem_cons.2 ⟨.simple trivial, List.forall_mem_singleton.2 (.simple trivial)⟩)
  obtain rfl := Except.ok.inj hopen
  obtain rfl := Except.ok.inj hrestyled
  obtain rfl := Except.ok.inj hplain
  obtain ⟨hs, ht⟩ := hstripped (by decide +kernel)
  exact ⟨_, _, rfl, rfl, hrecoloured, by decide +kernel, hs.trans ht.symm⟩

/-- Two such consoles do not end an operation alike if the host has a style that
cannot be read. -/
theorem colours_differ :
    ∃ s₀ t₀, openWith bareOptions (styled [("log-error", .text "rgb(,1,2)")]) = .ok s₀
      ∧ openWith { bareOptions with colorful := .bool false }
          (styled [("log-error", .text "rgb(,1,2)")]) = .ok t₀
      ∧ (operate s₀ (.logAs .error (.text "x"))).1 = .error (.problem (.notInteger 10 ""))
      ∧ (operate t₀ (.logAs .error (.text "x"))).1 = .ok .nothing :=
  ⟨_, _, rfl, rfl, rfl, rfl⟩

/-- A console without colours writes no control sequence that selects a style,
if none of its texts has one of its own, but in what help prints about the
parameters of a command. -/
theorem colourless_selects {options : ConsoleOptions} {around : Surroundings σ} {s₀ : Session σ}
    (hopen : openWith options around = .ok s₀) (hcolourless : options.colorful.truthy = false)
    (hclasses : ∀ home name arguments, (around.construct home name arguments).Unstyled) :
    ∃ u₀, openWith options around.plain = .ok u₀
      ∧ ∀ ops : List (Operation (Program σ)), (∀ op ∈ ops, op.Unstyled) →
        (∀ text ∈ (u₀.after ops).texts, escapeChar ∉ text.toList) →
          ∀ text ∈ (s₀.after ops).texts, Selects text.toList →
            ∃ p, around.terminal.written (Builtin.parameterText p) = .ok text := by
  obtain ⟨settings, history, hsettings, hhistory, rfl⟩ := exists_of_openWith_eq_ok hopen
  have hsettings' : settings.colorful = false :=
    (settings_colorful hsettings options.colorful).2.trans hcolourless
  refine ⟨_, openWith_eq_ok hsettings hhistory _, fun ops hops hfree text htext hselects => ?_⟩
  have hplainer : Plainer false (· = ·) (beginning settings history options.builtins.truthy around)
      (beginning settings history options.builtins.truthy around.plain) :=
    plainer_beginning rfl (fun _ => ⟨hsettings', hsettings'⟩) rfl rfl nofun hclasses rfl
  have htrace := (hplainer.after (List.forall₂_same.2 hops)).trace
  rw [terminal_after] at htrace
  rcases htrace.wrote_cases (mem_texts.1 htext) with hwrote | rfl | hhelp
  · exact absurd hselects.mem.1 (hfree text (mem_texts.2 hwrote))
  · exact absurd hselects (not_selects_erased _)
  · exact hhelp

/-- It writes none for a line that prints a message. -/
theorem colourless_selects_print :
    ∃ s₀, openWith { ConsoleOptions.standard with colorful := .bool false } vivid = .ok s₀
      ∧ ∀ text ∈ (s₀.after [.run (.text "print hi")]).texts, Selects text.toList →
        ∃ p, vivid.terminal.written (Builtin.parameterText p) = .ok text := by
  obtain ⟨s₀, hopen⟩ : ∃ s₀, openWith { ConsoleOptions.standard with colorful := .bool false } vivid
      = .ok s₀ := ⟨_, rfl⟩
  obtain ⟨u₀, hplain, hall⟩ :=
    colourless_selects hopen rfl fun _ _ _ => Program.alike_answer _
  obtain rfl := Except.ok.inj hplain
  exact ⟨s₀, hopen, hall [.run (.text "print hi")] (List.forall_mem_singleton.2 (.simple trivial))
    (by decide +kernel)⟩

/-- What help prints about a parameter selects a style, also in a console without
colours. -/
theorem help_selects :
    ∃ s₀, openWith { ConsoleOptions.standard with colorful := .bool false } vivid = .ok s₀
      ∧ ∃ text ∈ (s₀.after [.run (.text "help help")]).texts, Selects text.toList := by
  refine ⟨_, rfl, " \x1b[1mname\x1b[0m: Name of the command.\n",
    List.mem_of_getElem? (i := 4) (by decide +kernel), ?_⟩
  exact ⟨[' '], ['1'], "name\x1b[0m: Name of the command.\n".toList, rfl,
    List.forall_mem_singleton.2 rfl⟩

end Session

end CommandConsole
