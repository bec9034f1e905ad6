/-
Two consoles side by side, of which one writes to a plain output.

The second console writes to an output of the same width that understands no
codes, and the two may differ in their colours, in the styles of their hosts,
and in what faults they hold tell of colours (`Plainer`). Nothing else of them
differs, but for routines of host code that are alike. What happens in them is
the same, up to the control sequences in what is written (`Trace`).

Two actions that are done in them are in step if they end alike and leave the
two sessions as they were to each other (`InStep`). What is in step can be put
together from what is in step, and what writes to the output is: the text that
a console writes is the same in all styles.
-/
import CommandConsole.Proofs.Session.Action
import CommandConsole.Proofs.Session.Blindness
import CommandConsole.Session.Output
import CommandConsole.Session.Registration

namespace CommandConsole

open Display Display.Terminal

-- ================================================================== events

/-- What happens is the same, but for what faults tell of colours and for the
control sequences in what is written. Without colours there are none, except
in the lines that help prints about parameters. -/
inductive Event.Alike (colours : Bool) (t : Terminal) : Event → Event → Prop
  | same (e : Event) : Event.Alike colours t e e
  | delivered {f g : Fault} (h : f.dull colours = g.dull colours) :
      Event.Alike colours t (.delivered f) (.delivered g)
  | warned {f g : Fault} (h : f.dull colours = g.dull colours) :
      Event.Alike colours t (.warned f) (.warned g)
  | wrote {text text' : String} (h : Shows (colours && t.ansi) text text') :
      Event.Alike colours t (.wrote text) (.wrote text')
  | helped (hcolours : colours = false) (p : Parameter) {text text' : String}
      (h : t.written (Builtin.parameterText p) = .ok text)
      (h' : t.plain.written (Builtin.parameterText p) = .ok text') :
      Event.Alike colours t (.wrote text) (.wrote text')

/-- What happened in two sessions is the same event by event, but that only
an output that understands codes can be emptied. -/
inductive Trace (colours : Bool) (t : Terminal) : List Event → List Event → Prop
  | nil : Trace colours t [] []
  | cons {e e' : Event} (h : e.Alike colours t e') {events events' : List Event}
      (hrest : Trace colours t events events') : Trace colours t (e :: events) (e' :: events')
  | emptied (hansi : t.ansi = true) {events events' : List Event}
      (hrest : Trace colours t events events') : Trace colours t (.wrote t.erased :: events) events'

-- ================================================================ sessions

namespace Session

open CommandConsole.Action

variable {σ α β γ δ : Type}

/-- Two sessions, of which the second one writes to an output that understands
no codes. With `colours` they may differ in their colours and in the styles of
their hosts, which can be read, and without they have no colours. -/
structure Plainer (colours : Bool) (same : σ → σ → Prop) (s t : Session σ) : Prop where
  settings : t.settings = { s.settings with colorful := t.settings.colorful }
  colourless : colours = false → s.settings.colorful = false ∧ t.settings.colorful = false
  terminal : t.terminal = s.terminal.plain
  host : t.host = { s.host with styles := t.host.styles }
  legible : colours = true → s.host.Legible ∧ t.host.Legible
  construct : ∀ home name arguments,
    (s.construct home name arguments).Alike colours same (t.construct home name arguments)
  registry : s.registry.Alike (Program.Alike colours same) t.registry
  parsers : s.parsers.Alike (Program.Alike colours same) t.parsers
  history : t.history = s.history
  fallback? : Option.Rel (fun receive receive' => ∀ {f g : Fault},
    f.dull colours = g.dull colours → (receive f).Alike colours same (receive' g))
    s.fallback? t.fallback?
  fault? : Option.Rel (fun f g => Fault.dull colours f = Fault.dull colours g) s.fault? t.fault?
  state : same s.state t.state
  trace : Trace colours s.terminal s.events t.events

variable {colours : Bool} {same : σ → σ → Prop} {s t : Session σ}

namespace Plainer

variable (h : Plainer colours same s t)

include h

theorem note {e e' : Event} (he : e.Alike colours s.terminal e') :
    Plainer colours same { s with events := e :: s.events } { t with events := e' :: t.events } :=
  { h with trace := .cons he h.trace }

end Plainer

-- ================================================================= in step

/-- Two actions that are done in two sessions end alike, and leave the second
session the plainer one. -/
structure InStep (colours : Bool) (same : σ → σ → Prop) (S : α → β → Prop) (s t : Session σ)
    (a : Action σ α) (b : Action σ β) : Prop where
  ends : EndsAlike colours S (within s a).1 (within t b).1
  plainer : Plainer colours same (within s a).2 (within t b).2

variable {S : α → β → Prop} {S' : γ → δ → Prop}

theorem inStep_pure (h : Plainer colours same s t) {x : α} {y : β} (hxy : S x y) :
    InStep colours same S s t (pure x) (pure y) := ⟨.ok hxy, h⟩

theorem inStep_throw (h : Plainer colours same s t) {e e' : Raised}
    (he : e.dull colours = e'.dull colours) :
    InStep colours same S s t (throw e) (throw e') := ⟨.error he, h⟩

theorem inStep_note (h : Plainer colours same s t) {e e' : Event}
    (he : e.Alike colours s.terminal e') :
    InStep colours same (fun _ _ => True) s t (note e) (note e') :=
  ⟨.ok trivial, h.note he⟩

theorem inStep_modify {f g : Session σ → Session σ} (h : Plainer colours same (f s) (g t)) :
    InStep colours same (fun _ _ => True) s t (modify f) (modify g) :=
  ⟨.ok trivial, h⟩

theorem inStep_session_bind {f : Session σ → Action σ γ} {g : Session σ → Action σ δ}
    (h : InStep colours same S' s t (f s) (g t)) :
    InStep colours same S' s t (session >>= f) (session >>= g) := ⟨h.ends, h.plainer⟩

theorem inStep_ok_bind {f : α → Action σ γ} {g : β → Action σ δ} {x : α} {y : β}
    (h : InStep colours same S' s t (f x) (g y)) :
    InStep colours same S' s t (Action.ofExcept (.ok x) >>= f) (Action.ofExcept (.ok y) >>= g) :=
  ⟨h.ends, h.plainer⟩

theorem inStep_ofExcept_bind (hst : Plainer colours same s t) {result : Except Problem α}
    {result' : Except Problem β} (hresult : Except.Rel (· = ·) S result result')
    {f : α → Action σ γ} {g : β → Action σ δ}
    (hfg : ∀ {x y}, S x y → InStep colours same S' s t (f x) (g y)) :
    InStep colours same S' s t (ofExcept result >>= f) (ofExcept result' >>= g) := by
  cases hresult with
  | ok hxy => exact ⟨(hfg hxy).ends, (hfg hxy).plainer⟩
  | error hp =>
      subst hp
      exact ⟨.error rfl, hst⟩

theorem InStep.bind {a : Action σ α} {b : Action σ β} (h : InStep colours same S s t a b)
    {f : α → Action σ γ} {g : β → Action σ δ}
    (hfg : ∀ {x y u v}, S x y → Plainer colours same u v → InStep colours same S' u v (f x) (g y)) :
    InStep colours same S' s t (a >>= f) (b >>= g) := by
  obtain ⟨hends, hplainer⟩ := h
  rcases hs : within s a with ⟨outcome, u⟩
  rcases ht : within t b with ⟨outcome', v⟩
  rw [hs, ht] at hends hplainer
  cases hends with
  | ok hxy =>
      have hlast := hfg hxy hplainer
      constructor
      · rw [within_bind_ok hs, within_bind_ok ht]
        exact hlast.ends
      · rw [within_bind_ok hs, within_bind_ok ht]
        exact hlast.plainer
  | error he =>
      constructor
      · rw [within_bind, within_bind, hs, ht]
        exact .error he
      · rw [within_bind, within_bind, hs, ht]
        exact hplainer

/-- Actions whose answers are passed on in another form. -/
theorem InStep.bind_pure {a : Action σ α} {b : Action σ β} (h : InStep colours same S s t a b)
    {f : α → γ} {g : β → δ} (hfg : ∀ {x y}, S x y → S' (f x) (g y)) :
    InStep colours same S' s t (a >>= fun x => pure (f x)) (b >>= fun x => pure (g x)) :=
  h.bind fun hxy huv => inStep_pure huv (hfg hxy)

theorem inStep_attempt {a : Action σ α} {b : Action σ β} (h : InStep colours same S s t a b) :
    InStep colours same (EndsAlike colours S) s t (attempt a) (attempt b) :=
  ⟨.ok h.ends, h.plainer⟩

-- ================================================================== styles

/-- A message is logged in a style that can be read, and in none without
colours. -/
theorem reads_logged {style? : Option Object} {colorful : Bool}
    (hstyle : colours = true → ∀ x, style? = some x → Reads true x)
    (hcolours : colours = false → colorful = false) :
    Reads colours (if colorful then style?.getD (.text "") else .text "") := by
  cases colours with
  | false =>
      rw [hcolours rfl]
      exact reads_none
  | true =>
      split
      · cases style? with
        | none => exact reads_none
        | some x => exact hstyle rfl x rfl
      · exact reads_none

/-- The styles that the console has for the parts of the log can be read. -/
theorem readable_logStyles : ∀ entry ∈ logStyles, (Style.ofName entry.2).isOk = true := by
  decide +kernel

theorem Plainer.reads_logStyle (h : Plainer colours same s t) (part : String) :
    Reads colours (s.logStyle part) ∧ Reads true (t.logStyle part) := by
  unfold logStyle
  cases colours with
  | false =>
      obtain ⟨hs, ht⟩ := h.colourless rfl
      rw [hs, ht]
      exact ⟨reads_none, reads_none⟩
  | true =>
      obtain ⟨hs, ht⟩ := h.legible rfl
      constructor
      · split
        · exact hs.reads_style readable_logStyles part
        · exact reads_none
      · split
        · exact ht.reads_style readable_logStyles part
        · exact reads_none

theorem visible_append (a b : String) :
    Styled.visible (a ++ b) = Styled.visible a ++ Styled.visible b := by
  unfold Styled.visible
  rw [String.toList_append, List.filter_append, String.ofList_append]

theorem plain_usages (parameters : List Parameter) (opening : String) :
    Styled.visible (" ".intercalate (opening :: parameters.map Parameter.usage))
      = Styled.visible opening
        ++ Styled.plain (parameters.flatMap fun p => .bare " " :: p.styled) := by
  induction parameters generalizing opening with
  | nil =>
      rw [List.map_nil, String.intercalate_singleton]
      exact String.append_empty.symm
  | cons p rest ih =>
      have hnil : Styled.plain [] = "" := rfl
      have husage : Styled.plain (.bare " " :: p.styled)
          = Styled.visible " " ++ Styled.visible p.usage := by
        simp only [Parameter.styled, Parameter.usage, plain_cons, visible_append, Run.bare,
          Run.named, String.append_assoc, hnil, String.append_empty]
      rw [List.map_cons, String.intercalate_cons_cons, visible_append, visible_append, ih,
        List.flatMap_cons, plain_append, husage]
      simp only [String.append_assoc]

/-- The usage of a command has the same text in its styles and without any. -/
theorem plain_styled (o : Outline) : Styled.plain o.styled = Styled.plain (.bare o.usage) := by
  have hbare : Styled.plain (.bare o.usage) = Styled.visible o.usage :=
    (plain_cons (.bare o.usage) []).trans String.append_empty
  rw [hbare, Outline.usage, plain_usages, Outline.styled, plain_cons]
  rfl

/-- The usage of a command, in its styles or without any. -/
theorem restyled_usage (o : Outline) {colorful : Bool}
    (hcolours : colours = false → colorful = false) (colorful' : Bool) :
    Restyled colours (if colorful then o.styled else .bare o.usage)
      (if colorful' then o.styled else .bare o.usage) := by
  have htext : ∀ colorful : Bool, Styled.plain (if colorful then o.styled else .bare o.usage)
      = Styled.plain (.bare o.usage) := by
    intro colorful
    cases colorful with
    | false => rfl
    | true => exact plain_styled o
  have hbare : ∀ colours : Bool, ∀ r ∈ Styled.bare o.usage, Reads colours r.style :=
    fun _ => List.forall_mem_singleton.2 reads_none
  have hbold : Reads true (.text "bold") := reads_of_isOk (by decide +kernel)
  have hitalic : Reads true (.text "italic") := reads_of_isOk (by decide +kernel)
  have hstyled : ∀ r ∈ o.styled, Reads true r.style := by
    simp only [Outline.styled, List.forall_mem_cons, List.mem_flatMap, Parameter.styled]
    refine ⟨hbold, ?_⟩
    rintro r ⟨p, -, hr⟩
    simp only [List.mem_cons, List.not_mem_nil, or_false] at hr
    rcases hr with rfl | rfl | rfl | rfl | rfl | rfl
    · exact reads_none
    · exact reads_none
    · exact hitalic
    · exact reads_none
    · exact hbold
    · exact reads_none
  refine ⟨(htext colorful).trans (htext colorful').symm, ?_, ?_⟩
  · cases colours with
    | false =>
        rw [hcolours rfl]
        exact hbare false
    | true =>
        cases colorful with
        | false => exact hbare true
        | true => exact hstyled
  · cases colorful' with
    | false => exact hbare true
    | true => exact hstyled

-- ============================================================= collections

theorem endsAlike_refl (outcome : Except Raised α) : EndsAlike colours (· = ·) outcome outcome := by
  cases outcome with
  | ok x => exact .ok rfl
  | error e => exact .error rfl

theorem rel_itemLine {format format' : Object → Except Raised Object}
    (hformat : ∀ x, EndsAlike colours (· = ·) (format x) (format' x))
    (opening closing item : Object) :
    EndsAlike colours (· = ·) (itemLine format opening closing item)
      (itemLine format' opening closing item) := by
  unfold itemLine
  rcases (hformat item).cases with ⟨middle, _, hmiddle, hmiddle', rfl⟩ | ⟨e, e', he, he', hdull⟩
  · rw [hmiddle, hmiddle']
    exact endsAlike_refl _
  · rw [he, he']
    exact .error hdull

theorem rel_mapM_itemLine {format format' : Object → Except Raised Object}
    (hformat : ∀ x, EndsAlike colours (· = ·) (format x) (format' x)) (opening closing : Object)
    (row : List Object) :
    EndsAlike colours (· = ·) (row.mapM (itemLine format opening closing))
      (row.mapM (itemLine format' opening closing)) := by
  induction row with
  | nil => exact .ok rfl
  | cons item rest ih =>
      rw [List.mapM_cons, List.mapM_cons]
      rcases (rel_itemLine hformat opening closing item).cases with
        ⟨line, _, hline, hline', rfl⟩ | ⟨e, e', he, he', hdull⟩
      · rw [hline, hline']
        rcases ih.cases with ⟨lines, _, hlines, hlines', rfl⟩ | ⟨e, e', he, he', hdull⟩
        · rw [hlines, hlines']
          exact .ok rfl
        · rw [he, he']
          exact .error hdull
      · rw [he, he']
        exact .error hdull

/-- The lines of a collection are the same, or the same keeps them from being
made. -/
theorem rel_collectionLines (items : Object) {format format' : Object → Except Raised Object}
    (hformat : ∀ x, EndsAlike colours (· = ·) (format x) (format' x)) (opening closing : Object) :
    EndsAlike colours (· = ·) (collectionLines items format opening closing)
      (collectionLines items format' opening closing) := by
  unfold collectionLines
  cases items.items? with
  | none => exact .error rfl
  | some row =>
      dsimp only
      rcases (rel_mapM_itemLine hformat opening closing row).cases with
        ⟨lines, _, hlines, hlines', rfl⟩ | ⟨e, e', he, he', hdull⟩
      · rw [hlines, hlines']
        exact endsAlike_refl _
      · rw [he, he']
        exact .error hdull

-- ================================================================== output

section

variable (h : Plainer colours same s t)

include h

theorem inStep_print {text text' : Styled} (htext : Restyled colours text text') :
    InStep colours same (fun _ _ => True) s t (print text) (print text') := by
  obtain ⟨a, b, ha, hb, hshows⟩ := htext.exists_written s.terminal
  refine inStep_session_bind ?_
  rw [h.terminal, ha, hb]
  exact inStep_ok_bind (inStep_note h (.wrote hshows))

/-- A text in the styles of a caller is printed in both. Without colours it has
none, or it is a line of help. -/
theorem inStep_print_same {text : Styled}
    (htext : colours = false → (∀ r ∈ text, Reads false r.style)
      ∨ ∃ p, text = Builtin.parameterText p) :
    InStep colours same (fun _ _ => True) s t (print text) (print text) := by
  cases colours with
  | true =>
      have hwritten := rel_written text s.terminal
      refine inStep_session_bind ?_
      rw [h.terminal]
      exact inStep_ofExcept_bind h hwritten fun hshows => inStep_note h (.wrote hshows)
  | false =>
      rcases htext rfl with hplain | ⟨p, rfl⟩
      · exact inStep_print h ⟨rfl, hplain, fun r hr => (hplain r hr).weaken⟩
      · have hbold : Reads true (.text "bold") := reads_of_isOk (by decide +kernel)
        have hreads : ∀ r ∈ Builtin.parameterText p, Reads true r.style := by
          simp only [Builtin.parameterText, List.forall_mem_cons]
          exact ⟨reads_none, hbold, reads_none, reads_none, List.forall_mem_nil _⟩
        have hsame : Restyled true (Builtin.parameterText p) (Builtin.parameterText p) :=
          ⟨rfl, hreads, hreads⟩
        obtain ⟨a, b, ha, hb, -⟩ := hsame.exists_written s.terminal
        refine inStep_session_bind ?_
        rw [h.terminal, ha, hb]
        exact inStep_ok_bind (inStep_note h (.helped rfl p ha hb))

/-- A message in two styles, which can be read if there are colours. -/
theorem inStep_log (message : Object) {style? style?' : Option Object}
    (hstyle : colours = true → ∀ x, style? = some x → Reads true x)
    (hstyle' : colours = true → ∀ x, style?' = some x → Reads true x) :
    InStep colours same (fun _ _ => True) s t (log message style?) (log message style?') := by
  have hreads := reads_logged hstyle fun hfalse => (h.colourless hfalse).1
  have hreads' := reads_logged hstyle' fun hfalse => (h.colourless hfalse).2
  exact inStep_session_bind (inStep_print h (restyled_run hreads hreads'.weaken _))

theorem inStep_logAs (kind : LogKind) (message : Object) :
    InStep colours same (fun _ _ => True) s t (logAs kind message) (logAs kind message) := by
  refine inStep_session_bind (inStep_log h message ?_ ?_)
  · rintro rfl _ ⟨⟩
    exact (h.reads_logStyle _).1
  · rintro rfl _ ⟨⟩
    exact (h.reads_logStyle _).2

theorem inStep_logCollection (items : Object) {format format' : Object → Except Raised Object}
    (hformat : ∀ x, EndsAlike colours (· = ·) (format x) (format' x)) (opening closing : Object) :
    InStep colours same (fun _ _ => True) s t (logCollection items format opening closing)
      (logCollection items format' opening closing) := by
  unfold logCollection
  rcases (rel_collectionLines items hformat opening closing).cases with
    ⟨lines, _, hlines, hlines', rfl⟩ | ⟨e, e', he, he', hdull⟩
  · rw [hlines, hlines']
    exact inStep_log h _ nofun nofun
  · rw [he, he']
    exact inStep_throw h hdull

theorem inStep_logSeparator (message? : Option Object) :
    InStep colours same (fun _ _ => True) s t (logSeparator message?) (logSeparator message?) := by
  cases message? with
  | none => exact inStep_log h _ nofun nofun
  | some message =>
      obtain ⟨hreads, hreads'⟩ := h.reads_logStyle "log-separator"
      refine inStep_session_bind (inStep_print h ?_)
      exact ((restyled_bare _).append (restyled_part hreads hreads' _)).append (restyled_bare _)

theorem inStep_logUsage (opening : String) (o : Outline) (closing : String) :
    InStep colours same (fun _ _ => True) s t (logUsage opening o closing)
      (logUsage opening o closing) := by
  have husage := restyled_usage o (fun hfalse => (h.colourless hfalse).1) t.settings.colorful
  refine inStep_session_bind (inStep_print h ?_)
  exact ((restyled_bare _).append husage).append (restyled_bare _)

theorem inStep_logCommand (name? : Option Object) :
    InStep colours same (fun _ _ => True) s t (logCommand name?) (logCommand name?) := by
  refine inStep_session_bind ?_
  rw [h.history]
  refine inStep_ofExcept_bind h (rel_same _) fun {spelling _} hspelling => ?_
  subst hspelling
  rcases rel_option_cases (Registry.rel_find? h.registry spelling) with
    ⟨hnone, hnone'⟩ | ⟨c, d, hsome, hsome', hc⟩
  · rw [hnone, hnone']
    exact inStep_pure h trivial
  · rw [hsome, hsome']
    dsimp only
    rw [← hc.outline_eq]
    exact inStep_logUsage h _ _ _

theorem inStep_clear : InStep colours same (fun _ _ => True) s t clear clear := by
  refine inStep_session_bind ?_
  rw [h.terminal]
  cases hansi : s.terminal.ansi with
  | false =>
      have hnothing : s.terminal.erased = "" := by
        unfold erased
        rw [hansi]
        rfl
      rw [hnothing]
      exact inStep_pure h trivial
  | true =>
      have herased : s.terminal.erased = sequence "2J" ++ sequence "H" := by
        unfold erased
        rw [hansi]
        rfl
      have hsome : s.terminal.erased ≠ "" := by
        rw [herased]
        decide
      show InStep _ _ _ _ _ (if _ then _ else _) _
      rw [if_neg hsome]
      exact ⟨.ok trivial, { h with trace := .emptied hansi h.trace }⟩

theorem inStep_resolve (name : Object) :
    InStep colours same (Option.Rel (Command.Alike (Program.Alike colours same))) s t
      (resolve name) (resolve name) := by
  refine inStep_ofExcept_bind h (rel_same _) fun {spelling _} hspelling => ?_
  subst hspelling
  exact inStep_session_bind (inStep_pure h (Registry.rel_find? h.registry spelling))

end

end Session

end CommandConsole
