/-
Two consoles in step.

Whatever two consoles do of which the second one is the plainer one, they do in
step, if the host code that they call is alike: they deliver faults that are
the same without regard to colours (`inStep_trigger`), they take the same way
through a run and report the same of it (`inStep_runLine`), and they register
and remove the same (`inStep_register`). So every operation is in step if the
programs that it starts are (`inStep_perform`), and a program is if the
operations that it asks for are (`Program.Alike.inStep_execute`). Host code
inside host code is an induction on the depth (`inStep_start`), and rows of
operations are in step one by one (`Plainer.after`).
-/
import CommandConsole.Proofs.Session.Plainer
import CommandConsole.Proofs.Session.Simulation

namespace CommandConsole

open Display Display.Terminal

/-- A console without colours gives none to the faults that it completes, nor
does one who triggers them with options that tell of none. -/
theorem Settings.holds_colorful {settings : Settings} (hsettings : settings.colorful = false)
    {options : List (String × Detail Raised)}
    (hoptions : ∀ entry ∈ options, entry.1 = "colorful" → entry.2.truthy = false) {f full : Fault}
    (hfull : f.replaceOf [] (FaultOf.merge settings.options options) = .ok full) :
    full.holds "colorful" true = false := by
  have hreplaced : full = f.replace (FaultOf.merge settings.options options) := by
    unfold FaultOf.replaceOf at hfull
    split at hfull
    · cases hfull
    · exact (Except.ok.inj hfull).symm
  have hnamed : ((FaultOf.merge settings.options options).lookup "colorful").isSome = true := by
    rw [FaultOf.lookup_merge, Option.isSome_or]
    exact Bool.or_true _
  have hother : ∀ {name : String} {d : Detail Raised}, name ≠ "colorful" →
      name = "colorful" → d.truthy = false := fun hne heq => absurd heq hne
  have hown : ∀ entry ∈ settings.options, entry.1 = "colorful" → entry.2.truthy = false := by
    simp only [Settings.options, List.forall_mem_cons, hsettings]
    exact ⟨hother (by decide), hother (by decide), hother (by decide), hother (by decide),
      fun _ => rfl, List.forall_mem_nil _⟩
  rw [hreplaced]
  exact FaultOf.holds_replace f hnamed (FaultOf.forall_mem_merge hown hoptions) true

namespace Session

open CommandConsole.Action

variable {σ α β : Type} {colours : Bool} {same : σ → σ → Prop} {s t : Session σ}
  {S : α → β → Prop}

/-- Actions are in step if they do what others do that are. -/
theorem InStep.of_eq {u v : Session σ} {a a' : Action σ α} {b b' : Action σ β}
    (h : InStep colours same S u v a' b') (hs : within s a = within u a')
    (ht : within t b = within v b') : InStep colours same S s t a b := by
  constructor
  · rw [hs, ht]
    exact h.ends
  · rw [hs, ht]
    exact h.plainer

/-- Actions whose answers are dropped. -/
theorem InStep.discard {a : Action σ α} {b : Action σ β} (h : InStep colours same S s t a b) :
    InStep colours same (fun _ _ => True) s t (discard a) (discard b) :=
  h.bind_pure fun _ => trivial

namespace Plainer

variable (h : Plainer colours same s t)

include h

theorem settings_eq (hcolours : colours = false) : t.settings = s.settings := by
  obtain ⟨hs, ht⟩ := h.colourless hcolours
  rw [h.settings, ht, ← hs]

/-- The two consoles give faults the same options, but for colours. -/
theorem dullOptions_settings :
    Fault.dullOptions colours t.settings.options
      = Fault.dullOptions colours s.settings.options := by
  cases colours with
  | true =>
      rw [h.settings]
      rfl
  | false => rw [h.settings_eq rfl]

theorem fault?_eq : t.fault?.map (Fault.dull colours) = s.fault?.map (Fault.dull colours) := by
  rcases rel_option_cases h.fault? with ⟨hnone, hnone'⟩ | ⟨f, g, hsome, hsome', hfg⟩
  · rw [hnone, hnone']
  · rw [hsome, hsome']
    exact congrArg some hfg.symm

/-- Both consoles tell the same about themselves, without regard to colours. -/
theorem overview_alike : (Reply.overview s.overview).Alike colours (.overview t.overview) := by
  have hsettings : { s.settings with colorful := !colours && s.settings.colorful }
      = { t.settings with colorful := !colours && t.settings.colorful } := by
    cases colours with
    | true =>
        rw [h.settings]
        rfl
    | false => rw [h.settings_eq rfl]
  have hparsers : s.parsers.entries.length = t.parsers.entries.length := h.parsers.length_eq
  unfold Reply.Alike Reply.dull Overview.dull overview
  dsimp only
  rw [hsettings, ← h.fault?_eq, hparsers, h.registry.outlines_eq, h.history]

end Plainer

-- ================================================================ delivery

section

variable (h : Plainer colours same s t)

include h

/-- A fault that is shown is shown in both. It has no colours if there are
none. -/
theorem inStep_display {f g : Fault} (hfg : f.dull colours = g.dull colours)
    (hplain : colours = false → f.holds "colorful" true = false) :
    InStep colours same (fun _ _ => True) s t (display f) (display g) := by
  have hplain' : colours = false → g.holds "colorful" true = false := by
    rintro rfl
    rw [f.dull_false, g.dull_false] at hfg
    exact hfg ▸ hplain rfl
  have hstyle := Fault.reads_partStyle (fun htrue => (h.legible htrue).1) hplain
  have hstyle' : ∀ part, Reads true (Fault.partStyle t.host g part) := fun part =>
    (Fault.reads_partStyle (fun htrue => (h.legible htrue).2) hplain' part).weaken
  have hshown : Except.Rel (· = ·) (Shows (colours && s.terminal.ansi))
      (Fault.shown s.host s.terminal f) (Fault.shown t.host t.terminal g) := by
    rw [h.terminal]
    exact Fault.rel_shown hfg h.host hstyle hstyle' s.terminal
  have hwrites : InStep colours same (fun _ _ => True) s t
      (printFault f) (printFault g) :=
    inStep_session_bind (inStep_ofExcept_bind h hshown fun hshows =>
      inStep_note h (.wrote hshows))
  unfold display
  -- what is no output cannot show anything, in either of them
  rcases rel_option_cases (Fault.rel_option? hfg "output" (by decide)) with
    ⟨hnone, hnone'⟩ | ⟨d, e, hsome, hsome', hde⟩
  · rw [hnone, hnone']
    exact hwrites
  · have hclass : d.className = e.className := by
      rw [← Detail.className_dull colours d, hde, Detail.className_dull]
    have hrefused : InStep colours same (fun _ _ => True) s t
        (refuse (.noMethod d.className "print") : Action σ Unit)
        (refuse (.noMethod e.className "print") : Action σ Unit) :=
      inStep_throw h (by rw [hclass])
    rw [hsome, hsome']
    cases d with
    | output =>
        cases e with
        | output => exact hwrites
        | _ => cases hde
    | _ =>
        cases e with
        | output => cases hde
        | _ => exact hrefused

theorem inStep_surface {f g : Fault} (hfg : f.dull colours = g.dull colours)
    (hplain : colours = false → f.holds "colorful" true = false) :
    InStep colours same (fun _ _ => True) s t (surface f) (surface g) := by
  unfold Session.surface
  rw [Fault.holds_eq hfg (by decide), Fault.kind_eq hfg]
  split
  · exact inStep_display h hfg hplain
  · split
    · exact inStep_note h (.warned hfg)
    · exact inStep_throw h (congrArg Raised.fault hfg)

/-- Delivering the same fault leaves the second console the plainer one. -/
theorem Plainer.delivering {f g : Fault} (hfg : f.dull colours = g.dull colours) :
    Plainer colours same (s.delivering f) (t.delivering g) :=
  { h with
    fault? := by
      show Option.Rel _ (if _ then _ else _) (if _ then _ else _)
      rw [Fault.kind_eq hfg]
      split
      · exact h.fault?
      · exact .some hfg
    trace := .cons (.delivered hfg) h.trace }

theorem inStep_setFallback {receive receive' : Fault → Program σ}
    (hreceive : ∀ {f g : Fault}, f.dull colours = g.dull colours →
      (receive f).Alike colours same (receive' g)) :
    InStep colours same (fun _ _ => True) s t (setFallback (.routine receive))
      (setFallback (.routine receive')) :=
  inStep_modify { h with fallback? := .some hreceive }

theorem inStep_remove (name : Object) :
    InStep colours same (· = ·) s t (remove name) (remove name) := by
  refine inStep_ofExcept_bind h (rel_same _) fun {spelling _} hspelling => ?_
  subst hspelling
  show InStep _ _ _ _ _ (if _ then _ else _) (if _ then _ else _)
  split
  · exact inStep_throw h rfl
  · have halike := Registry.alike_erase h.registry spelling
    refine inStep_session_bind ?_
    generalize s.registry.erase spelling = result at halike ⊢
    generalize t.registry.erase spelling = result' at halike ⊢
    obtain ⟨gone, registry⟩ := result
    obtain ⟨gone', registry'⟩ := result'
    obtain ⟨hgone, hregistry⟩ := halike
    exact ⟨.ok hgone, { h with registry := hregistry }⟩

end

section

variable {start : Program σ → Action σ Reply}
  (hstart : ∀ {p p' : Program σ}, p.Alike colours same p' → ∀ {u v : Session σ},
    Plainer colours same u v → InStep colours same (Reply.Alike colours) u v (start p) (start p'))

include hstart

theorem inStep_handOver (h : Plainer colours same s t) {f g : Fault}
    (hfg : f.dull colours = g.dull colours)
    (hplain : colours = false → f.holds "colorful" true = false) :
    InStep colours same (fun _ _ => True) s t (handOver start f) (handOver start g) := by
  refine inStep_session_bind ?_
  rcases rel_option_cases h.fallback? with
    ⟨hnone, hnone'⟩ | ⟨receive, receive', hsome, hsome', hreceive⟩
  · rw [hnone, hnone']
    exact inStep_surface h hfg hplain
  · rw [hsome, hsome']
    exact (hstart (hreceive hfg) h).discard

/-- The same fault is triggered in both. Without colours none are given to it. -/
theorem inStep_trigger (h : Plainer colours same s t) {f g : Fault}
    (hfg : f.dull colours = g.dull colours) {options options' : List (String × Detail Raised)}
    (hoptions : Fault.dullOptions colours options = Fault.dullOptions colours options')
    (hplain : colours = false → ∀ entry ∈ options, entry.1 = "colorful" →
      entry.2.truthy = false) :
    InStep colours same (fun f g => Fault.dull colours f = Fault.dull colours g) s t
      (trigger start f options) (trigger start g options') := by
  have hcompleted : Except.Rel (· = ·) (fun f g => Fault.dull colours f = Fault.dull colours g)
      (f.replaceOf [] (FaultOf.merge s.settings.options options))
      (g.replaceOf [] (FaultOf.merge t.settings.options options')) := by
    refine rel_of_map_eq ?_
    rw [Fault.dull_replaceOf, Fault.dull_replaceOf, hfg, Fault.dullOptions_merge,
      Fault.dullOptions_merge, h.dullOptions_settings, hoptions]
  rcases hcompleted.cases with ⟨full, full', hfull, hfull', hsame⟩ | ⟨p, _, hp, hp', rfl⟩
  · have hcolourless : colours = false → full.holds "colorful" true = false := fun hfalse =>
      Settings.holds_colorful (h.colourless hfalse).1 (hplain hfalse) hfull
    have hhanded := inStep_handOver hstart (h.delivering hsame) hsame hcolourless
    exact (hhanded.bind fun _ huv => inStep_pure (y := full') huv hsame).of_eq
      (within_trigger start s hfull) (within_trigger start t hfull')
  · refine inStep_session_bind ?_
    rw [hp, hp']
    exact inStep_throw h rfl

theorem inStep_fail (h : Plainer colours same s t) {f g : Fault}
    (hfg : f.dull colours = g.dull colours) :
    InStep colours same (· = ·) s t (fail start f) (fail start g) := by
  have htriggered := inStep_trigger hstart h hfg (Eq.refl (Fault.dullOptions colours []))
    fun _ => List.forall_mem_nil _
  exact htriggered.discard.bind_pure fun _ => rfl

-- ============================================================== conversion

theorem inStep_converted (h : Plainer colours same s t) (c : Conversion) :
    InStep colours same (· = ·) s t (converted start c) (converted start c) := by
  cases c with
  | object x => exact inStep_pure h rfl
  | problem p => exact inStep_throw h rfl
  | host home name arguments =>
      refine (inStep_note h (.same _)).bind fun {_ _ u v} _ huv => inStep_session_bind ?_
      exact (hstart (huv.construct home name arguments) huv).bind_pure fun hreply =>
        hreply.value_eq

theorem inStep_coerce (h : Plainer colours same s t) (token : String) (p : Parameter) :
    InStep colours same (· = ·) s t (coerce start token p) (coerce start token p) := by
  have hroute := Parsers.rel_route h.parsers token p
  refine inStep_session_bind (inStep_ofExcept_bind h hroute fun hlike => ?_)
  cases hlike with
  | absent => exact inStep_pure h rfl
  | unknown => exact inStep_throw h rfl
  | convert c =>
      exact (inStep_converted hstart h c).bind_pure fun hx =>
        congrArg (Value.ofObject · p.type) hx
  | parse hprogram =>
      refine (inStep_note h (.same _)).bind fun _ huv => ?_
      exact (hstart hprogram huv).bind_pure fun hreply =>
        congrArg (Value.ofObject · p.type) hreply.value_eq

/-- Two arguments could not be converted for the same reason. -/
structure Failure.Alike (colours : Bool) (f g : Failure) : Prop where
  index : f.index = g.index
  token : f.token = g.token
  parameter : f.parameter = g.parameter
  error : f.error.dull colours = g.error.dull colours

/-- Arguments are converted to the same objects, or the first of them that fails
is the same one. -/
theorem inStep_coerceAll (arguments : List (String × Parameter)) :
    ∀ {s t : Session σ}, Plainer colours same s t → ∀ index,
      InStep colours same (Except.Rel (Failure.Alike colours) (· = ·)) s t
        (coerceAll start index arguments) (coerceAll start index arguments) := by
  induction arguments with
  | nil => exact fun h _ => inStep_pure h (.ok rfl)
  | cons a rest ih =>
      intro s t h index
      refine (inStep_attempt (inStep_coerce hstart h a.1 a.2)).bind fun houtcome huv => ?_
      cases houtcome with
      | @ok value _ hvalue =>
          subst hvalue
          refine (ih huv (index + 1)).bind_pure fun hrest => ?_
          cases hrest with
          | ok hobjects => exact .ok (congrArg (value.object :: ·) hobjects)
          | error hfailure => exact .error hfailure
      | @error e e' he =>
          show InStep _ _ _ _ _ (if e.isCaught = true then _ else _)
            (if e'.isCaught = true then _ else _)
          rw [Raised.isCaught_eq he]
          split
          · exact inStep_pure huv (.error ⟨rfl, rfl, rfl, he⟩)
          · exact inStep_throw huv he

-- ==================================================================== runs

section

variable (h : Plainer colours same s t) (line : String)

include h

/-- Routines that are alike are called with the same objects. -/
theorem inStep_invoke {c d : Command (Program σ)} (hcd : c.Alike (Program.Alike colours same) d)
    (role : Role) {routine routine' : List Object → Program σ}
    (hroutine : ∀ objects, (routine objects).Alike colours same (routine' objects))
    (objects : List Object) :
    InStep colours same (· = ·) s t (invoke start line c role routine objects)
      (invoke start line d role routine' objects) := by
  unfold invoke
  rw [← hcd.outline_eq]
  refine (inStep_note h (.same _)).bind fun _ huv => ?_
  refine (inStep_attempt (hstart (hroutine objects) huv)).bind fun houtcome hafter => ?_
  cases houtcome with
  | ok _ => exact inStep_pure hafter rfl
  | @error e e' he =>
      show InStep _ _ _ _ _ (if e.isCaught = true then _ else _)
        (if e'.isCaught = true then _ else _)
      rw [Raised.isCaught_eq he]
      split
      · refine inStep_session_bind (inStep_fail hstart hafter ?_)
        rw [hafter.host]
        exact Fault.dull_callbackFailed he _ _ _
      · exact inStep_throw hafter he

theorem inStep_call {c d : Command (Program σ)} (hcd : c.Alike (Program.Alike colours same) d)
    (arguments : List (String × Parameter)) :
    InStep colours same (· = ·) s t (call start line c arguments)
      (call start line d arguments) := by
  refine (inStep_coerceAll hstart arguments h 1).bind fun hconverted huv => ?_
  cases hconverted with
  | ok hobjects =>
      subst hobjects
      exact inStep_invoke hstart huv line hcd .callback hcd.callback _
  | @error f g hfailure =>
      obtain ⟨hindex, htoken, hparameter, he⟩ := hfailure
      refine inStep_session_bind (inStep_fail hstart huv ?_)
      rw [huv.host, ← hindex, ← htoken, ← hparameter, ← hcd.outline_eq]
      exact Fault.dull_ofCoercion he _ _

theorem inStep_follow {d d' : Dispatch (Program σ)}
    (hd : d.Alike (Program.Alike colours same) d') :
    InStep colours same (· = ·) s t (follow start line d) (follow start line d') := by
  refine inStep_session_bind ?_
  -- a report takes nothing from the host but what documents its code
  cases hd with
  | unknown token =>
      refine inStep_fail hstart h ?_
      rw [h.registry.similar_eq, h.host]
      rfl
  | bare hcd hroutine => exact inStep_invoke hstart h line hcd .default hroutine []
  | mismatch hcd given =>
      refine inStep_fail hstart h ?_
      rw [h.host, hcd.outline_eq]
      rfl
  | call hcd arguments => exact inStep_call hstart h line hcd arguments

omit hstart in
theorem inStep_begin :
    InStep colours same (fun _ _ => True) s t (begin line) (begin line) := by
  refine inStep_session_bind ?_
  have hbegun : Plainer colours same
      { s with fault? := none, history := s.history.record (s.registry.recordedName line) line }
      { t with fault? := none, history := s.history.record (s.registry.recordedName line) line } :=
    { h with
      fault? := .none
      history := rfl }
  rw [Registry.recordedName_eq h.registry, h.history]
  exact ⟨.ok trivial, hbegun.note (.same _)⟩

theorem inStep_runLine :
    InStep colours same (· = ·) s t (runLine start line) (runLine start line) := by
  have hdispatch := Registry.alike_dispatch h.registry line
  refine inStep_session_bind ?_
  exact (inStep_begin h line).bind fun _ huv => inStep_follow hstart huv line hdispatch

omit line in
theorem inStep_run (line : Object) :
    InStep colours same (· = ·) s t (run start line) (run start line) := by
  refine inStep_ofExcept_bind h (rel_same _) fun {text _} htext => ?_
  subst htext
  split
  · exact inStep_throw h rfl
  · exact inStep_runLine hstart h text

omit line in
theorem inStep_submit (text : Object) :
    InStep colours same (· = ·) s t (submit start text) (submit start text) := by
  refine inStep_ofExcept_bind h (rel_same _) fun {line _} hline => ?_
  subst hline
  show InStep _ _ _ _ _ (if _ then _ else _) (if _ then _ else _)
  split
  · exact inStep_pure h rfl
  · exact inStep_runLine hstart h _

-- ============================================================ registration

omit line in
theorem inStep_register {c d : Command (Program σ)} (hcd : c.Alike (Program.Alike colours same) d)
    (development : Bool) :
    InStep colours same (· = ·) s t (register start (.command c) development)
      (register start (.command d) development) := by
  have hdevelopment : t.settings.development = s.settings.development := by rw [h.settings]
  refine inStep_session_bind ?_
  rw [hdevelopment, ← hcd.outline_eq, h.registry.conflicts_eq]
  show InStep _ _ _ _ _ (if _ then _ else _) (if _ then _ else _)
  split
  · exact inStep_pure h rfl
  · show InStep _ _ _ _ _ (if _ then _ else _) (if _ then _ else _)
    split
    · refine inStep_fail hstart h ?_
      rw [h.host]
      rfl
    · have halike := Registry.alike_insert h.registry hcd true
      generalize s.registry.insert c true = result at halike ⊢
      generalize t.registry.insert d true = result' at halike ⊢
      obtain ⟨added, registry⟩ := result
      obtain ⟨added', registry'⟩ := result'
      obtain ⟨hadded, hregistry⟩ := halike
      exact ⟨.ok hadded, { h with registry := hregistry }⟩

omit line in
theorem inStep_registerType (type : Ty) {parse parse' : String → Program σ}
    (hparse : ∀ token, (parse token).Alike colours same (parse' token))
    (default? : Option Object) :
    InStep colours same (· = ·) s t (registerType start type (.routine parse) default?)
      (registerType start type (.routine parse') default?) := by
  have hregister := Parsers.rel_register h.parsers type hparse default?
  refine inStep_session_bind (inStep_ofExcept_bind h hregister fun {result result'} hresult => ?_)
  obtain ⟨added, parsers⟩ := result
  obtain ⟨added', parsers'⟩ := result'
  obtain ⟨hadded, hparsers⟩ := hresult
  dsimp only at hadded
  subst hadded
  cases added with
  | true => exact ⟨.ok rfl, { h with parsers := hparsers }⟩
  | false =>
      refine inStep_fail hstart h ?_
      rw [h.host]
      rfl

end

-- ============================================================== operations

omit hstart in
theorem inStep_cautions (cautions : List Caution) : ∀ {s t : Session σ}, Plainer colours same s t →
    InStep colours same (fun _ _ => True) s t (cautions.forM fun c => note (.cautioned c))
      (cautions.forM fun c => note (.cautioned c)) := by
  induction cautions with
  | nil => exact fun h => inStep_pure h trivial
  | cons c rest ih => exact fun h => (inStep_note h (.same _)).bind fun _ huv => ih huv

omit hstart in
/-- The history is walked in the same way. -/
theorem inStep_cycle (h : Plainer colours same s t) (direction : Object) :
    InStep colours same (Reply.Alike colours) s t (perform start (.cycle direction))
      (perform start (.cycle direction)) := by
  refine inStep_session_bind ?_
  rw [h.history]
  refine inStep_ofExcept_bind h (rel_same _) fun {result _} hresult => ?_
  subst hresult
  obtain ⟨line, history⟩ := result
  exact ⟨.ok rfl, { h with history := rfl }⟩

/-- What is looked up, dispatched, walked or removed is the same in both. -/
theorem inStep_simple (h : Plainer colours same s t) {op : Operation (Program σ)}
    (hop : op.Simple) :
    InStep colours same (Reply.Alike colours) s t (perform start op) (perform start op) := by
  cases op with
  | run line => exact (inStep_run hstart h line).bind_pure fun hflag => hflag ▸ rfl
  | submit text => exact (inStep_submit hstart h text).bind_pure fun hflag => hflag ▸ rfl
  | cycle direction => exact inStep_cycle h direction
  | clearHistory =>
      have hcleared : Plainer colours same { s with history := s.history.clear }
          { t with history := t.history.clear } :=
        { h with history := congrArg History.clear h.history }
      exact ⟨.ok rfl, hcleared.note (.same _)⟩
  | complete typed =>
      refine inStep_session_bind ?_
      rw [h.registry.outlines_eq]
      exact inStep_ofExcept_bind h (rel_same _) fun hfound => inStep_pure h (hfound ▸ rfl)
  | hint text =>
      refine inStep_ofExcept_bind h (rel_same _) fun {line _} hline => ?_
      subst hline
      refine inStep_session_bind ?_
      rw [Registry.hint_eq h.registry]
      exact inStep_pure h rfl
  | register candidate development =>
      cases candidate with
      | object x => exact inStep_throw h rfl
      | command c => cases hop
  | remove name => exact (inStep_remove h name).bind_pure fun hflag => hflag ▸ rfl
  | registerType type candidate default? =>
      cases candidate with
      | object x => exact ⟨.error rfl, h⟩
      | routine parse => cases hop
  | warn cautions => exact (inStep_cautions cautions h).bind_pure fun _ => rfl
  | resolve name =>
      refine (inStep_resolve h name).bind fun hfound huv => ?_
      cases hfound with
      | none => exact inStep_pure huv rfl
      | some hcd =>
          refine inStep_pure huv ?_
          rw [hcd.outline_eq, hcd.isSome_default?]
          rfl
  | describe name =>
      refine inStep_session_bind (inStep_ofExcept_bind h (Registry.rel_get h.registry name) ?_)
      intro c d hcd
      refine inStep_pure h ?_
      rw [hcd.outline_eq, hcd.isSome_default?]
      rfl
  | overview => exact inStep_session_bind (inStep_pure h h.overview_alike)
  | fallback candidate =>
      cases candidate with
      | routine receive => cases hop
      | object x =>
          cases x with
          | none => exact ⟨.ok rfl, { h with fallback? := .none }⟩
          | _ => exact inStep_throw h rfl
  | logAs kind message => exact (inStep_logAs h kind message).bind_pure fun _ => rfl
  | logVariable name value suffix =>
      have hlogged : InStep colours same (fun _ _ => True) s t (logVariable name value suffix)
          (logVariable name value suffix) := inStep_log h _ nofun nofun
      exact hlogged.bind_pure fun _ => rfl
  | logSeparator message? => exact (inStep_logSeparator h message?).bind_pure fun _ => rfl
  | logCommand name? => exact (inStep_logCommand h name?).bind_pure fun _ => rfl
  | logUsage opening o closing => exact (inStep_logUsage h opening o closing).bind_pure fun _ => rfl
  | clear => exact (inStep_clear h).bind_pure fun _ => rfl
  | trigger | log | logCollection | print => cases hop

/-- Operations that are alike are performed in step. -/
theorem inStep_perform (h : Plainer colours same s t) {op op' : Operation (Program σ)}
    (hop : op.Alike colours (Program.Alike colours same) op') :
    InStep colours same (Reply.Alike colours) s t (perform start op) (perform start op') := by
  cases hop with
  | simple hsimple => exact inStep_simple hstart h hsimple
  | register hcd development =>
      exact (inStep_register hstart h hcd development).bind_pure fun hflag => hflag ▸ rfl
  | registerType type hparse default? =>
      exact (inStep_registerType hstart h type hparse default?).bind_pure fun hflag => hflag ▸ rfl
  | fallback hreceive => exact (inStep_setFallback h hreceive).bind_pure fun _ => rfl
  | trigger hfault hoptions hplain =>
      have htriggered := inStep_trigger hstart h hfault hoptions hplain
      exact inStep_ok_bind (htriggered.bind_pure fun hfg => congrArg Reply.fault hfg)
  | offer x options options' => exact inStep_throw h rfl
  | log message hstyle => exact (inStep_log h message hstyle hstyle).bind_pure fun _ => rfl
  | logCollection items hformat opening closing =>
      exact (inStep_logCollection h items hformat opening closing).bind_pure fun _ => rfl
  | print htext => exact (inStep_print_same h htext).bind_pure fun _ => rfl

end

end Session

-- ================================================================ programs

open Session CommandConsole.Action

variable {σ : Type} {colours : Bool} {same : σ → σ → Prop}

/-- Programs that are done are in step if they have ended alike. -/
theorem inStep_done {perform : Operation (Program σ) → Action σ Reply}
    {outcome outcome' : Except Raised Reply}
    (houtcome : EndsAlike colours (Reply.Alike colours) outcome outcome') {s t : Session σ}
    (h : Plainer colours same s t) :
    InStep colours same (Reply.Alike colours) s t ((Program.done outcome).execute perform)
      ((Program.done outcome').execute perform) := by
  cases houtcome with
  | ok hreply => exact inStep_pure h hreply
  | error he => exact inStep_throw h he

/-- Programs that are alike are executed in step if operations that are alike
are performed in step. -/
theorem Program.Alike.inStep_execute {perform : Operation (Program σ) → Action σ Reply}
    (hperform : ∀ {s t : Session σ}, Plainer colours same s t →
      ∀ {op op' : Operation (Program σ)}, op.Alike colours (Program.Alike colours same) op' →
        InStep colours same (Reply.Alike colours) s t (perform op) (perform op')) :
    ∀ {p p' : Program σ}, p.Alike colours same p' → ∀ {s t : Session σ}, Plainer colours same s t →
      InStep colours same (Reply.Alike colours) s t (p.execute perform) (p'.execute perform)
  | .done _, _, .done houtcome => inStep_done houtcome
  | .read _, _, .read hnext => fun h =>
      inStep_session_bind ((hnext h.state).inStep_execute hperform h)
  | .write _ _, _, .write hstate hnext => fun h =>
      (inStep_modify { h with state := hstate }).bind fun _ huv =>
        hnext.inStep_execute hperform huv
  | .perform _ _, _, .perform hop hnext => fun h =>
      (inStep_attempt (hperform h hop)).bind fun houtcome huv =>
        (hnext houtcome).inStep_execute hperform huv

namespace Session

/-- Host code that is alike is in step, however deep it calls host code. -/
theorem inStep_start (depth : Nat) {p p' : Program σ} (hp : p.Alike colours same p')
    {s t : Session σ} (h : Plainer colours same s t) :
    InStep colours same (Reply.Alike colours) s t (start depth p) (start depth p') := by
  induction depth generalizing p p' s t with
  | zero => exact inStep_throw h rfl
  | succ depth ih =>
      exact hp.inStep_execute (fun hst _ _ hop => inStep_perform ih hst hop) h

/-- An operation ends alike in both consoles. -/
theorem inStep_operate {s t : Session σ} (h : Plainer colours same s t)
    {op op' : Operation (Program σ)} (hop : op.Alike colours (Program.Alike colours same) op') :
    InStep colours same (Reply.Alike colours) s t (perform (start maxDepth) op)
      (perform (start maxDepth) op') :=
  inStep_perform (fun hp _ _ huv => inStep_start maxDepth hp huv) h hop

/-- Whatever operations that are alike are performed in both, the second console
stays the plainer one. -/
theorem Plainer.after {ops ops' : List (Operation (Program σ))}
    (hops : List.Forall₂ (Operation.Alike colours (Program.Alike colours same)) ops ops') :
    ∀ {s t : Session σ}, Plainer colours same s t →
      Plainer colours same (s.after ops) (t.after ops') := by
  induction hops with
  | nil => exact fun h => h
  | cons hop _ ih => exact fun h => ih (inStep_operate h hop).plainer

end Session

end CommandConsole
