/-
Consoles that differ in whether they show their faults.

Take two consoles that are opened alike but for that, and have the same
operations performed in both. They stay twins, as long as their host code is
unaware of the difference (`shells_agree`). Up to the report of a fault all
that they do is parallel, and a report is the last thing that an operation
does. Its two ends fit together (`Matches`): where one console shows an error
and answers no, the other one raises it.

There is one way in which the ends come apart. A fault that cannot be laid out
is not shown, and the reason is raised in its place; the console that need not
show it raises the fault, or answers if it is a warning. And host code that
asks its console whether it shows faults may of course go on from there in
different ways (`shells_differ`).
-/
import CommandConsole.Proofs.Parsers.Registration
import CommandConsole.Proofs.Session.Classification
import CommandConsole.Proofs.Session.Permanence
import CommandConsole.Proofs.Session.Recording
import CommandConsole.Proofs.Session.Twins

namespace CommandConsole

/-- The operations on a console that dispatch a line, walk or clear the
history, register and remove, and the warnings about an expression. Host code
that is registered does not depend on whether the console shows its faults. -/
def Operation.Unaware {σ : Type} : Operation (Program σ) → Prop
  | .run _ | .submit _ | .cycle _ | .clearHistory | .remove _ | .warn _ => True
  | .register (.command c) _ => c.Unaware
  | .register (.object _) _ => True
  | .registerType _ (.routine parse) _ => ∀ token, (parse token).Unaware
  | .registerType _ (.object _) _ => True
  | _ => False

theorem Command.Unaware.kept {σ : Type} {c : Command (Program σ)} (h : c.Unaware) (custom : Bool) :
    (Registry.kept c custom).Unaware := by
  cases custom with
  | false => exact h
  | true => exact ⟨h.callback, h.default⟩

namespace Session

open CommandConsole.Action

variable {σ α : Type} {s t u v : Session σ}

-- ================================================================= reports

/-- What two consoles add to a fault is alike if they differ in whether they
show it. -/
theorem Twins.completed_alike (h : Twins s t) (f : Fault) :
    Fault.Alike (s.completed f) (t.completed f) where
  kind := rfl
  message := rfl
  option? := by
    intro name hshell _
    unfold completed
    rw [FaultOf.option?_replace, FaultOf.option?_replace, h.settings]
    simp only [Settings.options, List.reverse_cons, List.reverse_nil, List.nil_append,
      List.cons_append, FaultOf.lookup_cons, if_neg hshell]

theorem Twins.delivering (h : Twins s t) {f g : Fault} (hlike : f.Alike g) :
    Twins (s.delivering f) (t.delivering g) :=
  { h with
    fault? := by
      show Option.Rel _ (if f.kind.isWarning = true then _ else _)
        (if g.kind.isWarning = true then _ else _)
      rw [← hlike.kind]
      split
      · exact h.fault?
      · exact .some hlike
    calls := h.calls }

/-- How an operation ends in two sessions, of which the first one shows its
faults and the other one does not: one that runs a line if `runs` says so.
The answer `no` is that something failed. -/
inductive Matches (no : α) (runs : Bool) (s t : Session σ) :
    Except Raised α × Session σ → Except Raised α × Session σ → Prop
  /-- Both end in the same way, and neither raises a fault. A line for which
  both answer no was passed over. -/
  | same {outcome : Except Raised α} {u v : Session σ} (htwins : Twins u v)
      (hraised : ∀ f, outcome ≠ .error (.fault f))
      (hpassed : runs = true → outcome = .ok no → u = s ∧ v = t) :
      Matches no runs s t (outcome, u) (outcome, v)
  /-- The first one writes an error and answers no, and the other one raises
  it. -/
  | told (hruns : runs = true) {f g : Fault} {text : String} {earlier : List Event}
      {u v : Session σ} (htwins : Twins u v) (hlike : f.Alike g) (hknown : u.fault? = some f)
      (hwrote : u.events = .wrote text :: .delivered f :: earlier)
      (hshown : Fault.shown u.host u.terminal f = .ok text) :
      Matches no runs s t (.ok no, u) (.error (.fault g), v)
  /-- The error cannot be laid out, and the first one raises the reason. -/
  | unshown (hruns : runs = true) {f g : Fault} {p : Problem} {u v : Session σ}
      (htwins : Twins u v) (hlike : f.Alike g) (hknown : u.fault? = some f)
      (hshown : Fault.shown u.host u.terminal f = .error p) :
      Matches no runs s t (.error (.problem p), u) (.error (.fault g), v)
  /-- A warning cannot be laid out, and the first one raises the reason. -/
  | unwarned (hruns : runs = false) {f : Fault} {p : Problem} {u v : Session σ}
      (htwins : Twins u v) (hshown : Fault.shown u.host u.terminal f = .error p) :
      Matches no runs s t (.error (.problem p), u) (.ok no, v)

theorem Matches.twins {no : α} {runs : Bool} {r r' : Except Raised α × Session σ}
    (h : Matches no runs s t r r') : Twins r.2 r'.2 := by
  cases h with
  | same htwins | told _ htwins | unshown _ htwins | unwarned _ htwins => exact htwins

/-- What is no fault passes through both. -/
theorem matches_raised {no : α} {runs : Bool} (h : Twins u v) {e : Raised}
    (hraised : ∀ f, e ≠ .fault f) : Matches no runs s t (.error e, u) (.error e, v) := by
  refine .same h (fun f hf => ?_) (fun _ hno => ?_)
  · exact hraised f (Except.error.inj hf)
  · cases hno

theorem Matches.flagged {runs : Bool} {r r' : Except Raised Bool × Session σ}
    (h : Matches false runs s t r r') :
    Matches (.flag false) runs s t (flagged r) (flagged r') := by
  cases h with
  | told hruns htwins hlike hknown hwrote hshown =>
      exact .told hruns htwins hlike hknown hwrote hshown
  | unshown hruns htwins hlike hknown hshown => exact .unshown hruns htwins hlike hknown hshown
  | unwarned hruns htwins hshown => exact .unwarned hruns htwins hshown
  | @same outcome u v htwins hraised hpassed =>
      rcases outcome with e | answer
      · exact matches_raised htwins fun f hf => hraised f (congrArg Except.error hf)
      · show Matches (Reply.flag false) runs s t (.ok (.flag answer), u) (.ok (.flag answer), v)
        refine .same htwins nofun fun hruns hno => ?_
        obtain rfl := Reply.flag.inj (Except.ok.inj hno)
        exact hpassed hruns rfl

/-- What stops the conversion of arguments for good is nothing that a console
reports. -/
theorem isCaught_of_coerceAll_eq_error {start : Program σ → Action σ Reply}
    {arguments : List (String × Parameter)} {e : Raised} :
    ∀ {s t : Session σ} {index : Nat},
      within s (coerceAll start index arguments) = (.error e, t) → e.isCaught = false := by
  induction arguments with
  | nil => exact fun h => by cases h
  | cons a rest ih =>
      intro s t index h
      rw [within_coerceAll_cons] at h
      rcases hfirst : within s (coerce start a.1 a.2) with ⟨e' | value, u⟩
      · rw [hfirst] at h
        dsimp only at h
        split at h
        · cases h
        · next hpasses =>
          cases h
          exact Bool.eq_false_iff.2 hpasses
      · rw [hfirst] at h
        dsimp only at h
        rcases hrest : within u (coerceAll start (index + 1) rest) with ⟨e' | outcome, w⟩
        · rw [hrest] at h
          cases h
          exact ih hrest
        · rw [hrest] at h
          cases h

section

variable (h : Twins u v) {start : Program σ → Action σ Reply}

include h

theorem matches_fail {f : Fault} (hkind : f.kind.isWarning = false) :
    Matches false true s t (within u (fail start f)) (within v (fail start f)) := by
  have hlike := h.completed_alike f
  have hdelivering := h.delivering hlike
  have hknown : (u.delivering (u.completed f)).fault? = some (u.completed f) := by
    show (if (u.completed f).kind.isWarning = true then _ else _) = _
    rw [kind_completed, hkind]
    rfl
  rw [within_fail_shown h.silent h.shell, within_fail_passed h.unheard h.hidden]
  dsimp only
  rw [hkind]
  cases hshown : Fault.shown u.host u.terminal (u.completed f) with
  | ok text =>
      exact .told rfl (hdelivering.happen [.wrote text] [] rfl) hlike hknown rfl hshown
  | error p => exact .unshown rfl hdelivering hlike hknown hshown

theorem matches_fail_warning {f : Fault} (hkind : f.kind.isWarning = true) :
    Matches false false s t (within u (fail start f)) (within v (fail start f)) := by
  have hdelivering := h.delivering (h.completed_alike f)
  have hwarned : ∀ events, events.filter Event.isCall = [] → Twins
      { u.delivering (u.completed f) with
        events := events ++ (u.delivering (u.completed f)).events }
      { v.delivering (v.completed f) with
        events := .warned (v.completed f) :: (v.delivering (v.completed f)).events } :=
    fun events hevents => hdelivering.happen events [_] hevents.symm
  rw [within_fail_shown h.silent h.shell, within_fail_passed h.unheard h.hidden]
  dsimp only
  rw [if_pos hkind]
  cases hshown : Fault.shown u.host u.terminal (u.completed f) with
  | ok text => exact .same (hwarned [.wrote text] rfl) nofun nofun
  | error p => exact .unwarned rfl (hwarned [] rfl) hshown

-- =================================================================== runs

theorem matches_invoke (depth : Nat) (line : String) (c : Command (Program σ)) (role : Role)
    {routine : List Object → Program σ} {objects : List Object}
    (hroutine : (routine objects).Unaware) :
    Matches false true s t (within u (invoke (Session.start depth) line c role routine objects))
      (within v (invoke (Session.start depth) line c role routine objects)) := by
  have hcalling : Twins (calling u c role objects) (calling v c role objects) := h.note _
  have hcalled := hroutine.parallel depth hcalling
  rw [within_invoke, within_invoke]
  rcases hu : within (calling u c role objects) (Session.start depth (routine objects)) with
    ⟨e | r, u'⟩
  · obtain ⟨v', hv, htwins⟩ := hcalled.exists_within hu
    rw [hv]
    show Matches false true s t (if e.isCaught = true then _ else _)
      (if e.isCaught = true then _ else _)
    split
    · rw [htwins.host]
      exact matches_fail htwins rfl
    · next hpasses =>
      refine matches_raised htwins ?_
      rintro f rfl
      exact hpasses rfl
  · obtain ⟨v', hv, htwins⟩ := hcalled.exists_within hu
    rw [hv]
    exact .same htwins nofun nofun

theorem matches_call (depth : Nat) (line : String) {c : Command (Program σ)} (hc : c.Unaware)
    (arguments : List (String × Parameter)) :
    Matches false true s t (within u (call (Session.start depth) line c arguments))
      (within v (call (Session.start depth) line c arguments)) := by
  have hall := parallel_coerceAll depth arguments h 1
  rcases hu : within u (coerceAll (Session.start depth) 1 arguments) with ⟨e | f | objects, u'⟩
  · obtain ⟨v', hv, htwins⟩ := hall.exists_within hu
    have hpasses := isCaught_of_coerceAll_eq_error hu
    unfold call
    rw [within_bind, within_bind, hu, hv]
    refine matches_raised htwins ?_
    rintro f rfl
    cases hpasses
  · obtain ⟨v', hv, htwins⟩ := hall.exists_within hu
    rw [within_call_error _ hu, within_call_error _ hv]
    unfold coercionFault
    rw [htwins.host]
    exact matches_fail htwins (Fault.isWarning_ofCoercion _ _ _)
  · obtain ⟨v', hv, htwins⟩ := hall.exists_within hu
    rw [within_call_ok _ hu, within_call_ok _ hv]
    exact matches_invoke htwins depth line c .callback (hc.callback objects)

theorem matches_runLine (depth : Nat) (line : String) :
    Matches false true s t (within u (runLine (Session.start depth) line))
      (within v (runLine (Session.start depth) line)) := by
  have hbegun : Twins (begun u line) (begun v line) :=
    { h with
      history := by
        show v.history.record (v.registry.recordedName line) line = _
        rw [h.history, h.registry]
        rfl
      fault? := .none
      calls := h.calls }
  rw [within_runLine, within_runLine, h.registry]
  rcases u.registry.dispatch_cases line with ⟨-, hdispatch⟩ | ⟨c, hfind, hdispatch⟩
  · rw [hdispatch, within_follow, within_follow]
    dsimp only
    rw [hbegun.host, hbegun.registry]
    exact matches_fail hbegun rfl
  · have hc := h.unawareCommands c (Registry.mem_commands_of_find? hfind)
    rw [hdispatch, within_follow, within_follow]
    rcases Registry.request_cases c (Line.tokens line) with
      ⟨-, -, hrequest⟩ | ⟨routine, hasks, hrequest⟩ | ⟨arguments, -, hrequest⟩
    · rw [hrequest]
      dsimp only
      rw [hbegun.host]
      exact matches_fail hbegun rfl
    · rw [hrequest]
      cases hasks with
      | default hroutine _ =>
          exact matches_invoke hbegun depth line c .default (hc.default routine hroutine [])
    · rw [hrequest]
      exact matches_call hbegun depth line hc arguments

theorem matches_run (depth : Nat) (line : Object) :
    Matches false true u v (within u (run (Session.start depth) line))
      (within v (run (Session.start depth) line)) := by
  cases line with
  | text line =>
      by_cases hline : line = ""
      · subst hline
        exact .same h nofun nofun
      · rw [within_run _ u hline, within_run _ v hline]
        exact matches_runLine h depth line
  | _ => exact .same h nofun nofun

theorem matches_submit (depth : Nat) (text : Object) :
    Matches false true u v (within u (submit (Session.start depth) text))
      (within v (submit (Session.start depth) text)) := by
  cases text with
  | text text =>
      rw [within_submit, within_submit]
      split
      · exact .same h nofun fun _ _ => ⟨rfl, rfl⟩
      · exact matches_runLine h depth _
  | _ => exact .same h nofun nofun

-- ============================================================ registration

theorem matches_register (depth : Nat) {candidate : CommandCandidate (Program σ)}
    {development : Bool} (hop : (Operation.register candidate development).Unaware) :
    Matches false false s t (within u (register (Session.start depth) candidate development))
      (within v (register (Session.start depth) candidate development)) := by
  cases candidate with
  | object x => exact .same h nofun nofun
  | command c =>
      have hdevelopment : v.settings.development = u.settings.development := by
        rw [h.settings]
      by_cases hfree : u.registry.conflicts c.outline = []
      · have hcommands : ∀ d ∈ (u.registry.insert c true).2.commands, d.Unaware := by
          intro d hd
          rcases Registry.mem_commands_insert hd with hd | rfl
          · exact h.unawareCommands d hd
          · exact hop.kept true
        rw [within_register_free _ hfree, within_register_free _ (h.registry ▸ hfree),
          hdevelopment, h.registry]
        split
        · exact .same h nofun nofun
        · exact .same (h.registered hcommands) nofun nofun
      · have hwarning : v.warningAbout c = u.warningAbout c := by
          unfold warningAbout
          rw [h.host, h.registry]
        rw [within_register_conflict _ hfree, within_register_conflict _ (h.registry ▸ hfree),
          hdevelopment, hwarning]
        split
        · exact .same h nofun nofun
        · exact matches_fail_warning h rfl

theorem matches_registerType (depth : Nat) {type : Ty} {candidate : ParserCandidate (Program σ)}
    {default? : Option Object} (hop : (Operation.registerType type candidate default?).Unaware) :
    Matches false false s t
      (within u (registerType (Session.start depth) type candidate default?))
      (within v (registerType (Session.start depth) type candidate default?)) := by
  unfold registerType
  rw [within_bind_ok (within_session u), within_bind_ok (within_session v), h.parsers, h.host]
  cases hregister : u.parsers.register type candidate default? with
  | error p => exact .same h nofun nofun
  | ok result =>
      obtain ⟨added, parsers⟩ := result
      rw [within_bind_ok (within_ofExcept_ok u _), within_bind_ok (within_ofExcept_ok v _)]
      cases added with
      | false => exact matches_fail_warning h rfl
      | true =>
          have hparsers : ∀ e ∈ parsers.entries, ∀ token, (e.parse token).Unaware := by
            obtain ⟨parse, rfl, rfl⟩ := Parsers.exists_of_register_eq_ok_true hregister
            exact List.forall_mem_append.2 ⟨h.unawareParsers, List.forall_mem_singleton.2 hop⟩
          exact .same (h.typed hparsers) nofun nofun

theorem matches_remove (name : Object) :
    Matches false false s t (within u (remove name)) (within v (remove name)) := by
  cases name with
  | text spelling =>
      by_cases hempty : spelling = ""
      · have hrefused : ∀ w : Session σ, within w (remove (.text ""))
            = (.error (.problem (.emptyText "remove()")), w) := fun _ => rfl
        rw [hempty, hrefused, hrefused]
        exact .same h nofun nofun
      · have hcommands : ∀ c ∈ (u.registry.erase spelling).2.commands, c.Unaware :=
          fun c hc => h.unawareCommands c (Registry.mem_commands_erase hc)
        rw [within_remove u hempty, within_remove v hempty, h.registry]
        exact .same (h.registered hcommands) nofun nofun
  | _ => exact .same h nofun nofun

end

-- ============================================================== operations

/-- Warnings about an expression are given one after the other. -/
theorem within_cautions (cautions : List Caution) :
    ∀ s : Session σ, within s (cautions.forM fun c => note (.cautioned c))
      = (.ok (), { s with events := (cautions.map Event.cautioned).reverse ++ s.events }) := by
  induction cautions with
  | nil => exact fun _ => rfl
  | cons c rest ih =>
      intro s
      refine (within_bind_ok (within_note s (.cautioned c)) _).trans ((ih _).trans ?_)
      rw [List.map_cons, List.reverse_cons, List.append_assoc]
      rfl

/-- An operation that is performed in twins leaves twins, and its ends fit
together. -/
theorem matches_perform (h : Twins s t) (depth : Nat) {op : Operation (Program σ)}
    (hop : op.Unaware) :
    Matches (.flag false) op.asksForRun s t (within s (perform (start depth) op))
      (within t (perform (start depth) op)) := by
  cases op with
  | run line =>
      rw [within_perform_run, within_perform_run]
      exact (matches_run h depth line).flagged
  | submit text =>
      rw [within_perform_submit, within_perform_submit]
      exact (matches_submit h depth text).flagged
  | register candidate development =>
      rw [within_perform_register, within_perform_register]
      exact (matches_register h depth hop).flagged
  | remove name =>
      rw [within_perform_remove, within_perform_remove]
      exact (matches_remove h name).flagged
  | registerType type candidate default? =>
      rw [within_perform_registerType, within_perform_registerType]
      exact (matches_registerType h depth hop).flagged
  | cycle direction =>
      rw [within_perform_cycle, within_perform_cycle, h.history]
      rcases s.history.cycle direction with p | ⟨line, history⟩
      · exact .same h nofun nofun
      · exact .same (h.walked history) nofun nofun
  | clearHistory =>
      have hcleared : Twins { s with history := s.history.clear, events := .cleared :: s.events }
          { t with history := t.history.clear, events := .cleared :: t.events } := by
        rw [h.history]
        exact (h.walked s.history.clear).note .cleared
      exact .same hcleared nofun nofun
  | warn cautions =>
      have hperform : ∀ w : Session σ, within w (perform (start depth) (.warn cautions))
          = (.ok .nothing,
            { w with events := (cautions.map Event.cautioned).reverse ++ w.events }) :=
        fun w => within_bind_ok (within_cautions cautions w) _
      rw [hperform, hperform]
      exact .same (h.happen _ _ rfl) nofun nofun
  | complete | hint | resolve | describe | overview | log | logAs | logVariable | logCollection
  | logSeparator | logCommand | logUsage | print | clear | fallback | trigger => cases hop

-- ================================================================== courses

/-- Twins stay twins, whatever operations are performed in both. -/
theorem Twins.after {ops : List (Operation (Program σ))} (hops : ∀ op ∈ ops, op.Unaware) :
    ∀ {s t : Session σ}, Twins s t → Twins (s.after ops) (t.after ops) := by
  induction ops with
  | nil => exact fun h => h
  | cons op rest ih =>
      rw [List.forall_mem_cons] at hops
      exact fun h => ih hops.2 (matches_perform h maxDepth hops.1).twins

/-- The settings of a console that is opened without its faults being
shown. -/
theorem settings_shell {options : ConsoleOptions} {settings : Settings}
    (h : options.settings = .ok settings) (shell : Object) :
    ConsoleOptions.settings { options with shell := shell }
        = .ok { settings with shell := shell.truthy }
      ∧ settings.shell = options.shell.truthy := by
  obtain ⟨name, hsettings⟩ := exists_settings_eq h
  obtain rfl := Except.ok.inj (h.symm.trans (hsettings options rfl rfl))
  exact ⟨hsettings _ rfl rfl, rfl⟩

/-- A console can also be opened without its faults being shown, and the two
are twins. -/
theorem exists_twin {options : ConsoleOptions} {shell : Object} {around : Surroundings σ}
    (hopen : openWith options around = .ok s) (hshown : options.shell.truthy = true)
    (hhidden : shell.truthy = false)
    (hclasses : ∀ home name arguments, (around.construct home name arguments).Unaware) :
    ∃ t, openWith { options with shell := shell } around = .ok t ∧ Twins s t := by
  obtain ⟨settings, history, hsettings, hhistory, rfl⟩ := exists_of_openWith_eq_ok hopen
  obtain ⟨htwin, hshell⟩ := settings_shell hsettings shell
  rw [hhidden] at htwin
  refine ⟨beginning { settings with shell := false } history options.builtins.truthy around,
    ?_, ?_⟩
  · exact openWith_eq_ok htwin hhistory around
  · exact
      { shell := hshell.trans hshown
        settings := rfl
        terminal := rfl
        host := rfl
        construct := rfl
        registry := rfl
        parsers := rfl
        history := rfl
        silent := rfl
        fallback? := rfl
        fault? := .none
        state := rfl
        calls := rfl
        unawareCommands := by
          intro c hc
          change c ∈ (if options.builtins.truthy = true then registryOf Builtin.commands
            else Registry.empty).commands at hc
          split at hc
          · exact Builtin.unaware_commands (mem_commands_registryOf hc)
          · cases hc
        unawareParsers := List.forall_mem_nil _
        unawareClasses := hclasses }

/-- Two consoles are opened alike, but that the first one shows its faults and
the second one does not. Then they agree in their commands, their parsers,
their history, their fault and the calls of host code, whatever operations are
performed in both, and each further operation ends in the two as `Matches`
says, if the host code does not depend on whether faults are shown. -/
theorem shells_agree {options : ConsoleOptions} {shell : Object} {around : Surroundings σ}
    {s₀ : Session σ} (hopen : openWith options around = .ok s₀)
    (hshown : options.shell.truthy = true) (hhidden : shell.truthy = false)
    (hclasses : ∀ home name arguments, (around.construct home name arguments).Unaware) :
    ∃ t₀, openWith { options with shell := shell } around = .ok t₀
      ∧ ∀ ops : List (Operation (Program σ)), (∀ op ∈ ops, op.Unaware) →
        Agree (s₀.after ops) (t₀.after ops)
          ∧ ∀ op : Operation (Program σ), op.Unaware →
            Matches (.flag false) op.asksForRun (s₀.after ops) (t₀.after ops)
              (operate (s₀.after ops) op) (operate (t₀.after ops) op) := by
  obtain ⟨t₀, htwin, htwins⟩ := exists_twin hopen hshown hhidden hclasses
  refine ⟨t₀, htwin, fun ops hops => ?_⟩
  have hafter := htwins.after hops
  exact ⟨hafter.agree, fun op hop => matches_perform hafter maxDepth hop⟩

/-- Two such consoles agree after a line that names no command, and after one
that was removed. -/
theorem shells_agree_nope :
    ∃ s₀ t₀ : Session Unit, openWith .standard .quiet = .ok s₀
      ∧ openWith { ConsoleOptions.standard with shell := .bool false } .quiet = .ok t₀
      ∧ let ops := [.run (.text "nope"), .remove (.text "print"), .run (.text "print it")]
        Agree (s₀.after ops) (t₀.after ops) := by
  obtain ⟨s₀, hopen⟩ : ∃ s₀, openWith .standard .quiet = .ok s₀ := ⟨_, rfl⟩
  have hhidden : (Object.bool false).truthy = false := rfl
  obtain ⟨t₀, htwin, hall⟩ := shells_agree hopen rfl hhidden fun _ _ _ => .done _
  refine ⟨s₀, t₀, hopen, htwin, (hall _ ?_).1⟩
  exact List.forall_mem_cons.2 ⟨trivial, List.forall_mem_cons.2
    ⟨trivial, List.forall_mem_singleton.2 trivial⟩⟩

/-- Host code that fails unless the console shows its faults. -/
def choosy : Program Unit :=
  .performing .overview fun
    | .overview o =>
        if o.settings.shell then .answer .nothing else .raise (.host "RuntimeError" none)
    | _ => .answer .nothing

/-- Two such consoles do not end a run alike if the host has a style that
cannot be read, nor if a callback or a class of the host depends on whether
the faults are shown. -/
theorem shells_differ :
    (∃ s₀ t₀, openWith bareOptions (styled [("prog-name", .text "rgb(,1,2)")]) = .ok s₀
        ∧ openWith { bareOptions with shell := .bool false }
            (styled [("prog-name", .text "rgb(,1,2)")]) = .ok t₀
        ∧ (operate s₀ (.run (.text "nope"))).1 = .error (.problem (.notInteger 10 ""))
        ∧ ∃ f, (operate t₀ (.run (.text "nope"))).1 = .error (.fault f)
          ∧ f.kind = .commandNotFound)
      ∧ (∃ s₀ t₀, openWith bareOptions .quiet = .ok s₀
        ∧ openWith { bareOptions with shell := .bool false } .quiet = .ok t₀
        ∧ let ops := [.register (.command ⟨⟨"cmd", [], "", [], true⟩, fun _ => choosy, none⟩) false]
          (operate (s₀.after ops) (.run (.text "cmd"))).1 = .ok (.flag true)
          ∧ ∃ f, (operate (t₀.after ops) (.run (.text "cmd"))).1 = .error (.fault f))
      ∧ ∃ s₀ t₀,
        let around := { Surroundings.quiet with construct := fun _ _ _ => choosy }
        openWith bareOptions around = .ok s₀
        ∧ openWith { bareOptions with shell := .bool false } around = .ok t₀
        ∧ let ops := [.register (.command (taking tagClass)) false]
          (operate (s₀.after ops) (.run (.text "cmd x"))).1 = .ok (.flag true)
          ∧ ∃ f, (operate (t₀.after ops) (.run (.text "cmd x"))).1 = .error (.fault f) :=
  ⟨⟨_, _, rfl, rfl, rfl, _, rfl, rfl⟩, ⟨_, _, rfl, rfl, rfl, _, rfl⟩, _, _, rfl, rfl, rfl, _, rfl⟩

end Session

end CommandConsole
