/-
Two consoles side by side, of which one shows its faults.

The two are twins if they differ in nothing that unaware host code can tell:
only in whether the faults are shown, in where the known fault was delivered,
and in the events that are no calls of host code (`Twins`). An action that is
done in both is parallel if it ends in the same way in both and leaves twins
(`Parallel`). What is parallel can be put together from what is parallel, and
so everything is that does not report a fault: what looks something up
(`parallel_perform`), host code that is unaware (`Program.Unaware.parallel`),
and the conversion of arguments by such host code (`parallel_coerceAll`).
-/
import CommandConsole.Proofs.Parsers.Route
import CommandConsole.Proofs.Session.Unaware

namespace CommandConsole

/-- Host code was called. -/
def Event.isCall : Event → Bool
  | .parsed _ _ | .constructed _ _ _ | .invoked _ _ _ => true
  | _ => false

namespace Session

open CommandConsole.Action

variable {σ α β : Type}

/-- The calls of host code in a session, the latest one first. -/
def calls (s : Session σ) : List Event := s.events.filter Event.isCall

/-- Two sessions agree in what a console is about. -/
structure Agree (s t : Session σ) : Prop where
  registry : t.registry = s.registry
  parsers : t.parsers = s.parsers
  history : t.history = s.history
  fault? : Option.Rel Fault.Alike s.fault? t.fault?
  calls : t.calls = s.calls

/-- Two sessions without a receiver, of which the first one shows its faults
and the other one does not. They are the same otherwise, as far as unaware
host code can tell, and they have no other host code. -/
structure Twins (s t : Session σ) : Prop where
  shell : s.settings.shell = true
  settings : t.settings = { s.settings with shell := false }
  terminal : t.terminal = s.terminal
  host : t.host = s.host
  construct : t.construct = s.construct
  registry : t.registry = s.registry
  parsers : t.parsers = s.parsers
  history : t.history = s.history
  silent : s.fallback? = none
  fallback? : t.fallback? = s.fallback?
  fault? : Option.Rel Fault.Alike s.fault? t.fault?
  state : t.state = s.state
  calls : t.calls = s.calls
  unawareCommands : ∀ c ∈ s.registry.commands, c.Unaware
  unawareParsers : ∀ e ∈ s.parsers.entries, ∀ token, (e.parse token).Unaware
  unawareClasses : ∀ home name arguments, (s.construct home name arguments).Unaware

variable {s t : Session σ}

namespace Twins

variable (h : Twins s t)

include h

theorem agree : Agree s t :=
  { h with }

theorem hidden : t.settings.shell = false := by
  rw [h.settings]

theorem unheard : t.fallback? = none := h.fallback?.trans h.silent

theorem colorful : t.settings.colorful = s.settings.colorful := by
  rw [h.settings]

theorem overview_alike : s.overview.Alike t.overview where
  settings := congrArg (fun o : Settings => { o with shell := false }) h.settings.symm
  commands := congrArg Registry.outlines h.registry.symm
  parsers := congrArg (fun ps : Parsers (Program σ) => ps.entries.length) h.parsers.symm
  history := h.history.symm
  fault? := h.fault?

/-- Things may happen in twins, if the same calls of host code are among
them. -/
theorem happen (since later : List Event)
    (hsame : later.filter Event.isCall = since.filter Event.isCall) :
    Twins { s with events := since ++ s.events } { t with events := later ++ t.events } :=
  { h with
    calls := by
      show (later ++ t.events).filter Event.isCall = (since ++ s.events).filter Event.isCall
      rw [List.filter_append, List.filter_append, hsame]
      exact congrArg (since.filter Event.isCall ++ ·) h.calls }

theorem note (e : Event) :
    Twins { s with events := e :: s.events } { t with events := e :: t.events } :=
  h.happen [e] [e] rfl

theorem registered {registry : Registry (Program σ)} (hnew : ∀ c ∈ registry.commands, c.Unaware) :
    Twins { s with registry := registry } { t with registry := registry } :=
  { h with
    registry := rfl
    unawareCommands := hnew }

theorem typed {parsers : Parsers (Program σ)}
    (hnew : ∀ e ∈ parsers.entries, ∀ token, (e.parse token).Unaware) :
    Twins { s with parsers := parsers } { t with parsers := parsers } :=
  { h with
    parsers := rfl
    unawareParsers := hnew }

theorem walked (history : History) :
    Twins { s with history := history } { t with history := history } :=
  { h with history := rfl }

end Twins

-- ================================================================ parallels

/-- Two actions that are done in two sessions end in the same way, and leave
twins. -/
structure Parallel (s t : Session σ) (a b : Action σ α) : Prop where
  outcome : (within t b).1 = (within s a).1
  twins : Twins (within s a).2 (within t b).2

theorem parallel_pure (h : Twins s t) (x : α) : Parallel s t (pure x) (pure x) := ⟨rfl, h⟩

theorem parallel_throw (h : Twins s t) (e : Raised) :
    Parallel s t (throw e : Action σ α) (throw e) := ⟨rfl, h⟩

theorem parallel_note (h : Twins s t) (e : Event) : Parallel s t (note e) (note e) :=
  ⟨rfl, h.note e⟩

theorem parallel_session_bind {f g : Session σ → Action σ β} (h : Parallel s t (f s) (g t)) :
    Parallel s t (session >>= f) (session >>= g) := ⟨h.outcome, h.twins⟩

theorem parallel_ofExcept_bind (hst : Twins s t) {result : Except Problem α}
    {f g : α → Action σ β} (h : ∀ x, result = .ok x → Parallel s t (f x) (g x)) :
    Parallel s t (ofExcept result >>= f) (ofExcept result >>= g) := by
  cases result with
  | ok x => exact ⟨(h x rfl).outcome, (h x rfl).twins⟩
  | error p => exact ⟨rfl, hst⟩

/-- Actions are parallel if they do what parallel ones do. -/
theorem Parallel.of_eq {s' t' : Session σ} {a b a' b' : Action σ α} (h : Parallel s' t' a' b')
    (hs : within s a = within s' a') (ht : within t b = within t' b') : Parallel s t a b := by
  constructor
  · rw [hs, ht]
    exact h.outcome
  · rw [hs, ht]
    exact h.twins

/-- How an action ends in the second of two sessions, if it is parallel to one
that ends in the first. -/
theorem Parallel.exists_within {a b : Action σ α} (h : Parallel s t a b)
    {outcome : Except Raised α} {u : Session σ} (hs : within s a = (outcome, u)) :
    ∃ v, within t b = (outcome, v) ∧ Twins u v := by
  obtain ⟨houtcome, htwins⟩ := h
  rw [hs] at houtcome htwins
  exact ⟨(within t b).2, Prod.ext houtcome rfl, htwins⟩

theorem Parallel.bind {a b : Action σ α} {f g : α → Action σ β} (h : Parallel s t a b)
    (hnext : ∀ x {u v}, Twins u v → Parallel u v (f x) (g x)) :
    Parallel s t (a >>= f) (b >>= g) := by
  rcases hs : within s a with ⟨e | x, u⟩
  · obtain ⟨v, ht, htwins⟩ := h.exists_within hs
    constructor
    · rw [within_bind, within_bind, hs, ht]
    · rw [within_bind, within_bind, hs, ht]
      exact htwins
  · obtain ⟨v, ht, htwins⟩ := h.exists_within hs
    have hlast := hnext x htwins
    constructor
    · rw [within_bind_ok hs, within_bind_ok ht]
      exact hlast.outcome
    · rw [within_bind_ok hs, within_bind_ok ht]
      exact hlast.twins

/-- An action whose answer is passed on in another form. -/
theorem Parallel.bind_pure {a b : Action σ α} (h : Parallel s t a b) (f : α → β) :
    Parallel s t (a >>= fun x => pure (f x)) (b >>= fun x => pure (f x)) :=
  h.bind fun x _ _ huv => parallel_pure huv (f x)

theorem parallel_attempt {a b : Action σ α} (h : Parallel s t a b) :
    Parallel s t (attempt a) (attempt b) :=
  ⟨congrArg Except.ok h.outcome, h.twins⟩

-- ================================================================== output

theorem parallel_print (h : Twins s t) (text : Display.Styled) :
    Parallel s t (print text) (print text) := by
  refine parallel_session_bind ?_
  rw [h.terminal]
  exact parallel_ofExcept_bind h fun _ _ => parallel_note h _

theorem logStyle_eq (h : Twins s t) (part : String) : t.logStyle part = s.logStyle part := by
  unfold logStyle
  rw [h.colorful, h.host]

theorem parallel_log (h : Twins s t) (message : Object) (style? : Option Object) :
    Parallel s t (log message style?) (log message style?) := by
  refine parallel_session_bind ?_
  rw [h.colorful]
  exact parallel_print h _

theorem parallel_logAs (h : Twins s t) (kind : LogKind) (message : Object) :
    Parallel s t (logAs kind message) (logAs kind message) := by
  refine parallel_session_bind ?_
  rw [logStyle_eq h]
  exact parallel_log h _ _

theorem parallel_logCollection (h : Twins s t) (items : Object)
    (format : Object → Except Raised Object) (opening closing : Object) :
    Parallel s t (logCollection items format opening closing)
      (logCollection items format opening closing) := by
  unfold logCollection
  cases collectionLines items format opening closing with
  | ok lines => exact parallel_log h _ _
  | error e => exact parallel_throw h e

theorem parallel_logSeparator (h : Twins s t) (message? : Option Object) :
    Parallel s t (logSeparator message?) (logSeparator message?) := by
  cases message? with
  | none => exact parallel_log h _ _
  | some message =>
      refine parallel_session_bind ?_
      rw [logStyle_eq h]
      exact parallel_print h _

theorem parallel_logUsage (h : Twins s t) (opening : String) (o : Outline) (closing : String) :
    Parallel s t (logUsage opening o closing) (logUsage opening o closing) := by
  refine parallel_session_bind ?_
  rw [h.colorful]
  exact parallel_print h _

theorem parallel_logCommand (h : Twins s t) (name? : Option Object) :
    Parallel s t (logCommand name?) (logCommand name?) := by
  refine parallel_session_bind ?_
  rw [h.history, h.registry]
  refine parallel_ofExcept_bind h fun spelling _ => ?_
  cases s.registry.find? spelling with
  | some c => exact parallel_logUsage h _ _ _
  | none => exact parallel_pure h ()

theorem parallel_clear (h : Twins s t) : Parallel s t clear clear := by
  refine parallel_session_bind ?_
  rw [h.terminal]
  show Parallel s t (if _ then _ else _) (if _ then _ else _)
  split
  · exact parallel_pure h ()
  · exact parallel_note h _

theorem parallel_resolve (h : Twins s t) (name : Object) :
    Parallel s t (resolve name) (resolve name) := by
  refine parallel_ofExcept_bind h fun spelling _ => parallel_session_bind ?_
  rw [h.registry]
  exact parallel_pure h _

/-- What looks something up or writes to the output is parallel. -/
theorem parallel_perform (start : Program σ → Action σ Reply) {op : Operation (Program σ)}
    (hop : op.LooksUp) (h : Twins s t) : Parallel s t (perform start op) (perform start op) := by
  cases op with
  | complete typed =>
      refine parallel_session_bind ?_
      rw [h.registry]
      exact parallel_ofExcept_bind h fun _ _ => parallel_pure h _
  | hint text =>
      refine parallel_ofExcept_bind h fun _ _ => parallel_session_bind ?_
      rw [h.registry]
      exact parallel_pure h _
  | resolve name =>
      refine (parallel_resolve h name).bind fun found _ _ huv => ?_
      cases found with
      | none => exact parallel_pure huv _
      | some c => exact parallel_pure huv _
  | describe name =>
      refine parallel_session_bind ?_
      rw [h.registry]
      exact parallel_ofExcept_bind h fun _ _ => parallel_pure h _
  | log message style? => exact (parallel_log h message style?).bind_pure _
  | logAs kind message => exact (parallel_logAs h kind message).bind_pure _
  | logVariable name value suffix => exact (parallel_log h _ none).bind_pure _
  | logCollection items format opening closing =>
      exact (parallel_logCollection h items format opening closing).bind_pure _
  | logSeparator message? => exact (parallel_logSeparator h message?).bind_pure _
  | logCommand name? => exact (parallel_logCommand h name?).bind_pure _
  | logUsage opening o closing => exact (parallel_logUsage h opening o closing).bind_pure _
  | print text => exact (parallel_print h text).bind_pure _
  | clear => exact (parallel_clear h).bind_pure _
  | run | submit | cycle | clearHistory | register | remove | registerType | warn | overview
  | fallback | trigger => cases hop

end Session

-- =============================================================== host code

open Session CommandConsole.Action

variable {σ : Type} {s t : Session σ}

/-- Unaware host code is parallel. -/
theorem Program.Unaware.parallel {p : Program σ} (h : p.Unaware) (depth : Nat) :
    ∀ {s t : Session σ}, Twins s t → Parallel s t (start depth p) (start depth p) := by
  cases depth with
  | zero => exact fun hst => ⟨rfl, hst⟩
  | succ depth =>
      simp only [start_succ]
      induction h with
      | done outcome =>
          intro s t hst
          have hdone : ∀ u : Session σ,
              within u ((Program.done outcome).execute (Session.perform (Session.start depth)))
                = (outcome, u) := fun u => within_execute_done _ u outcome
          exact ⟨by rw [hdone, hdone], by rwa [hdone, hdone]⟩
      | read _ ih =>
          intro s t hst
          refine parallel_session_bind ?_
          rw [hst.state]
          exact ih s.state hst
      | write state _ ih =>
          intro s t hst
          have hstored : Twins { s with state := state } { t with state := state } :=
            { hst with state := rfl }
          exact (ih hstored).of_eq (within_execute_write _ s state _)
            (within_execute_write _ t state _)
      | perform hop _ ih =>
          intro s t hst
          obtain ⟨houtcome, htwins⟩ := parallel_perform (Session.start depth) hop hst
          refine (ih _ htwins).of_eq (within_execute_perform _ s _ _) ?_
          rw [within_execute_perform, houtcome]
      | @overview next _ hsame ih =>
          intro s t hst
          refine (ih (.ok (.overview s.overview)) hst).of_eq (within_execute_perform _ s _ next) ?_
          rw [hsame hst.overview_alike]
          exact within_execute_perform _ t _ next

namespace Session

-- ============================================================== conversions

theorem parallel_converted (h : Twins s t) (depth : Nat) (c : Conversion) :
    Parallel s t (converted (start depth) c) (converted (start depth) c) := by
  cases c with
  | object x => exact parallel_pure h x
  | problem q => exact parallel_throw h _
  | host home name arguments =>
      refine (parallel_note h _).bind fun _ u v huv => parallel_session_bind ?_
      rw [huv.construct]
      exact ((huv.unawareClasses home name arguments).parallel depth huv).bind_pure _

theorem parallel_coerce (h : Twins s t) (depth : Nat) (token : String) (p : Parameter) :
    Parallel s t (coerce (start depth) token p) (coerce (start depth) token p) := by
  refine parallel_session_bind ?_
  rw [h.parsers]
  refine parallel_ofExcept_bind h fun route hroute => ?_
  cases route with
  | absent => exact parallel_pure h _
  | unknown => exact parallel_throw h _
  | convert c => exact (parallel_converted h depth c).bind_pure _
  | parse program =>
      obtain ⟨e, he, rfl⟩ := Parsers.exists_of_route_eq_parse hroute
      have hprogram := h.unawareParsers e he token
      exact (parallel_note h _).bind fun _ _ _ huv => (hprogram.parallel depth huv).bind_pure _

/-- The conversion of arguments is parallel. -/
theorem parallel_coerceAll (depth : Nat) (arguments : List (String × Parameter)) :
    ∀ {s t : Session σ}, Twins s t → ∀ index,
      Parallel s t (coerceAll (start depth) index arguments)
        (coerceAll (start depth) index arguments) := by
  induction arguments with
  | nil => exact fun h _ => parallel_pure h _
  | cons a rest ih =>
      intro s t h index
      refine (parallel_attempt (parallel_coerce h depth a.1 a.2)).bind fun outcome _ _ huv => ?_
      cases outcome with
      | ok value => exact (ih huv (index + 1)).bind_pure _
      | error e =>
          show Parallel _ _ (if e.isCaught = true then _ else _)
            (if e.isCaught = true then _ else _)
          split
          · exact parallel_pure huv _
          · exact parallel_throw huv e

end Session

end CommandConsole
