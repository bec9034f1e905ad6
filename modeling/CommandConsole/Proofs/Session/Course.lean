/-
The course of a session.

Whatever is done in a session, by the one who types or by host code, with
operations inside operations, comes down to a few elementary changes, one
after the other: a run begins, the history is cleared or walked, a command
comes or goes, a parser comes, a fault is delivered, the receiver of the
faults is replaced, host code changes its state, or something happens that
shows in the events alone (`Change`). A course is a row of such changes.

# From the changes to the operations

`Leads` says of an action that it takes a session along a course, however
the action ends. Every stage of every operation does if the host code that
it calls does (`leads_perform`), and a program of a host does if the
operations that it asks for do (`leads_execute`). Host code inside host code
is an induction on the depth (`leads_start`). So every operation takes a
session along a course (`course_perform`), and so does every row of
operations (`course_after`).

# What a course is good for

What each change keeps holds at every moment of a session
(`Course.induction`): after every operation, and also before each operation
that host code asks for while another one is under way, since the part of a
course that has been gone by then is a course. No later proof about whole
sessions looks at an operation again.
-/
import Mathlib.Logic.Relation
import CommandConsole.Console
import CommandConsole.Proofs.Command.Identifiers
import CommandConsole.Proofs.Session.Looking
import CommandConsole.Proofs.Session.Reporting

namespace CommandConsole

/-- An event that goes along with no change of the console: it tells what
host code was called with and what went to the output or to the one who
listens for warnings. -/
def Event.isPlain : Event → Bool
  | .began _ _ | .cleared | .delivered _ => false
  | _ => true

/-- What surrounds a console whose host settles nothing and has no state. -/
def Surroundings.quiet : Surroundings Unit :=
  ⟨⟨80, false⟩, .quiet, fun _ _ _ => .answer .nothing, ()⟩

namespace Session

open CommandConsole.Action

variable {σ α β : Type}

-- ================================================================= changes

/-- An elementary change of a session. -/
inductive Change : Session σ → Session σ → Prop
  /-- Something happened that shows in the events alone. -/
  | noted (s : Session σ) {e : Event} (h : e.isPlain = true) :
      Change s { s with events := e :: s.events }
  | began (s : Session σ) {line : String} (h : line ≠ "") : Change s (begun s line)
  | cleared (s : Session σ) :
      Change s { s with history := s.history.clear, events := .cleared :: s.events }
  | walked (s : Session σ) {direction : Object} {line : String} {history : History}
      (h : s.history.cycle direction = .ok (line, history)) :
      Change s { s with history := history }
  | registered (s : Session σ) (c : Command (Program σ)) :
      Change s { s with registry := (s.registry.insert c true).2 }
  | removed (s : Session σ) (spelling : String) :
      Change s { s with registry := (s.registry.erase spelling).2 }
  | typed (s : Session σ) {type : Ty} {candidate : ParserCandidate (Program σ)}
      {default? : Option Object} {parsers : Parsers (Program σ)}
      (h : s.parsers.register type candidate default? = .ok (true, parsers)) :
      Change s { s with parsers := parsers }
  | delivered (s : Session σ) (f : Fault) : Change s (delivering s f)
  | redirected (s : Session σ) (fallback? : Option (Fault → Program σ)) :
      Change s { s with fallback? := fallback? }
  /-- Host code changed its state. -/
  | stored (s : Session σ) (state : σ) : Change s { s with state := state }

/-- A later session comes of an earlier one by elementary changes. -/
abbrev Course : Session σ → Session σ → Prop := Relation.ReflTransGen Change

/-- What the elementary changes keep holds all along a course. -/
theorem Course.induction {P : Session σ → Prop} {s t : Session σ} (h : Course s t) (hs : P s)
    (hchange : ∀ u v, Change u v → P u → P v) : P t := by
  induction h with
  | refl => exact hs
  | tail _ hstep ih => exact hchange _ _ hstep ih

-- ================================================================= opening

/-- A console opens with settings and a history that its options make. -/
theorem exists_of_openWith_eq_ok {options : ConsoleOptions} {around : Surroundings σ}
    {s : Session σ} (h : openWith options around = .ok s) :
    ∃ settings history, options.settings = .ok settings
      ∧ History.ofLength options.history = .ok history
      ∧ s = beginning settings history options.builtins.truthy around := by
  obtain ⟨settings, hsettings, h⟩ := exists_of_bind_eq_ok h
  obtain ⟨history, hhistory, h⟩ := exists_of_bind_eq_ok h
  exact ⟨settings, history, hsettings, hhistory, (Except.ok.inj h).symm⟩

theorem openWith_eq_ok {options : ConsoleOptions} {settings : Settings} {history : History}
    (hsettings : options.settings = .ok settings)
    (hhistory : History.ofLength options.history = .ok history) (around : Surroundings σ) :
    openWith options around = .ok (beginning settings history options.builtins.truthy around) := by
  unfold openWith
  rw [hsettings, hhistory]
  rfl

/-- A console takes its name and its output as they are given or not at all, and
any other option by whether it counts as true. -/
theorem exists_settings_eq {options : ConsoleOptions} {settings : Settings}
    (h : options.settings = .ok settings) :
    ∃ name, ∀ others : ConsoleOptions, others.name = options.name →
      others.output? = options.output? →
        others.settings = .ok ⟨name, others.shell.truthy, others.fancy.truthy,
          others.colorful.truthy, others.development.truthy⟩ := by
  unfold ConsoleOptions.settings at h
  cases hname : options.name with
  | text name =>
      rw [hname] at h
      dsimp only at h
      split at h
      · cases h
      · next htrimmed =>
        split at h
        · cases h
        · next houtput =>
          refine ⟨Text.trim name, fun others hsame houtput' => ?_⟩
          unfold ConsoleOptions.settings
          rw [hsame, houtput']
          dsimp only
          rw [if_neg htrimmed, if_neg houtput]
          rfl
  | _ =>
      rw [hname] at h
      cases h

-- ================================================================= actions

/-- An action takes the session that it is done in along a course. -/
def Leads (s : Session σ) (a : Action σ α) : Prop := Course s (within s a).2

variable {s : Session σ}

theorem leads_pure (x : α) : Leads s (pure x : Action σ α) := .refl

theorem leads_throw (e : Raised) : Leads s (throw e : Action σ α) := .refl

theorem leads_refuse (p : Problem) : Leads s (refuse p : Action σ α) := .refl

theorem leads_session_bind {f : Session σ → Action σ β} (h : Leads s (f s)) :
    Leads s (session >>= f) := h

theorem leads_modify {change : Session σ → Session σ} (h : Change s (change s)) :
    Leads s (modify change : Action σ Unit) := .single h

theorem leads_note {e : Event} (h : e.isPlain = true) : Leads s (note e) :=
  .single (.noted s h)

/-- The second of two actions goes on with the course of the first one. -/
theorem Leads.bind {a : Action σ α} {f : α → Action σ β} (ha : Leads s a)
    (hf : ∀ x t, within s a = (.ok x, t) → Leads t (f x)) : Leads s (a >>= f) := by
  unfold Leads at ha ⊢
  rw [within_bind]
  split
  · next x t hs =>
    rw [hs] at ha
    exact ha.trans (hf x t hs)
  · next e t hs =>
    rw [hs] at ha
    exact ha

theorem Leads.map {a : Action σ α} (ha : Leads s a) (f : α → β) : Leads s (f <$> a) := by
  unfold Leads
  rw [within_map]
  exact ha

theorem Leads.attempt {a : Action σ α} (ha : Leads s a) : Leads s (attempt a) := ha

/-- An action whose answer is passed on in another form. -/
theorem Leads.bind_pure {a : Action σ α} (ha : Leads s a) (f : α → β) :
    Leads s (a >>= fun x => pure (f x)) :=
  ha.bind fun x _ _ => leads_pure (f x)

theorem leads_ofExcept_bind {result : Except Problem α} {f : α → Action σ β}
    (h : ∀ x, Leads s (f x)) : Leads s (ofExcept result >>= f) := by
  cases result with
  | ok x => exact h x
  | error p => exact .refl

-- ================================================================== output

theorem course_wrote (s : Session σ) (texts : List String) :
    Course s (s.onward s.state (texts.map .wrote)) := by
  induction texts with
  | nil => exact .refl
  | cons text rest ih => exact ih.tail (.noted _ rfl)

/-- What only looks something up and writes to the output leads along a
course. -/
theorem Looks.leads {a : Action σ α} (h : Looks s a) : Leads s a := by
  obtain ⟨outcome, texts, hs, -⟩ := h
  unfold Leads
  rw [hs]
  exact course_wrote s texts

theorem leads_logCollection (items : Object) (format : Object → Except Raised Object)
    (opening closing : Object) : Leads s (logCollection items format opening closing) := by
  unfold logCollection
  split
  · exact (looks_log _ _).leads
  · exact leads_throw _

-- ================================================================ delivery

theorem leads_surface (f : Fault) : Leads s (surface f) := by
  unfold Session.surface display
  have hprint : Leads s (printFault f) :=
    leads_session_bind (leads_ofExcept_bind fun _ => leads_note rfl)
  split
  · split
    · exact hprint
    · exact hprint
    · exact leads_refuse _
  · split
    · exact leads_note rfl
    · exact leads_throw _

theorem leads_setFallback (candidate : FallbackCandidate (Program σ)) :
    Leads s (setFallback candidate) := by
  unfold setFallback
  split
  · exact leads_modify (.redirected s _)
  · exact leads_modify (.redirected s _)
  · exact leads_refuse _

section

variable {start : Program σ → Action σ Reply} (hstart : ∀ s p, Leads s (start p))

include hstart

theorem leads_handOver (f : Fault) : Leads s (handOver start f) := by
  refine leads_session_bind ?_
  split
  · exact (hstart s _).map _
  · exact leads_surface f

theorem leads_trigger (f : Fault) (options : List (String × Detail Raised)) :
    Leads s (trigger start f options) := by
  cases hfull : f.replaceOf [] (FaultOf.merge s.settings.options options) with
  | error p =>
      refine leads_session_bind ?_
      rw [hfull]
      exact leads_refuse p
  | ok full =>
      unfold Leads
      rw [within_trigger start s hfull]
      exact Relation.ReflTransGen.head (.delivered s full)
        ((leads_handOver hstart full).bind_pure _)

/-- From the moment in which the fault of a report is delivered the report
goes along a course. -/
theorem course_fail (f : Fault) :
    Course (delivering s (s.completed f)) (within s (fail start f)).2 := by
  rw [within_fail]
  exact (leads_handOver hstart _).bind_pure _

theorem leads_fail (f : Fault) : Leads s (fail start f) :=
  Relation.ReflTransGen.head (.delivered s _) (course_fail hstart f)

-- ==================================================================== runs

theorem leads_converted (c : Conversion) : Leads s (converted start c) := by
  cases c with
  | object x => exact leads_pure x
  | problem p => exact leads_refuse p
  | host home name arguments =>
      exact (leads_note rfl).bind fun _ _ _ => leads_session_bind ((hstart _ _).bind_pure _)

theorem leads_coerce (token : String) (p : Parameter) : Leads s (coerce start token p) := by
  refine leads_session_bind (leads_ofExcept_bind fun route => ?_)
  cases route with
  | absent => exact leads_pure _
  | convert c => exact (leads_converted hstart c).bind_pure _
  | parse program => exact (leads_note rfl).bind fun _ _ _ => (hstart _ _).bind_pure _
  | unknown => exact leads_throw _

theorem leads_coerceAll (arguments : List (String × Parameter)) :
    ∀ (s : Session σ) (index : Nat), Leads s (coerceAll start index arguments) := by
  induction arguments with
  | nil => exact fun _ _ => leads_pure _
  | cons a rest ih =>
      intro s index
      refine (leads_coerce hstart a.1 a.2).attempt.bind fun outcome t _ => ?_
      cases outcome with
      | ok v => exact (ih t (index + 1)).bind_pure _
      | error e =>
          show Leads t (if e.isCaught = true then _ else _)
          split
          · exact leads_pure _
          · exact leads_throw _

theorem leads_invoke (line : String) (c : Command (Program σ)) (role : Role)
    (routine : List Object → Program σ) (arguments : List Object) :
    Leads s (invoke start line c role routine arguments) := by
  refine (leads_note rfl).bind fun _ t _ => ?_
  refine (hstart t _).attempt.bind fun outcome u _ => ?_
  cases outcome with
  | ok r => exact leads_pure true
  | error e =>
      show Leads u (if e.isCaught = true then _ else _)
      split
      · exact leads_session_bind (leads_fail hstart _)
      · exact leads_throw _

theorem leads_call (line : String) (c : Command (Program σ))
    (arguments : List (String × Parameter)) : Leads s (call start line c arguments) := by
  refine (leads_coerceAll hstart arguments s 1).bind fun outcome t _ => ?_
  cases outcome with
  | ok objects => exact leads_invoke hstart line c .callback c.callback objects
  | error f => exact leads_session_bind (leads_fail hstart _)

theorem leads_follow (line : String) (d : Dispatch (Program σ)) :
    Leads s (follow start line d) := by
  refine leads_session_bind ?_
  cases d with
  | unknown token => exact leads_fail hstart _
  | bare c routine => exact leads_invoke hstart line c .default routine []
  | mismatch c given => exact leads_fail hstart _
  | call c arguments => exact leads_call hstart line c arguments

theorem leads_runLine {line : String} (h : line ≠ "") : Leads s (runLine start line) := by
  unfold Leads
  rw [within_runLine]
  exact Relation.ReflTransGen.head (.began s h) (leads_follow hstart line _)

theorem leads_run (line : Object) : Leads s (run start line) := by
  refine leads_ofExcept_bind fun text => ?_
  split
  · exact leads_refuse _
  · next h => exact leads_runLine hstart h

theorem leads_submit (text : Object) : Leads s (submit start text) := by
  cases text with
  | text text =>
      unfold Leads
      rw [within_submit]
      split
      · exact .refl
      · next hblank =>
        exact leads_runLine hstart fun hempty => hblank (congrArg Text.isBlankText hempty)
  | _ => exact .refl

-- ============================================================ registration

theorem leads_register (candidate : CommandCandidate (Program σ)) (development : Bool) :
    Leads s (register start candidate development) := by
  cases candidate with
  | object x => exact leads_refuse _
  | command c =>
      refine leads_session_bind ?_
      show Leads s (if _ then _ else _)
      split
      · exact leads_pure false
      · show Leads s (if _ then _ else _)
        split
        · exact leads_fail hstart _
        · refine Leads.bind_pure (leads_modify ?_) _
          exact .registered s c

theorem leads_registerType (type : Ty) (candidate : ParserCandidate (Program σ))
    (default? : Option Object) : Leads s (registerType start type candidate default?) := by
  refine leads_session_bind ?_
  cases hregister : s.parsers.register type candidate default? with
  | error p => exact leads_refuse p
  | ok result =>
      rcases result with ⟨added, parsers⟩
      cases added with
      | true => exact .single (.typed s hregister)
      | false => exact leads_fail hstart _

omit hstart in
theorem leads_remove (name : Object) : Leads s (remove name) := by
  refine leads_ofExcept_bind fun spelling => ?_
  show Leads s (if _ then _ else _)
  split
  · exact leads_refuse _
  · have hremoved := Change.removed s spelling
    refine leads_session_bind ?_
    generalize s.registry.erase spelling = result at hremoved ⊢
    rcases result with ⟨gone, registry⟩
    exact .single hremoved

-- ============================================================== operations

omit hstart in
theorem leads_cautions (cautions : List Caution) :
    ∀ s : Session σ, Leads s (cautions.forM fun c => note (.cautioned c)) := by
  induction cautions with
  | nil => exact fun _ => leads_pure ()
  | cons c rest ih => exact fun _ => (leads_note rfl).bind fun _ t _ => ih t

/-- An operation takes a session along a course if the host code that it
calls does. -/
theorem leads_perform (op : Operation (Program σ)) : Leads s (perform start op) := by
  by_cases hlooks : op.OnlyLooks
  · exact (looks_perform start hlooks).leads
  cases op with
  | run line => exact (leads_run hstart line).bind_pure _
  | submit text => exact (leads_submit hstart text).bind_pure _
  | cycle direction =>
      refine leads_session_bind ?_
      cases hcycle : s.history.cycle direction with
      | error p => exact leads_refuse p
      | ok result => exact .single (.walked s hcycle)
  | clearHistory => exact .single (.cleared s)
  | register candidate development =>
      exact (leads_register hstart candidate development).bind_pure _
  | remove name => exact (leads_remove name).bind_pure _
  | registerType type candidate default? =>
      exact (leads_registerType hstart type candidate default?).bind_pure _
  | warn cautions => exact (leads_cautions cautions s).bind_pure _
  | fallback candidate => exact (leads_setFallback candidate).bind_pure _
  | trigger candidate options =>
      exact leads_ofExcept_bind fun f => (leads_trigger hstart f options).bind_pure _
  | logCollection items format opening closing =>
      exact (leads_logCollection items format opening closing).bind_pure _
  | complete | hint | resolve | describe | overview | log | logAs | logVariable | logSeparator
  | logCommand | logUsage | print | clear => exact absurd trivial hlooks

end

end Session

-- ================================================================ programs

open Session

variable {σ : Type}

/-- A program takes a session along a course if the operations that it asks
for do. -/
theorem Program.leads_execute {perform : Operation (Program σ) → Action σ Reply}
    (hperform : ∀ (s : Session σ) op, Leads s (perform op)) :
    ∀ (p : Program σ) (s : Session σ), Leads s (p.execute perform)
  | .done (.ok r), _ => leads_pure r
  | .done (.error e), _ => leads_throw e
  | .read next, s => leads_session_bind (leads_execute hperform (next s.state) s)
  | .write state next, s =>
      (leads_modify (.stored s state)).bind fun _ t _ => leads_execute hperform next t
  | .perform op next, s =>
      (hperform s op).attempt.bind fun outcome t _ => leads_execute hperform (next outcome) t

namespace Session

open CommandConsole.Action

/-- Host code takes a session along a course, however deep it calls host
code. -/
theorem leads_start (depth : Nat) : ∀ (s : Session σ) (p : Program σ), Leads s (start depth p) := by
  induction depth with
  | zero => exact fun _ _ => leads_refuse _
  | succ depth ih =>
      exact fun s p => p.leads_execute (fun _ op => leads_perform ih op) s

/-- Every operation takes a session along a course, at any depth. -/
theorem course_perform (depth : Nat) (s : Session σ) (op : Operation (Program σ)) :
    Course s (within s (perform (start depth) op)).2 :=
  leads_perform (leads_start depth) op

/-- A session after some operations, performed one after the other. -/
def after (s : Session σ) (ops : List (Operation (Program σ))) : Session σ :=
  ops.foldl (fun s op => (operate s op).2) s

/-- Operations that are performed one after the other take a session along a
course. -/
theorem course_after (s : Session σ) (ops : List (Operation (Program σ))) :
    Course s (s.after ops) := by
  induction ops generalizing s with
  | nil => exact .refl
  | cons op rest ih => exact (course_perform maxDepth s op).trans (ih _)

end Session

end CommandConsole
