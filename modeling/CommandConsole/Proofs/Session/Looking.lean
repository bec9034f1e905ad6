/-
Host code that only looks.

Host code may use the console while the console calls it. What uses the
console at most to look something up and to write to the output
(`Operation.OnlyLooks`), and raises nothing but errors, is modest
(`Program.Modest`). It can change the state of the host and write texts, and
it leaves the rest of the session as it is, however it ends
(`Program.Modest.exists_start`). What uses the console for nothing, and
answers, is silent; it changes the state of the host alone
(`Program.Silent.exists_start`). What only looks and never changes the state
is still, whatever it raises; all that is left of it are the texts that it
wrote (`Program.Still.exists_start`).

The built-in commands are modest, but for the one that ends the application
(`Builtin.modest_commands`), and all of them are still
(`Builtin.still_commands`).
-/
import CommandConsole.Proofs.Session.Execution

namespace CommandConsole

-- ================================================================ programs

/-- An outcome that is an answer or an error, and neither an interruption nor
the end of the application. -/
def Tame {α : Type} (outcome : Except Raised α) : Prop :=
  ∀ e, outcome = .error e → e.isCaught = true

section

variable {α : Type}

theorem tame_ok (x : α) : Tame (.ok x : Except Raised α) := by
  intro e h
  cases h

theorem tame_error {e : Raised} (h : e.isCaught = true) : Tame (.error e : Except Raised α) := by
  rintro _ ⟨⟩
  exact h

theorem tame_problem (p : Problem) : Tame (.error (.problem p) : Except Raised α) :=
  tame_error rfl

/-- A computation that goes on from a tame outcome in a tame way is tame. -/
theorem Tame.bind {β : Type} {outcome : Except Raised α} {f : α → Except Raised β}
    (h : Tame outcome) (hf : ∀ x, Tame (f x)) : Tame (outcome >>= f) := by
  cases outcome with
  | ok x => exact hf x
  | error e => exact tame_error (h e rfl)

theorem Tame.map {β : Type} {outcome : Except Raised α} (h : Tame outcome) (f : α → β) :
    Tame (outcome.map f) :=
  h.bind fun x => tame_ok (f x)

theorem tame_mapM {β : Type} {f : α → Except Raised β} (hf : ∀ x, Tame (f x)) (row : List α) :
    Tame (row.mapM f) := by
  induction row with
  | nil => exact tame_ok []
  | cons x rest ih =>
      rw [List.mapM_cons]
      exact (hf x).bind fun _ => ih.bind fun _ => tame_ok _

end

/-- The operations that look something up or write to the output. What
formats the items of a collection for one of them raises nothing but
errors. -/
def Operation.OnlyLooks {ρ : Type} : Operation ρ → Prop
  | .complete _ | .hint _ | .resolve _ | .describe _ | .overview => True
  | .log _ _ | .logAs _ _ | .logVariable _ _ _ | .logSeparator _ | .logCommand _
  | .logUsage _ _ _ | .print _ | .clear => True
  | .logCollection _ format _ _ => ∀ x, Tame (format x)
  | _ => False

/-- The operations that look something up, but for the overview, or write to
the output. -/
def Operation.LooksUp {ρ : Type} : Operation ρ → Prop
  | .complete _ | .hint _ | .resolve _ | .describe _ => True
  | .log _ _ | .logAs _ _ | .logVariable _ _ _ | .logCollection _ _ _ _ | .logSeparator _
  | .logCommand _ | .logUsage _ _ _ | .print _ | .clear => True
  | _ => False

namespace Program

variable {σ : Type}

/-- A class of programs to which those belong that look something up, but for
the overview, or write to the output, and those that go on from programs of
the class to programs of the class. -/
structure Closed (P : Program σ → Prop) : Prop where
  answer : ∀ r, P (answer r)
  call : ∀ {op : Operation (Program σ)}, op.OnlyLooks → op.LooksUp → P (call op)
  andThen : ∀ {p : Program σ} {next : Reply → Program σ}, P p → (∀ r, P (next r)) →
    P (p.andThen next)

theorem Closed.inOrder {P : Program σ → Prop} (hP : Closed P) :
    ∀ {programs : List (Program σ)}, (∀ p ∈ programs, P p) → P (inOrder programs)
  | [], _ => hP.answer _
  | [last], h => h last (List.mem_singleton_self last)
  | first :: _ :: _, h =>
      hP.andThen (h first List.mem_cons_self) fun _ =>
        hP.inOrder fun p hp => h p (List.mem_cons_of_mem first hp)

/-- Programs that use the console at most to look something up and to write
to the output, and raise nothing but errors. -/
inductive Modest : Program σ → Prop
  | done {outcome : Except Raised Reply} (h : Tame outcome) : Modest (.done outcome)
  | read {next : σ → Program σ} (h : ∀ s, Modest (next s)) : Modest (.read next)
  | write (state : σ) {next : Program σ} (h : Modest next) : Modest (.write state next)
  | perform {op : Operation (Program σ)} {next : Except Raised Reply → Program σ}
      (hop : op.OnlyLooks) (h : ∀ outcome, Tame outcome → Modest (next outcome)) :
      Modest (.perform op next)

/-- Programs that do not use the console, and answer. -/
inductive Silent : Program σ → Prop
  | done (r : Reply) : Silent (.done (.ok r))
  | read {next : σ → Program σ} (h : ∀ s, Silent (next s)) : Silent (.read next)
  | write (state : σ) {next : Program σ} (h : Silent next) : Silent (.write state next)

theorem Modest.handle {p : Program σ} (h : p.Modest) {next : Except Raised Reply → Program σ}
    (hnext : ∀ outcome, Tame outcome → (next outcome).Modest) : (p.handle next).Modest := by
  induction h with
  | done houtcome => exact hnext _ houtcome
  | read _ ih => exact .read ih
  | write state _ ih => exact .write state ih
  | perform hop _ ih => exact .perform hop ih

theorem Modest.andThen {p : Program σ} (h : p.Modest) {next : Reply → Program σ}
    (hnext : ∀ r, (next r).Modest) : (p.andThen next).Modest := by
  refine h.handle fun outcome houtcome => ?_
  cases outcome with
  | ok r => exact hnext r
  | error e => exact .done houtcome

/-- Programs that use the console at most to look something up and to write
to the output, and do not change the state of the host. -/
inductive Still : Program σ → Prop
  | done (outcome : Except Raised Reply) : Still (.done outcome)
  | read {next : σ → Program σ} (h : ∀ s, Still (next s)) : Still (.read next)
  | perform {op : Operation (Program σ)} {next : Except Raised Reply → Program σ}
      (hop : op.OnlyLooks) (h : ∀ outcome, Still (next outcome)) : Still (.perform op next)

theorem Still.handle {p : Program σ} (h : p.Still) {next : Except Raised Reply → Program σ}
    (hnext : ∀ outcome, (next outcome).Still) : (p.handle next).Still := by
  induction h with
  | done outcome => exact hnext outcome
  | read _ ih => exact .read ih
  | perform hop _ ih => exact .perform hop ih

theorem Still.andThen {p : Program σ} (h : p.Still) {next : Reply → Program σ}
    (hnext : ∀ r, (next r).Still) : (p.andThen next).Still := by
  refine h.handle fun outcome => ?_
  cases outcome with
  | ok r => exact hnext r
  | error e => exact .done (.error e)

theorem still_call {op : Operation (Program σ)} (h : op.OnlyLooks) : (call op).Still :=
  .perform h .done

theorem closed_still : Closed (@Still σ) where
  answer := fun r => .done (.ok r)
  call := fun h _ => still_call h
  andThen := fun hp hnext => hp.andThen hnext

end Program

/-- The routines of a command only look. -/
structure Command.Modest {σ : Type} (c : Command (Program σ)) : Prop where
  callback : ∀ objects, (c.callback objects).Modest
  default : ∀ routine, c.default? = some routine → ∀ objects, (routine objects).Modest

/-- The routines of a command are still. -/
structure Command.Still {σ : Type} (c : Command (Program σ)) : Prop where
  callback : ∀ objects, (c.callback objects).Still
  default : ∀ routine, c.default? = some routine → ∀ objects, (routine objects).Still

-- ======================================================= built-in commands

namespace Builtin

open Program

variable {σ : Type}

section

variable {P : Program σ → Prop} (hP : Closed P)

include hP

theorem closed_logText (s : String) : P (logText s) := hP.call trivial trivial

theorem closed_description (o : Outline) : P (description o) := by
  refine hP.inOrder ?_
  simp only [List.forall_mem_append, List.forall_mem_singleton, List.mem_filterMap]
  refine ⟨⟨⟨⟨⟨hP.call trivial trivial, ?_⟩, ?_⟩, ?_⟩, ?_⟩, hP.call trivial trivial⟩
  · split
    · exact List.forall_mem_nil _
    · exact List.forall_mem_singleton.2 (closed_logText hP _)
  · split
    · exact List.forall_mem_nil _
    · exact List.forall_mem_singleton.2 (closed_logText hP _)
  · split
    · exact List.forall_mem_nil _
    · exact List.forall_mem_singleton.2 (hP.call trivial trivial)
  · rintro _ ⟨p, -, hp⟩
    unfold parameterLine at hp
    split at hp
    · cases hp
    · cases hp
      exact hP.call trivial trivial

theorem closed_describe (name : Object) : P (describe name) := by
  refine hP.andThen (hP.call trivial trivial) fun r => ?_
  split
  · exact closed_description hP _
  · exact hP.call trivial trivial

theorem closed_instructions : P instructions := by
  refine hP.inOrder ?_
  simp only [List.forall_mem_cons]
  exact ⟨hP.call trivial trivial, closed_logText hP _, closed_logText hP _, closed_logText hP _,
    hP.call trivial trivial, List.forall_mem_nil _⟩

section

variable (hoverview : P (call .overview))

include hoverview

theorem closed_describePrevious : P describePrevious := by
  refine hP.andThen hoverview fun r => ?_
  split
  · exact closed_describe hP _
  · exact hP.answer _

theorem closed_listNames : P listNames := by
  refine hP.andThen hoverview fun r => ?_
  split
  · exact closed_logText hP _
  · exact hP.answer _

end

end

/-- All built-in commands are still, the one that ends the application
included. -/
theorem still_commands {c : Command (Program σ)} (hc : c ∈ commands) : c.Still := by
  simp only [commands, List.mem_cons, List.not_mem_nil, or_false] at hc
  rcases hc with rfl | rfl | rfl | rfl | rfl | rfl | rfl
  · exact ⟨fun _ => closed_instructions closed_still, nofun⟩
  · exact ⟨fun _ => still_call trivial, nofun⟩
  · exact ⟨fun _ => still_call trivial, nofun⟩
  · refine ⟨fun _ => closed_describe closed_still _, ?_⟩
    rintro _ ⟨⟩ _
    exact closed_describePrevious closed_still (still_call trivial)
  · exact ⟨fun _ => closed_listNames closed_still (still_call trivial), nofun⟩
  · exact ⟨fun _ => closed_logText closed_still _, nofun⟩
  · exact ⟨fun _ => .done _, nofun⟩

end Builtin

-- ================================================================ sessions

namespace Session

open CommandConsole.Action

variable {σ α β : Type}

/-- A session in which some events have happened, the latest one first, and
host code has changed its state. -/
def onward (s : Session σ) (state : σ) (since : List Event) : Session σ :=
  { s with state := state, events := since ++ s.events }

theorem onward_onward (s : Session σ) (state state' : σ) (since later : List Event) :
    (s.onward state since).onward state' later = s.onward state' (later ++ since) := by
  unfold onward
  rw [List.append_assoc]

/-- An action writes texts to the output, and no more comes of it than an
answer or an error. -/
def Looks (s : Session σ) (a : Action σ α) : Prop :=
  ∃ outcome, ∃ texts : List String,
    within s a = (outcome, s.onward s.state (texts.map .wrote)) ∧ Tame outcome

variable {s : Session σ}

theorem looks_pure (x : α) : Looks s (pure x : Action σ α) := ⟨_, [], rfl, tame_ok x⟩

theorem looks_throw {e : Raised} (h : e.isCaught = true) : Looks s (throw e : Action σ α) :=
  ⟨_, [], rfl, tame_error h⟩

theorem looks_note (text : String) : Looks s (note (.wrote text)) := ⟨_, [text], rfl, tame_ok ()⟩

theorem looks_session_bind {f : Session σ → Action σ β} (h : Looks s (f s)) :
    Looks s (session >>= f) := h

theorem looks_ofExcept_bind {result : Except Problem α} {f : α → Action σ β}
    (h : ∀ x, Looks s (f x)) : Looks s (ofExcept result >>= f) := by
  cases result with
  | ok x => exact h x
  | error p => exact looks_throw rfl

theorem Looks.bind {a : Action σ α} {f : α → Action σ β} (ha : Looks s a)
    (hf : ∀ x t, Looks t (f x)) : Looks s (a >>= f) := by
  obtain ⟨outcome, texts, hs, houtcome⟩ := ha
  unfold Looks
  rw [within_bind, hs]
  cases outcome with
  | error e => exact ⟨_, texts, rfl, tame_error (houtcome e rfl)⟩
  | ok x =>
      obtain ⟨outcome, later, ht, houtcome⟩ := hf x (s.onward s.state (texts.map Event.wrote))
      refine ⟨outcome, later ++ texts, ?_, houtcome⟩
      rw [List.map_append, ← onward_onward]
      exact ht

/-- An action whose answer is passed on in another form. -/
theorem Looks.bind_pure {a : Action σ α} (ha : Looks s a) (f : α → β) :
    Looks s (a >>= fun x => pure (f x)) :=
  ha.bind fun x _ => looks_pure (f x)

/-- What only looks something up and writes to the output keeps a part of the
session in which no text that is written shows. -/
theorem Looks.keeps {τ : Type} {part : Session σ → τ} {a : Action σ α} (h : Looks s a)
    (hwrote : ∀ s text, part { s with events := .wrote text :: s.events } = part s) :
    Keeps part s a := by
  obtain ⟨outcome, texts, hs, -⟩ := h
  unfold Keeps
  rw [hs]
  clear hs
  induction texts with
  | nil => rfl
  | cons text rest ih => exact (hwrote _ text).trans ih

-- ================================================================== output

theorem looks_print (text : Display.Styled) : Looks s (print text) :=
  looks_session_bind (looks_ofExcept_bind fun _ => looks_note _)

theorem looks_log (message : Object) (style? : Option Object) : Looks s (log message style?) :=
  looks_session_bind (looks_print _)

theorem tame_textRow (row : List Object) : ∀ position, Tame (textRow position row) := by
  induction row with
  | nil => exact fun _ => tame_ok []
  | cons x rest ih =>
      intro position
      unfold textRow
      split
      · rename_i text _
        exact (ih (position + 1)).map (text :: ·)
      · exact tame_problem _

theorem tame_itemLine {format : Object → Except Raised Object} (hformat : ∀ x, Tame (format x))
    (opening closing item : Object) : Tame (itemLine format opening closing item) := by
  refine (hformat item).bind fun middle => ?_
  split
  · exact tame_ok _
  · exact tame_problem _

theorem tame_collectionLines (items : Object) {format : Object → Except Raised Object}
    (hformat : ∀ x, Tame (format x)) (opening closing : Object) :
    Tame (collectionLines items format opening closing) := by
  unfold collectionLines
  split
  · exact (tame_mapM (tame_itemLine hformat opening closing) _).bind fun _ => tame_textRow _ 0
  · exact tame_problem _

theorem looks_logCollection (items : Object) {format : Object → Except Raised Object}
    (hformat : ∀ x, Tame (format x)) (opening closing : Object) :
    Looks s (logCollection items format opening closing) := by
  unfold logCollection
  split
  · exact looks_log _ _
  · next e he => exact looks_throw (tame_collectionLines items hformat opening closing e he)

theorem looks_logSeparator (message? : Option Object) : Looks s (logSeparator message?) := by
  unfold logSeparator
  split
  · exact looks_log _ _
  · exact looks_session_bind (looks_print _)

theorem looks_logUsage (opening : String) (o : Outline) (closing : String) :
    Looks s (logUsage opening o closing) :=
  looks_session_bind (looks_print _)

theorem looks_logCommand (name? : Option Object) : Looks s (logCommand name?) := by
  refine looks_session_bind (looks_ofExcept_bind fun spelling => ?_)
  split
  · exact looks_logUsage _ _ _
  · exact looks_pure ()

theorem looks_clear : Looks s clear := by
  refine looks_session_bind ?_
  show Looks s (if _ then _ else _)
  split
  · exact looks_pure ()
  · exact looks_note _

theorem looks_resolve (name : Object) : Looks s (resolve name) :=
  looks_ofExcept_bind fun _ => looks_session_bind (looks_pure _)

/-- Operations that look something up or write to the output do no more than
that. -/
theorem looks_perform (start : Program σ → Action σ Reply) {op : Operation (Program σ)}
    (hop : op.OnlyLooks) : Looks s (perform start op) := by
  cases op with
  | complete typed => exact looks_session_bind (looks_ofExcept_bind fun _ => looks_pure _)
  | hint text => exact looks_ofExcept_bind fun _ => looks_session_bind (looks_pure _)
  | resolve name =>
      refine (looks_resolve name).bind fun found t => ?_
      cases found with
      | none => exact looks_pure _
      | some c => exact looks_pure _
  | describe name => exact looks_session_bind (looks_ofExcept_bind fun _ => looks_pure _)
  | overview => exact looks_session_bind (looks_pure _)
  | log message style? => exact (looks_log message style?).bind_pure _
  | logAs kind message => exact Looks.bind_pure (looks_session_bind (looks_log _ _)) _
  | logVariable name value suffix => exact (looks_log _ none).bind_pure _
  | logCollection items format opening closing =>
      exact (looks_logCollection items hop opening closing).bind_pure _
  | logSeparator message? => exact (looks_logSeparator message?).bind_pure _
  | logCommand name? => exact (looks_logCommand name?).bind_pure _
  | logUsage opening o closing => exact (looks_logUsage opening o closing).bind_pure _
  | print text => exact (looks_print text).bind_pure _
  | clear => exact looks_clear.bind_pure _
  | run | submit | cycle | clearHistory | register | remove | registerType | warn | fallback
  | trigger => cases hop

end Session

-- =============================================================== host code

open Session CommandConsole.Action

variable {σ : Type}

/-- Modest host code changes the state of the host and writes texts, and it
answers or raises an error. -/
theorem Program.Modest.exists_start {p : Program σ} (h : p.Modest) (depth : Nat) :
    ∀ s : Session σ, ∃ outcome state, ∃ texts : List String,
      within s (start (depth + 1) p) = (outcome, s.onward state (texts.map .wrote))
        ∧ Tame outcome := by
  simp only [start_succ]
  induction h with
  | done houtcome => exact fun s => ⟨_, s.state, [], within_execute_done _ s _, houtcome⟩
  | read _ ih =>
      intro s
      rw [within_execute_read]
      exact ih s.state s
  | write state _ ih =>
      intro s
      rw [within_execute_write]
      exact ih { s with state := state }
  | perform hop _ ih =>
      intro s
      obtain ⟨outcome, texts, hs, houtcome⟩ := looks_perform (s := s) (start depth) hop
      obtain ⟨last, state, later, ht, hlast⟩ :=
        ih outcome houtcome (s.onward s.state (texts.map .wrote))
      refine ⟨last, state, later ++ texts, ?_, hlast⟩
      rw [within_execute_perform, hs, List.map_append, ← onward_onward]
      exact ht

/-- Still host code writes texts and changes nothing else, however it ends. -/
theorem Program.Still.exists_start {p : Program σ} (h : p.Still) (depth : Nat) :
    ∀ s : Session σ, ∃ outcome, ∃ texts : List String,
      within s (start (depth + 1) p) = (outcome, s.onward s.state (texts.map .wrote)) := by
  simp only [start_succ]
  induction h with
  | done outcome => exact fun s => ⟨outcome, [], within_execute_done _ s _⟩
  | read _ ih =>
      intro s
      rw [within_execute_read]
      exact ih s.state s
  | perform hop _ ih =>
      intro s
      obtain ⟨outcome, texts, hs, -⟩ := looks_perform (s := s) (start depth) hop
      obtain ⟨last, later, ht⟩ := ih outcome (s.onward s.state (texts.map .wrote))
      refine ⟨last, later ++ texts, ?_⟩
      rw [within_execute_perform, hs, List.map_append, ← onward_onward]
      exact ht

/-- Silent host code changes the state of the host and answers. -/
theorem Program.Silent.exists_start {p : Program σ} (h : p.Silent) (depth : Nat) :
    ∀ s : Session σ, ∃ r state, within s (start (depth + 1) p) = (.ok r, s.onward state []) := by
  simp only [start_succ]
  induction h with
  | done r => exact fun s => ⟨r, s.state, within_execute_done _ s _⟩
  | read _ ih =>
      intro s
      rw [within_execute_read]
      exact ih s.state s
  | write state _ ih =>
      intro s
      rw [within_execute_write]
      exact ih { s with state := state }

end CommandConsole
