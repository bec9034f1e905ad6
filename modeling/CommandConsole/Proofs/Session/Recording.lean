/-
What the history records.

The history of a session is the log of the runs that have begun since it was
cleared last, however each of them ended or will end, those inside other
runs included. It keeps the lines of the latest ones, as many as it has
room for, and the names of the last two (`History.Logs`). The log itself is
read off the events (`runs`).

Only three changes of a session touch either of them: the beginning of a run
and clearing act on both alike, and a walk leaves the lines and names of the
history as they are (`Change.logs`). So the two agree all along a course
(`history_logs_runs`).

# What begins a run

An operation that is given a line begins a run of it at once
(`within_perform_of_line?`), and a blank or refused line leaves the session
as it is (`within_perform_of_line?_none`). No other operation begins a run,
unless it reports a fault and the one who receives it runs a line
(`runs_perform`). The other way round, each run in the log began at some
moment of the course, and was recorded under the name that its line had at
that moment (`Course.exists_begun`).
-/
import CommandConsole.Proofs.Session.Course

namespace CommandConsole

-- ================================================================= history

/-- The runs since the history was cleared last, the latest one first: the
name that was recorded for each, and its line. -/
def Event.runs : List Event → List (String × String)
  | [] => []
  | .began name line :: rest => (name, line) :: runs rest
  | .cleared :: _ => []
  | _ :: rest => runs rest

namespace History

/-- A history holds the latest lines of a log of names and lines, and the
last two names. -/
structure Logs (h : History) (log : List (String × String)) : Prop where
  entries_eq : h.entries = (log.map Prod.snd).take h.limit
  current_eq : h.current = (log.map Prod.fst)[0]?.getD ""
  previous_eq : h.previous = (log.map Prod.fst)[1]?.getD ""

variable {h : History} {log : List (String × String)}

theorem logs_empty (limit : Nat) : (empty limit).Logs [] := ⟨List.take_nil.symm, rfl, rfl⟩

theorem logs_clear (h : History) : h.clear.Logs [] := logs_empty h.limit

/-- Recording a line adds it to the log. -/
theorem Logs.record (hlog : h.Logs log) (name raw : String) :
    (h.record name raw).Logs ((name, raw) :: log) where
  entries_eq := by
    show (raw :: h.entries).take h.limit = (raw :: log.map Prod.snd).take h.limit
    rw [hlog.entries_eq]
    cases h.limit with
    | zero => rfl
    | succ n =>
        rw [List.take_succ_cons, List.take_succ_cons, List.take_take,
          Nat.min_eq_left (Nat.le_succ n)]
  current_eq := rfl
  previous_eq := hlog.current_eq.trans (by simp)

/-- A step of a walk changes neither lines nor names. -/
theorem Logs.cycle (hlog : h.Logs log) {direction : Object} {line : String} {after : History}
    (hcycle : h.cycle direction = .ok (line, after)) :
    after.Logs log ∧ after.limit = h.limit := by
  obtain ⟨way, -, hafter⟩ := exists_of_bind_eq_ok hcycle
  obtain ⟨-, rfl⟩ := Prod.mk.inj (Except.ok.inj hafter)
  exact ⟨⟨hlog.entries_eq, hlog.current_eq, hlog.previous_eq⟩, rfl⟩

/-- A history is opened empty, and as long as the console was asked for. -/
theorem exists_of_ofLength_eq_ok {length : Object} (h₀ : ofLength length = .ok h) :
    ∃ n : Int, length = .int n ∧ 1 ≤ n ∧ h = empty n.toNat := by
  unfold ofLength at h₀
  split at h₀
  · next n =>
    split at h₀
    · cases h₀
    · next hpositive =>
      split at h₀
      · cases h₀
      · exact ⟨n, rfl, by omega, (Except.ok.inj h₀).symm⟩
  · cases h₀

end History

namespace Session

open CommandConsole.Action

variable {σ : Type} {s t : Session σ}

/-- The log of the runs in a session. -/
def runs (s : Session σ) : List (String × String) := Event.runs s.events

-- ================================================================= courses

/-- What an elementary change does to the events: nothing, or one event
happens, which is the beginning of a run only if the change is. -/
theorem Change.events_cases (h : Change s t) :
    t.events = s.events
      ∨ (∃ line, line ≠ "" ∧ t = begun s line)
      ∨ ∃ e, t.events = e :: s.events ∧ ∀ name line, e ≠ .began name line := by
  cases h with
  | @noted e he =>
      refine .inr (.inr ⟨e, rfl, ?_⟩)
      rintro name line rfl
      cases he
  | began hline => exact .inr (.inl ⟨_, hline, rfl⟩)
  | cleared => exact .inr (.inr ⟨.cleared, rfl, nofun⟩)
  | delivered f => exact .inr (.inr ⟨.delivered f, rfl, nofun⟩)
  | walked | registered | removed | typed | redirected | stored => exact .inl rfl

/-- The history goes on to hold the log of the runs, whatever changes. -/
theorem Change.logs (h : Change s t) (hs : s.history.Logs (Event.runs s.events)) :
    t.history.Logs (Event.runs t.events) ∧ t.history.limit = s.history.limit := by
  cases h with
  | @noted e he =>
      refine ⟨?_, rfl⟩
      cases e with
      | began | cleared | delivered => cases he
      | parsed | constructed | invoked | wrote | warned | cautioned => exact hs
  | @began line hline => exact ⟨hs.record (s.registry.recordedName line) line, rfl⟩
  | cleared => exact ⟨s.history.logs_clear, rfl⟩
  | walked hcycle => exact hs.cycle hcycle
  | delivered | registered | removed | typed | redirected | stored => exact ⟨hs, rfl⟩

/-- Each run among the events began at some moment of the course, with a line
that is not empty, and under the name that the line had then. -/
theorem Course.exists_begun (h : Course s t) (hs : s.events = []) :
    ∀ {later name line earlier}, t.events = later ++ .began name line :: earlier →
      ∃ u, Course s u ∧ u.events = earlier ∧ line ≠ "" ∧ name = u.registry.recordedName line
        ∧ Course (begun u line) t := by
  induction h with
  | refl =>
      intro later name line earlier hevents
      rw [hs] at hevents
      exact absurd hevents.symm (by simp)
  | @tail u v hcourse hchange ih =>
      intro later name line earlier hevents
      have hearlier : ∀ {later}, u.events = later ++ .began name line :: earlier →
          ∃ w, Course s w ∧ w.events = earlier ∧ line ≠ "" ∧ name = w.registry.recordedName line
            ∧ Course (begun w line) v := by
        intro later hu
        obtain ⟨w, hw, hwevents, hne, hname, hbegun⟩ := ih hu
        exact ⟨w, hw, hwevents, hne, hname, hbegun.tail hchange⟩
      rcases hchange.events_cases with hsame | ⟨latest, hline, rfl⟩ | ⟨e, hnew, hother⟩
      · exact hearlier (hsame ▸ hevents)
      · cases later with
        | nil =>
            obtain ⟨hbegan, rfl⟩ := List.cons.inj hevents
            obtain ⟨rfl, rfl⟩ := Event.began.inj hbegan
            exact ⟨u, hcourse, rfl, hline, rfl, .refl⟩
        | cons _ later => exact hearlier (List.cons.inj hevents).2
      · rw [hnew] at hevents
        cases later with
        | nil => exact absurd (List.cons.inj hevents).1 (hother name line)
        | cons _ later => exact hearlier (List.cons.inj hevents).2

-- ============================================================== operations

end Session

/-- The line that an operation runs: the text that it was given, unless the
text is empty, and what was typed into an input field without the line feeds
at its end, unless it is blank. -/
def Operation.line? {ρ : Type} : Operation ρ → Option String
  | .run (.text line) => if line = "" then none else some line
  | .submit (.text text) =>
      let line := Text.trimEndOf '\n' text
      if Text.isBlankText line = true then none else some line
  | _ => none

/-- The operation asks for a run. -/
def Operation.asksForRun {ρ : Type} : Operation ρ → Bool
  | .run _ | .submit _ => true
  | _ => false

/-- The operation clears the history. -/
def Operation.clears {ρ : Type} : Operation ρ → Bool
  | .clearHistory => true
  | _ => false

namespace Session

open CommandConsole.Action

variable {σ : Type} {s t : Session σ} {start : Program σ → Action σ Reply}
  {op : Operation (Program σ)}

/-- An operation that runs a line begins the run at once, and answers as the
run does. -/
theorem within_perform_of_line? {line : String} (h : op.line? = some line) :
    line ≠ "" ∧ within s (perform start op)
      = flagged (within (begun s line) (follow start line (s.registry.dispatch line))) := by
  unfold Operation.line? at h
  split at h
  · next text =>
    split at h
    · cases h
    · next hne =>
      obtain rfl := Option.some.inj h
      refine ⟨hne, ?_⟩
      rw [within_perform_run, within_run start s hne, within_runLine]
  · next text =>
    dsimp only at h
    split at h
    · cases h
    · next hblank =>
      obtain rfl := Option.some.inj h
      have hne : Text.trimEndOf '\n' text ≠ "" := fun hempty =>
        hblank (congrArg Text.isBlankText hempty)
      refine ⟨hne, ?_⟩
      rw [within_perform_submit, within_submit, if_neg hblank, within_runLine]
  · cases h

/-- A run of an object that is no text, or of an empty text, is refused, and
a blank line is passed over. The session stays as it is. -/
theorem within_perform_of_line?_none (hrun : op.asksForRun = true) (h : op.line? = none) :
    (within s (perform start op)).2 = s ∧ (within s (perform start op)).1 ≠ .ok (.flag true) := by
  cases op with
  | run line =>
      rw [within_perform_run]
      cases line with
      | text line =>
          by_cases hempty : line = ""
          · subst hempty
            exact ⟨rfl, nofun⟩
          · exact absurd ((if_neg hempty).symm.trans h) (Option.some_ne_none line)
      | _ => exact ⟨rfl, nofun⟩
  | submit text =>
      rw [within_perform_submit]
      cases text with
      | text text =>
          by_cases hblank : Text.isBlankText (Text.trimEndOf '\n' text) = true
          · rw [within_submit, if_pos hblank]
            exact ⟨rfl, nofun⟩
          · exact absurd ((if_neg hblank).symm.trans h) (Option.some_ne_none _)
      | _ => exact ⟨rfl, nofun⟩
  | _ => cases hrun

/-- A report of a fault is no run. -/
theorem unreported_runs : Unreported (@runs σ) where
  fault? := fun _ _ => rfl
  delivered := fun _ _ => rfl
  wrote := fun _ _ => rfl
  warned := fun _ _ => rfl

theorem keeps_runs_cautions (cautions : List Caution) :
    ∀ s : Session σ, Keeps runs s (cautions.forM fun c => note (.cautioned c)) := by
  induction cautions with
  | nil => exact fun _ => keeps_pure ()
  | cons c rest ih => exact fun s => keeps_note_bind rfl (ih _)

theorem keeps_runs_register (hreceiver : ReceiverKeeps start runs s)
    (candidate : CommandCandidate (Program σ)) (development : Bool) :
    Keeps runs s (register start candidate development) := by
  cases candidate with
  | object x => exact keeps_refuse _
  | command c =>
      refine keeps_session_bind ?_
      show Keeps runs s (if _ then _ else _)
      split
      · exact keeps_pure false
      · show Keeps runs s (if _ then _ else _)
        split
        · exact unreported_runs.fail hreceiver _
        · exact keeps_modify_bind rfl (keeps_pure _)

theorem keeps_runs_registerType (hreceiver : ReceiverKeeps start runs s) (type : Ty)
    (candidate : ParserCandidate (Program σ)) (default? : Option Object) :
    Keeps runs s (registerType start type candidate default?) := by
  refine keeps_session_bind (keeps_ofExcept_bind fun result => ?_)
  obtain ⟨added, parsers⟩ := result
  cases added with
  | true => exact keeps_modify_bind rfl (keeps_pure true)
  | false => exact unreported_runs.fail hreceiver _

theorem keeps_runs_remove (name : Object) : Keeps runs s (remove name) := by
  refine keeps_ofExcept_bind fun spelling => ?_
  show Keeps runs s (if _ then _ else _)
  split
  · exact keeps_refuse _
  · refine keeps_session_bind ?_
    generalize s.registry.erase spelling = result
    rcases result with ⟨gone, registry⟩
    exact keeps_modify_bind rfl (keeps_pure gone)

theorem keeps_runs_setFallback (candidate : FallbackCandidate (Program σ)) :
    Keeps runs s (setFallback candidate) := by
  unfold setFallback
  split
  · rfl
  · rfl
  · exact keeps_refuse _

/-- An operation that does not ask for a run begins none, unless the receiver
of the faults does, and clearing forgets all runs. -/
theorem runs_perform (hreceiver : ReceiverKeeps start runs s) (hasks : op.asksForRun = false) :
    runs (within s (perform start op)).2 = if op.clears then [] else runs s := by
  by_cases hlooks : op.OnlyLooks
  · have hclears : op.clears = false := by
      cases op with
      | clearHistory => cases hlooks
      | _ => rfl
    rw [hclears]
    exact (looks_perform start hlooks).keeps fun _ _ => rfl
  cases op with
  | clearHistory => rfl
  | cycle direction =>
      refine keeps_session_bind (keeps_ofExcept_bind fun result => ?_)
      rcases result with ⟨line, history⟩
      exact keeps_modify_bind rfl (keeps_pure _)
  | register candidate development =>
      exact (keeps_runs_register hreceiver candidate development).bind_pure _
  | remove name => exact (keeps_runs_remove name).bind_pure _
  | registerType type candidate default? =>
      exact (keeps_runs_registerType hreceiver type candidate default?).bind_pure _
  | warn cautions => exact (keeps_runs_cautions cautions s).bind_pure _
  | fallback candidate => exact (keeps_runs_setFallback candidate).bind_pure _
  | trigger candidate options =>
      exact keeps_ofExcept_bind fun f => (unreported_runs.trigger hreceiver f options).bind_pure _
  | logCollection items format opening closing =>
      refine Keeps.bind_pure ?_ _
      unfold logCollection
      split
      · exact (looks_log _ _).keeps fun _ _ => rfl
      · exact keeps_throw _
  | run | submit => cases hasks
  | complete | hint | resolve | describe | overview | log | logAs | logVariable | logSeparator
  | logCommand | logUsage | print | clear => exact absurd trivial hlooks

-- ==================================================================== runs

/-- The history of a console is the log of the runs that have begun in it
since it was cleared last: its entries are their lines, the latest first and
as many as it has room for, and it tells the names that were recorded for the
last two. Each of the runs began at some moment of the session, and was
recorded under the name that its line had then. An operation that is given a
line begins a run at once, and one whose line is refused or blank records
nothing. No other operation begins a run, unless the receiver of the faults
does, and only clearing forgets the runs. -/
theorem history_logs_runs {options : ConsoleOptions} {around : Surroundings σ} {s₀ : Session σ}
    (hopen : openWith options around = .ok s₀) (ops : List (Operation (Program σ)))
    (hcourse : Course (s₀.after ops) s) :
    (∃ n : Int, options.history = .int n ∧ 1 ≤ n ∧ s.history.limit = n.toNat)
      ∧ s.history.Logs s.runs
      ∧ (∀ {later name line earlier}, s.events = later ++ .began name line :: earlier →
          ∃ u, Course s₀ u ∧ u.events = earlier ∧ line ≠ ""
            ∧ name = u.registry.recordedName line ∧ Course (begun u line) s)
      ∧ ∀ depth (op : Operation (Program σ)),
          (∀ line, op.line? = some line →
            within s (perform (Session.start depth) op)
              = flagged (within (begun s line)
                  (follow (Session.start depth) line (s.registry.dispatch line))))
          ∧ (op.asksForRun = true → op.line? = none →
            (within s (perform (Session.start depth) op)).2 = s)
          ∧ (op.asksForRun = false → ReceiverKeeps (Session.start depth) runs s →
            runs (within s (perform (Session.start depth) op)).2
              = if op.clears then [] else runs s) := by
  obtain ⟨settings, history, -, hhistory, rfl⟩ := exists_of_openWith_eq_ok hopen
  obtain ⟨n, hlength, hpositive, rfl⟩ := History.exists_of_ofLength_eq_ok hhistory
  have hwhole := (course_after _ ops).trans hcourse
  obtain ⟨hlogs, hlimit⟩ : s.history.Logs s.runs ∧ s.history.limit = n.toNat := by
    refine Course.induction (P := fun t => t.history.Logs t.runs
      ∧ t.history.limit = n.toNat) hwhole ⟨History.logs_empty n.toNat, rfl⟩ ?_
    intro u v hchange hu
    obtain ⟨hv, hsame⟩ := hchange.logs hu.1
    exact ⟨hv, hsame.trans hu.2⟩
  refine ⟨⟨n, hlength, hpositive, hlimit⟩, hlogs, Course.exists_begun hwhole rfl, ?_⟩
  refine fun depth op => ⟨?_, ?_, ?_⟩
  · exact fun line hline => (within_perform_of_line? hline).2
  · exact fun hasks hnone => (within_perform_of_line?_none hasks hnone).1
  · exact fun hasks hreceiver => runs_perform hreceiver hasks

/-- It is so after a line that names no command, a blank one, and the line
that ends the application. -/
theorem history_logs_runs_quit :
    let ops := [.run (.text "nope"), .submit (.text " \n"), .run (.text "quit")]
    ∃ s₀ : Session Unit, openWith .standard .quiet = .ok s₀
      ∧ (s₀.after ops).history.Logs (s₀.after ops).runs := by
  intro ops
  obtain ⟨s₀, hopen⟩ : ∃ s₀, openWith .standard .quiet = .ok s₀ := ⟨_, rfl⟩
  exact ⟨s₀, hopen, (history_logs_runs hopen ops .refl).2.1⟩

end Session

end CommandConsole
