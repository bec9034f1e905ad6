/-
The fault of a session.

A session keeps one fault for all its runs, those inside other runs
included. Two events alone say what it is: the beginning of a run, which
forgets the fault, and the delivery of an error, which takes its place
(`Event.leaves?`). So the fault of a session is what the latest of these
events left (`Course.fault?_eq`), be it an event of the latest run or of a
run inside it.

# What a run tells of its fault

A run that answers no has delivered an error (`reports_follow`). If nothing
but this report says what the fault of the session is, then the run answers
yes just if no fault is known after it (`run_fault?`). Host code that runs a
line or triggers an error in the course of a run changes that. A command
that has a line run answers yes in any case, and it leaves the fault that
the line leaves (`run_errand`): so a run may answer yes although a fault is
known after it (`run_fruitless`).
-/
import CommandConsole.Proofs.Session.Course

namespace CommandConsole

-- ================================================================== events

namespace Event

/-- What an event says of the fault of the session. The beginning of a run
forgets it, the delivery of an error sets it, and other events say
nothing. -/
def leaves? : Event → Option (Option Fault)
  | .began _ _ => some none
  | .delivered f => if f.kind.isWarning then none else some (some f)
  | _ => none

/-- The fault of a session after some events, the latest event first, which
had `before` before them. -/
def known (before : Option Fault) (events : List Event) : Option Fault :=
  (events.findSome? leaves?).getD before

theorem known_append (before : Option Fault) (later earlier : List Event) :
    known before (later ++ earlier) = known (known before earlier) later := by
  unfold known
  rw [List.findSome?_append]
  cases later.findSome? leaves? with
  | none => rfl
  | some left => rfl

theorem leaves?_of_isPlain {e : Event} (h : e.isPlain = true) : e.leaves? = none := by
  cases e with
  | began | cleared | delivered => cases h
  | parsed | constructed | invoked | wrote | warned | cautioned => rfl

/-- If at most one of some events says what the fault is, and an error is
delivered among them, that error is the fault. -/
theorem known_of_delivered {events : List Event} {before : Option Fault} {f : Fault}
    (hcount : (events.filterMap leaves?).length ≤ 1) (hf : .delivered f ∈ events)
    (hkind : f.kind.isWarning = false) : known before events = some f := by
  have hleaves : leaves? (.delivered f) = some (some f) := if_neg (Bool.eq_false_iff.1 hkind)
  have hmem : some f ∈ events.filterMap leaves? := List.mem_filterMap.2 ⟨_, hf, hleaves⟩
  obtain ⟨left, hleft⟩ := List.length_eq_one_iff.1
    (Nat.le_antisymm hcount (List.length_pos_of_mem hmem))
  rw [hleft, List.mem_singleton] at hmem
  unfold known
  rw [← List.head?_filterMap, hleft, ← hmem]
  rfl

end Event

namespace Session

open CommandConsole.Action

variable {σ : Type} {s t : Session σ}

-- ================================================================= courses

theorem Change.fault?_eq (h : Change s t) :
    ∃ since, t.events = since ++ s.events ∧ t.fault? = Event.known s.fault? since := by
  cases h with
  | @noted e he =>
      refine ⟨[e], rfl, ?_⟩
      unfold Event.known
      rw [List.findSome?_singleton, Event.leaves?_of_isPlain he]
      rfl
  | began => exact ⟨[_], rfl, rfl⟩
  | cleared => exact ⟨[_], rfl, rfl⟩
  | delivered f =>
      refine ⟨[.delivered f], rfl, ?_⟩
      unfold delivering Event.known Event.leaves?
      cases hkind : f.kind.isWarning with
      | true => simp [hkind]
      | false => simp [hkind]
  | walked | registered | removed | typed | redirected | stored => exact ⟨[], rfl, rfl⟩

/-- What happens adds to the events, and they say what the fault of a session
is. -/
theorem Course.fault?_eq (h : Course s t) :
    ∃ since, t.events = since ++ s.events ∧ t.fault? = Event.known s.fault? since := by
  refine Course.induction (P := fun t => ∃ since, t.events = since ++ s.events
    ∧ t.fault? = Event.known s.fault? since) h ⟨[], rfl, rfl⟩ ?_
  rintro u v hchange ⟨since, hevents, hfault⟩
  obtain ⟨later, hlater, hleft⟩ := hchange.fault?_eq
  refine ⟨later ++ since, ?_, ?_⟩
  · rw [hlater, hevents, List.append_assoc]
  · rw [hleft, hfault, Event.known_append]

-- ================================================================= reports

/-- An error was delivered in the course from one session to another. -/
def Reports (s t : Session σ) : Prop :=
  ∃ u f, f.kind.isWarning = false ∧ Course s u ∧ Course (delivering u f) t

theorem Reports.of_course {u : Session σ} (hcourse : Course s u) (h : Reports u t) :
    Reports s t := by
  obtain ⟨v, f, hkind, huv, hvt⟩ := h
  exact ⟨v, f, hkind, hcourse.trans huv, hvt⟩

/-- The error is among the events. -/
theorem Reports.exists_delivered (h : Reports s t) {since : List Event}
    (hsince : t.events = since ++ s.events) :
    ∃ f, .delivered f ∈ since ∧ f.kind.isWarning = false := by
  obtain ⟨u, f, hkind, hsu, hut⟩ := h
  obtain ⟨earlier, hearlier, -⟩ := hsu.fault?_eq
  obtain ⟨later, hlater, -⟩ := hut.fault?_eq
  have hsplit : since ++ s.events = (later ++ .delivered f :: earlier) ++ s.events := by
    rw [← hsince, hlater]
    unfold delivering
    rw [hearlier, List.append_assoc, List.cons_append]
  rw [List.append_cancel_right hsplit]
  exact ⟨f, by simp, hkind⟩

section

variable {start : Program σ → Action σ Reply} (hstart : ∀ s p, Leads s (start p))

include hstart

theorem reports_fail {f : Fault} (hkind : f.kind.isWarning = false) {answer : Bool}
    (h : within s (fail start f) = (.ok answer, t)) : Reports s t := by
  have hcourse := course_fail hstart (s := s) f
  rw [h] at hcourse
  exact ⟨s, s.completed f, hkind, .refl, hcourse⟩

theorem reports_invoke {line : String} {c : Command (Program σ)} {role : Role}
    {routine : List Object → Program σ} {objects : List Object}
    (h : within s (invoke start line c role routine objects) = (.ok false, t)) : Reports s t := by
  have hcalling : Course s (calling s c role objects) := .single (.noted s rfl)
  have hroutine := hstart (calling s c role objects) (routine objects)
  unfold Leads at hroutine
  rw [within_invoke] at h
  generalize within (calling s c role objects) (start (routine objects)) = result at h hroutine
  rcases result with ⟨e | r, u⟩
  · refine Reports.of_course (hcalling.trans hroutine) ?_
    change (if e.isCaught = true then _ else _) = (Except.ok false, t) at h
    split at h
    · exact reports_fail hstart rfl h
    · cases h
  · cases h

theorem reports_call {line : String} {c : Command (Program σ)}
    {arguments : List (String × Parameter)}
    (h : within s (call start line c arguments) = (.ok false, t)) : Reports s t := by
  have hcoerced := leads_coerceAll hstart arguments s 1
  unfold Leads at hcoerced
  rcases hresult : within s (coerceAll start 1 arguments) with ⟨e | f | objects, u⟩
  · unfold call at h
    rw [within_bind, hresult] at h
    cases h
  · rw [within_call_error start hresult] at h
    rw [hresult] at hcoerced
    exact Reports.of_course hcoerced (reports_fail hstart (Fault.isWarning_ofCoercion _ _ _) h)
  · rw [within_call_ok start hresult] at h
    rw [hresult] at hcoerced
    exact Reports.of_course hcoerced (reports_invoke hstart h)

/-- What answers no has reported an error. -/
theorem reports_follow {line : String} {d : Dispatch (Program σ)}
    (h : within s (follow start line d) = (.ok false, t)) : Reports s t := by
  unfold follow at h
  rw [within_bind_ok (within_session s)] at h
  cases d with
  | unknown token => exact reports_fail hstart rfl h
  | bare c routine => exact reports_invoke hstart h
  | mismatch c given => exact reports_fail hstart rfl h
  | call c arguments => exact reports_call hstart h

end

-- ==================================================================== runs

/-- The fault after a run is what the events since its beginning leave. A
run that answers no has delivered an error. If no more than that error says
what the fault is, no other run and no other error, then the run has
answered yes just if no fault is known. -/
theorem run_fault? {depth : Nat} {line : String} (hline : line ≠ "") {answer : Bool}
    (hrun : within s (run (start depth) (.text line)) = (.ok answer, t)) :
    ∃ since, t.events = since ++ (begun s line).events
      ∧ t.fault? = Event.known none since
      ∧ (answer = false → ∃ f, .delivered f ∈ since ∧ f.kind.isWarning = false)
      ∧ ((since.filterMap Event.leaves?).length ≤ (if answer then 0 else 1) →
          (answer = true ↔ t.fault? = none)) := by
  rw [within_run _ s hline, within_runLine] at hrun
  have hcourse := leads_follow (s := begun s line) (leads_start depth) line
    (s.registry.dispatch line)
  unfold Leads at hcourse
  rw [hrun] at hcourse
  obtain ⟨since, hevents, hfault⟩ := hcourse.fault?_eq
  have hreport : answer = false → ∃ f, .delivered f ∈ since ∧ f.kind.isWarning = false := by
    rintro rfl
    exact (reports_follow (leads_start depth) hrun).exists_delivered hevents
  refine ⟨since, hevents, hfault, hreport, fun hcount => ?_⟩
  cases answer with
  | true =>
      have hnone : since.filterMap Event.leaves? = [] :=
        List.length_eq_zero_iff.1 (Nat.le_zero.1 hcount)
      rw [hfault]
      unfold Event.known
      rw [← List.head?_filterMap, hnone]
      exact iff_of_true rfl rfl
  | false =>
      obtain ⟨f, hf, hkind⟩ := hreport rfl
      rw [hfault, Event.known_of_delivered hcount hf hkind]
      exact iff_of_false Bool.false_ne_true (Option.some_ne_none f)

/-- A run of a line that names no command reports this. -/
theorem within_run_unknown (start : Program σ → Action σ Reply) (s : Session σ)
    {line token : String} (hline : line ≠ "")
    (hdispatch : s.registry.dispatch line = .unknown token) :
    within s (run start (.text line))
      = within (begun s line)
          (fail start (Fault.commandNotFound s.host line token (s.registry.similar token))) := by
  rw [within_run start s hline, within_runLine, hdispatch]
  exact within_follow start (begun s line) line (.unknown token)

/-- A command whose routine has a line run and does not mind what comes of
it. -/
def errand (name line : String) : Command (Program σ) :=
  ⟨⟨name, [], "", [], true⟩, fun _ => .perform (.run (.text line)) fun _ => .answer .nothing, none⟩

theorem within_errand (s : Session σ) (name line : String) (depth : Nat) (objects : List Object) :
    within s (start (depth + 1) ((errand name line).callback objects))
      = (.ok .nothing, (within s (run (start depth) (.text line))).2) := by
  have hroutine : (errand name line : Command (Program σ)).callback objects
      = .perform (.run (.text line)) fun _ => .done (.ok .nothing) := rfl
  rw [start_succ, hroutine, Program.within_execute_perform, Program.within_execute_done,
    within_perform_run]
  rfl

/-- A run of such a command answers yes, and leaves what the line leaves that
the command has run. -/
theorem run_errand {depth : Nat} {line name inner : String} (hline : line ≠ "")
    (hdispatch : s.registry.dispatch line = .call (errand name inner) []) :
    within s (run (start (depth + 1)) (.text line))
      = (.ok true, (within (calling (begun s line) (errand name inner) .callback [])
          (run (start depth) (.text inner))).2) := by
  have hcall : within (begun s line) (coerceAll (start (depth + 1)) 1 [])
      = (.ok (.ok []), begun s line) := rfl
  have hfollow : within (begun s line)
        (follow (start (depth + 1)) line (.call (errand name inner) []))
      = within (begun s line) (call (start (depth + 1)) line (errand name inner) []) :=
    within_follow _ _ _ _
  rw [within_run _ s hline, within_runLine, hdispatch, hfollow, within_call_ok _ hcall,
    within_invoke, within_errand, ended_ok]

/-- The options of a console without built-in commands. -/
def bareOptions : ConsoleOptions := { ConsoleOptions.standard with builtins := .bool false }

/-- A session with a command that has a line run which names no command. -/
def fruitless : Session Unit :=
  { beginning ⟨"devconsole", true, false, true, false⟩ (History.empty 10) false .quiet with
    registry := ⟨[("outer", errand "outer" "nope")]⟩ }

/-- A run of a line that names no command answers no, and with a receiver that
keeps nothing its fault is known then. -/
theorem run_fault?_nope :
    let s := { fruitless with fallback? := some fun _ => .answer .nothing }
    ∃ t, within s (run (start 1) (.text "nope")) = (.ok false, t) ∧ t.fault? ≠ none := by
  intro s
  have hdispatch : s.registry.dispatch "nope" = .unknown "nope" := rfl
  have hreceiver : (begun s "nope").fallback? = some fun _ => .answer .nothing := rfl
  let f := Fault.commandNotFound s.host "nope" "nope" (s.registry.similar "nope")
  let t := delivering (begun s "nope") ((begun s "nope").completed f)
  have hrun : within s (run (start 1) (.text "nope")) = (.ok false, t) := by
    rw [within_run_unknown _ s (by decide) hdispatch, within_fail_some hreceiver]
    rfl
  obtain ⟨since, hevents, -, -, hagree⟩ := run_fault? (by decide) hrun
  have hdelivered : t.events
      = [.delivered ((begun s "nope").completed f)] ++ (begun s "nope").events := rfl
  have hsince := List.append_cancel_right (hevents.symm.trans hdelivered)
  have hcount : (since.filterMap Event.leaves?).length ≤ 1 := by
    rw [hsince]
    exact List.length_filterMap_le _ _
  exact ⟨_, hrun, fun hnone => Bool.false_ne_true ((hagree hcount).2 hnone)⟩

/-- A run may answer yes although a fault is known after it: that of a line
which its command has run. -/
theorem run_fruitless :
    ∃ s₀ : Session Unit, openWith bareOptions .quiet = .ok s₀
      ∧ s₀.after [.register (.command (errand "outer" "nope")) false] = fruitless
      ∧ ∃ t, operate fruitless (.run (.text "outer")) = (.ok (.flag true), t)
        ∧ t.fault?.map (·.kind) = some .commandNotFound := by
  have houter : fruitless.registry.dispatch "outer" = .call (errand "outer" "nope") [] := rfl
  let called := calling (begun fruitless "outer") (errand "outer" "nope") .callback []
  have hinner : called.registry.dispatch "nope" = .unknown "nope" := rfl
  have hrun : operate fruitless (.run (.text "outer"))
      = (.ok (.flag true), (within called (run (start 399) (.text "nope"))).2) := by
    unfold operate
    rw [within_perform_run, show maxDepth = 399 + 1 from rfl, run_errand (by decide) houter,
      flagged_ok]
  refine ⟨_, rfl, rfl, _, hrun, ?_⟩
  have hfallback : (begun called "nope").fallback? = none := rfl
  rw [within_run_unknown _ called (by decide) hinner, fault?_fail_none hfallback rfl]
  rfl

end Session

end CommandConsole
