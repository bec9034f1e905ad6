/-
The hint for a line tells what a run of the line would lack.

The hint counts the arguments of a line that are not empty, and a run counts
all of them once the surplus ones are folded. A run that comes to its
arguments does one of three things at once, before anything else can happen:
it reports that there are too few, it calls the default routine, or it turns
to the arguments one by one. What happens first after the beginning of a run
(`nextEvent?`) therefore tells what the line has asked for, whatever host code
does later in the run:

- a report is delivered at once (`nextEvent?_fail`), and a routine is called
  at once (`nextEvent?_invoke`);
- converting arguments and calling the routine begins with host code that
  converts, with the routine, or with the fault of an argument, and never with
  the report of too few arguments (`starts_call`).

A run reports too few arguments only if parameters are left over, and the hint
is their usage. The hint may show more, since an empty argument counts for the
run and not for the hint; without empty arguments the two agree
(`hint_agrees`).
-/
import CommandConsole.Proofs.Registry.Dispatch
import CommandConsole.Proofs.Session.Arguments
import CommandConsole.Proofs.Session.LastFault

namespace CommandConsole

-- =================================================================== usage

/-- The usage of a parameter is not empty: there are brackets around it. -/
theorem Parameter.length_usage_ne_zero (p : Parameter) : p.usage.length ≠ 0 := by
  unfold usage
  simp only [String.length_append]
  have hbracket : ("<(" : String).length = 2 := rfl
  omega

namespace Outline

/-- The usage of a command ends with that of the parameters that are left. -/
theorem exists_usage_eq (o : Outline) (count : Nat) :
    ∃ front, o.usage = front ++ o.remainingUsage count := by
  unfold usage remainingUsage
  cases hleft : (o.parameters.drop count).map Parameter.usage with
  | nil =>
      rw [String.intercalate_nil]
      exact ⟨_, (String.append_empty).symm⟩
  | cons first rest =>
      have hsplit : o.name :: o.parameters.map Parameter.usage
          = (o.name :: (o.parameters.take count).map Parameter.usage) ++ first :: rest := by
        rw [← hleft, List.cons_append, ← List.map_append, List.take_append_drop]
      rw [hsplit, String.intercalate_append_of_ne_nil (List.cons_ne_nil _ _)
        (List.cons_ne_nil _ _)]
      exact ⟨_, rfl⟩

/-- The usage of the parameters that are left is empty just if none is. -/
theorem remainingUsage_ne_empty_iff (o : Outline) (count : Nat) :
    o.remainingUsage count ≠ "" ↔ count < o.parameters.length := by
  unfold remainingUsage
  cases hleft : o.parameters.drop count with
  | nil =>
      have hle := List.drop_eq_nil_iff.1 hleft
      rw [List.map_nil, String.intercalate_nil]
      exact iff_of_false (fun h => h rfl) (Nat.not_lt.2 hle)
  | cons p rest =>
      have hlt : count < o.parameters.length := by
        rw [← Nat.not_le, ← List.drop_eq_nil_iff, hleft]
        exact List.cons_ne_nil p rest
      refine iff_of_true (fun hempty => ?_) hlt
      have hlength := congrArg String.length hempty
      rw [List.map_cons] at hlength
      cases hrest : rest.map Parameter.usage with
      | nil =>
          rw [hrest, String.intercalate_singleton] at hlength
          exact p.length_usage_ne_zero hlength
      | cons next more =>
          rw [hrest, String.intercalate_cons_cons, String.length_append,
            String.length_append] at hlength
          exact p.length_usage_ne_zero (by simp at hlength)

end Outline

-- ================================================================== events

/-- The event is the report of too few arguments. -/
def Event.isMismatch : Event → Bool
  | .delivered f => f.kind = .arityMismatch
  | _ => false

namespace Session

open CommandConsole.Action

variable {σ : Type} {s t u : Session σ}

-- ============================================================== next events

/-- What happened first in a session after an earlier time of it, if anything
did. -/
def nextEvent? (t earlier : Session σ) : Option Event := (eventsSince t earlier).head?

theorem nextEvent?_eq {since : List Event} (h : t.events = since ++ s.events) :
    nextEvent? t s = since.getLast? := by
  unfold nextEvent? eventsSince
  rw [h, List.length_append, Nat.add_sub_cancel, List.take_left, List.head?_reverse]

/-- What happened first stays what it was. -/
theorem nextEvent?_append {e : Event} {later : List Event}
    (h : t.events = later ++ e :: s.events) : nextEvent? t s = some e := by
  have hsince : t.events = (later ++ [e]) ++ s.events := by
    rw [h, List.append_assoc]
    rfl
  rw [nextEvent?_eq hsince, List.getLast?_concat]

/-- A session comes of an earlier one, and what happened first in between, if
anything did, has a property. -/
def Starts (p : Event → Prop) (s t : Session σ) : Prop :=
  ∃ since, t.events = since ++ s.events ∧ ∀ e, since.getLast? = some e → p e

theorem starts_refl (p : Event → Prop) (s : Session σ) : Starts p s s :=
  ⟨[], rfl, fun _ h => by cases h⟩

theorem Course.exists_events_eq (h : Course s t) : ∃ since, t.events = since ++ s.events := by
  obtain ⟨since, hevents, -⟩ := h.fault?_eq
  exact ⟨since, hevents⟩

theorem Starts.of_nextEvent? {p : Event → Prop} (h : Starts p s t) {e : Event}
    (he : nextEvent? t s = some e) : p e := by
  obtain ⟨since, hsince, hfirst⟩ := h
  rw [nextEvent?_eq hsince] at he
  exact hfirst e he

/-- What has begun with an event goes on from there. -/
theorem starts_of_events {p : Event → Prop} {e : Event} (he : p e)
    (h : ∃ later, t.events = later ++ e :: s.events) : Starts p s t := by
  obtain ⟨later, hlater⟩ := h
  refine ⟨later ++ [e], by rw [hlater, List.append_assoc]; rfl, fun first hfirst => ?_⟩
  rw [List.getLast?_concat] at hfirst
  cases hfirst
  exact he

theorem Starts.trans {p : Event → Prop} (hst : Starts p s t) (htu : Starts p t u) :
    Starts p s u := by
  obtain ⟨since, hsince, hfirst⟩ := hst
  obtain ⟨later, hlater, hnext⟩ := htu
  refine ⟨later ++ since, by rw [hlater, hsince, List.append_assoc], fun e he => ?_⟩
  rw [List.getLast?_append] at he
  cases hlast : since.getLast? with
  | none => exact hnext e (by rw [hlast] at he; exact he)
  | some first =>
      rw [hlast] at he
      cases he
      exact hfirst e hlast

-- ================================================================== stages

/-- The fault of an argument is no report of too few of them. -/
theorem isMismatch_coercionFault (t : Session σ) (line : String) (c : Command (Program σ))
    (f : Failure) :
    (Event.delivered (t.completed (t.coercionFault line c f))).isMismatch = false := by
  unfold Event.isMismatch coercionFault
  dsimp only
  rw [kind_completed]
  rcases Fault.isCoercion_ofCoercion t.host
    ⟨line, c.outline, f.index, f.token, f.parameter⟩ f.error with hkind | hkind
  · rw [hkind]
    rfl
  · rw [hkind]
    rfl

section

variable {start : Program σ → Action σ Reply} (hstart : ∀ s p, Leads s (start p))

include hstart

/-- A report is delivered before anything else. -/
theorem exists_events_fail (f : Fault) :
    ∃ later, (within s (fail start f)).2.events
      = later ++ .delivered (s.completed f) :: s.events :=
  (course_fail hstart f).exists_events_eq

theorem course_ended (line : String) (c : Command (Program σ))
    (result : Except Raised Reply × Session σ) :
    Course result.2 (ended start line c result).2 := by
  rcases result with ⟨e | r, t⟩
  · show Course t (if e.isCaught = true then _ else _ : Except Raised Bool × Session σ).2
    split
    · exact leads_fail hstart _
    · exact .refl
  · exact .refl

/-- A routine is called before anything else. -/
theorem exists_events_invoke (line : String) (c : Command (Program σ)) (role : Role)
    (routine : List Object → Program σ) (objects : List Object) :
    ∃ later, (within s (invoke start line c role routine objects)).2.events
      = later ++ .invoked c.outline.name role objects :: s.events := by
  have hroutine := hstart (calling s c role objects) (routine objects)
  rw [within_invoke]
  exact Course.exists_events_eq (hroutine.trans (course_ended hstart line c _))

/-- The conversion of a token begins with host code that converts, if anything
happens in it. -/
theorem starts_coerce (s : Session σ) (token : String) (p : Parameter) :
    Starts (fun e => e.isMismatch = false) s (within s (coerce start token p)).2 := by
  rw [within_coerce]
  split
  · exact starts_refl _ s
  · exact starts_refl _ s
  · exact starts_refl _ s
  · exact starts_of_events rfl (Course.exists_events_eq (hstart _ _))
  · exact starts_refl _ s
  · exact starts_refl _ s
  · exact starts_of_events rfl (Course.exists_events_eq (hstart _ _))

theorem starts_coerceAll (arguments : List (String × Parameter)) :
    ∀ (s : Session σ) (index : Nat),
      Starts (fun e => e.isMismatch = false) s (within s (coerceAll start index arguments)).2 := by
  induction arguments with
  | nil => exact fun s _ => starts_refl _ s
  | cons a rest ih =>
      intro s index
      have hfirst := starts_coerce hstart s a.1 a.2
      rw [within_coerceAll_cons]
      rcases hcoerce : within s (coerce start a.1 a.2) with ⟨e | v, t⟩
      · rw [hcoerce] at hfirst
        exact hfirst
      · rw [hcoerce] at hfirst
        exact hfirst.trans (ih t (index + 1))

/-- A call begins with host code that converts, with the routine, or with the
fault of an argument. -/
theorem starts_call (line : String) (c : Command (Program σ))
    (arguments : List (String × Parameter)) :
    Starts (fun e => e.isMismatch = false) s (within s (call start line c arguments)).2 := by
  have hcoerced := starts_coerceAll hstart arguments s 1
  rcases hresult : within s (coerceAll start 1 arguments) with ⟨e | f | objects, t⟩
  · unfold call
    rw [within_bind, hresult]
    rw [hresult] at hcoerced
    exact hcoerced
  · rw [within_call_error start hresult]
    rw [hresult] at hcoerced
    exact hcoerced.trans (starts_of_events (isMismatch_coercionFault t line c f)
      (exists_events_fail hstart _))
  · rw [within_call_ok start hresult]
    rw [hresult] at hcoerced
    exact hcoerced.trans (starts_of_events rfl (exists_events_invoke hstart line c _ _ objects))

end

-- ==================================================================== runs

/-- A run reports at once that too few arguments were typed. -/
def ReportsMismatch (s : Session σ) (line : String) (t : Session σ) : Prop :=
  ∃ f, nextEvent? t (begun s line) = some (.delivered f) ∧ f.kind = .arityMismatch

/-- A run whose line names a command, and what the line asks of it. -/
theorem within_run_request {start : Program σ → Action σ Reply} {c : Command (Program σ)}
    {line : String} (hline : line ≠ "")
    (hfound : s.registry.find? ((Line.tokens line).headD "") = some c) :
    within s (run start (.text line))
      = within (begun s line) (follow start line (Registry.request c (Line.tokens line))) := by
  have hdispatch : s.registry.dispatch line = Registry.request c (Line.tokens line) := by
    unfold Registry.dispatch
    dsimp only
    rw [hfound]
  rw [within_run start s hline, within_runLine, hdispatch]

section

variable {start : Program σ → Action σ Reply} (hstart : ∀ s p, Leads s (start p))
  {c : Command (Program σ)} {line : String} (hline : line ≠ "")
  (hfound : s.registry.find? ((Line.tokens line).headD "") = some c)

include hstart hline hfound

/-- A run of a line that names a command reports at once that too few
arguments were typed just if too few were typed and no default routine is
asked for. -/
theorem reportsMismatch_iff :
    ReportsMismatch s line (within s (run start (.text line))).2
      ↔ (Line.tokens line).tail.length < c.outline.parameters.length
        ∧ ¬ ((Line.tokens line).tail = [] ∧ c.default?.isSome = true) := by
  rw [within_run_request hline hfound]
  rcases Registry.request_cases c (Line.tokens line) with
    ⟨hfew, hother, hrequest⟩ | ⟨routine, hasks, hrequest⟩ | ⟨arguments, hasks, hrequest⟩
  · rw [hrequest, within_follow]
    obtain ⟨later, hlater⟩ := exists_events_fail hstart (s := begun s line)
      (Fault.arityMismatch s.host line c.outline (Line.tokens line).tail.length)
    exact iff_of_true ⟨_, nextEvent?_append hlater, rfl⟩ ⟨hfew, hother⟩
  · -- a default routine is called, and that is what happens first
    rw [hrequest, within_follow]
    obtain ⟨later, hlater⟩ :=
      exists_events_invoke hstart (s := begun s line) line c .default routine []
    refine iff_of_false ?_ ?_
    · rintro ⟨f, hf, -⟩
      rw [nextEvent?_append hlater] at hf
      cases hf
    · rintro ⟨hfew, hother⟩
      cases hasks with
      | default hroutine hbare =>
          rcases hbare with hnone | hnone
          · exact hother ⟨hnone, by rw [hroutine]; rfl⟩
          · rw [hnone] at hfew
            exact Nat.not_lt_zero _ hfew
  · rw [hrequest, within_follow]
    refine iff_of_false ?_ ?_
    · rintro ⟨f, hf, hkind⟩
      have hnot := (starts_call hstart line c arguments).of_nextEvent? hf
      exact Bool.false_ne_true (hnot.symm.trans (decide_eq_true hkind))
    · rintro ⟨hfew, -⟩
      cases hasks with
      | callback henough => exact absurd hfew (Nat.not_lt.2 henough)

/-- A line without arguments calls the default routine of its command at once,
if there is one. -/
theorem nextEvent?_run_bare (hnone : (Line.tokens line).tail = [])
    (hdefault : c.default?.isSome = true) :
    nextEvent? (within s (run start (.text line))).2 (begun s line)
      = some (.invoked c.outline.name .default []) := by
  rw [within_run_request hline hfound]
  rcases Registry.request_cases c (Line.tokens line) with
    ⟨-, hother, -⟩ | ⟨routine, -, hrequest⟩ | ⟨arguments, hasks, -⟩
  · exact absurd ⟨hnone, hdefault⟩ hother
  · rw [hrequest, within_follow]
    obtain ⟨later, hlater⟩ :=
      exists_events_invoke hstart (s := begun s line) line c .default routine []
    exact nextEvent?_append hlater
  · cases hasks with
    | callback _ hneither =>
        rcases hneither with habsent | ⟨hsome, -⟩
        · rw [habsent] at hdefault
          cases hdefault
        · exact absurd hnone hsome

end

/-- The hint for a line that names a command is the usage of the last parameters
of the command, as many as are left over by the arguments that are not empty,
and the usage of the command ends with it. If a run of the line reports that
too few arguments were typed, the hint is not empty. If the hint is not empty,
and no argument is, a run calls the default routine of the command, since no
argument was typed, or reports that too few were. -/
theorem hint_agrees {c : Command (Program σ)} {line : String} (hline : line ≠ "")
    (hfound : s.registry.find? ((Line.tokens line).headD "") = some c) (depth : Nat) :
    let arguments := (Line.tokens line).tail
    let left := c.outline.parameters.drop (arguments.filter (· != "")).length
    let hint := " ".intercalate (left.map Parameter.usage)
    let t := (within s (perform (start depth) (.run (.text line)))).2
    within s (perform (start depth) (.hint (.text line))) = (.ok (.text hint), s)
      ∧ left <:+ c.outline.parameters
      ∧ (∃ front, c.outline.usage = front ++ hint)
      ∧ (ReportsMismatch s line t → hint ≠ "")
      ∧ (hint ≠ "" → "" ∉ arguments →
          (arguments = [] ∧ c.default?.isSome = true
              ∧ nextEvent? t (begun s line) = some (.invoked c.outline.name .default []))
            ∨ ReportsMismatch s line t) := by
  intro arguments left hint t
  have hhint : s.registry.hint line = hint := by
    unfold Registry.hint
    dsimp only
    rw [hfound]
    rfl
  have ht : t = (within s (run (start depth) (.text line))).2 :=
    congrArg Prod.snd (within_perform_run (start depth) s (.text line))
  have hleft := c.outline.remainingUsage_ne_empty_iff (arguments.filter (· != "")).length
  refine ⟨?_, List.drop_suffix _ _, c.outline.exists_usage_eq _, ?_, ?_⟩
  · rw [← hhint]
    rfl
  · rw [ht, reportsMismatch_iff (leads_start depth) hline hfound]
    rintro ⟨hfew, -⟩
    exact hleft.2 (Nat.lt_of_le_of_lt (List.length_filter_le _ _) hfew)
  · intro hne hfull
    have hall : arguments.filter (· != "") = arguments :=
      List.filter_eq_self.2 fun a ha => bne_iff_ne.2 fun hempty => hfull (hempty ▸ ha)
    have hfew := hleft.1 hne
    rw [hall] at hfew
    rw [ht, reportsMismatch_iff (leads_start depth) hline hfound]
    by_cases hbare : arguments = [] ∧ c.default?.isSome = true
    · exact .inl ⟨hbare.1, hbare.2,
        nextEvent?_run_bare (leads_start depth) hline hfound hbare.1 hbare.2⟩
    · exact .inr ⟨hfew, hbare⟩

/-- A line with one of two arguments lacks the other one, and a run of it reports
this. -/
theorem hint_agrees_say :
    within talk (perform (start 1) (.hint (.text "say hi"))) = (.ok (.text "<(str)words>"), talk)
      ∧ ReportsMismatch talk "say hi"
        (within talk (perform (start 1) (.run (.text "say hi")))).2 := by
  have htokens : Line.tokens "say hi" = ["say", "hi"] := by decide
  have hfound : talk.registry.find? ((Line.tokens "say hi").headD "") = some saying := by
    have hname : Text.canonical "say" = "say" := by decide
    rw [htokens]
    simp [Registry.find?, hname, Registry.named?, talk]
  have hline : "say hi" ≠ "" := by decide
  obtain ⟨hhint, -, -, -, hconverse⟩ := hint_agrees hline hfound 1
  rw [htokens] at hhint hconverse
  have hleft : " ".intercalate ((saying.outline.parameters.drop
      ((["say", "hi"].tail.filter (· != "")).length)).map Parameter.usage) = "<(str)words>" := by
    decide
  refine ⟨hhint.trans (by rw [hleft]), ?_⟩
  rcases hconverse (by rw [hleft]; decide) (by decide) with ⟨hnone, -⟩ | hreport
  · cases hnone
  · exact hreport

end Session

end CommandConsole
