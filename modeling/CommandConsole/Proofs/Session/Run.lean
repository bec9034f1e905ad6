/-
The stages of a run.

What each stage does to the session is said by one equation, with the
sessions in between as definitions: a run begins (`begun`), follows what its
line asks for, and calls a routine in a session that knows of the call
(`calling`). When the routine has come to an end, the run ends as it says
(`ended`): an error that is caught is reported, any other one passes
through.

Reporting a fault is the last thing that a run does. It shows in the fault
of the session, in the events and in what the receiver of the faults does,
and nowhere else (`Unreported.fail`). In particular it is no call of a
routine (`unreported_invocations`).
-/
import CommandConsole.Proofs.Session.Action
import CommandConsole.Session.Run

namespace CommandConsole.Session

open CommandConsole.Action

variable {σ τ : Type} (start : Program σ → Action σ Reply)

-- ================================================================ reports

/-- Reports of faults do not show in a part of the session. -/
structure Unreported (part : Session σ → τ) : Prop where
  fault? : ∀ s f?, part { s with fault? := f? } = part s
  delivered : ∀ s f, part { s with events := .delivered f :: s.events } = part s
  wrote : ∀ s text, part { s with events := .wrote text :: s.events } = part s
  warned : ∀ s f, part { s with events := .warned f :: s.events } = part s

variable {part : Session σ → τ}

/-- Bringing a fault to where its options say keeps a part of the session in
which neither a text that is written nor a warning shows. -/
theorem keeps_surface
    (hwrote : ∀ s text, part { s with events := .wrote text :: s.events } = part s)
    (hwarned : ∀ s f, part { s with events := .warned f :: s.events } = part s)
    (s : Session σ) (f : Fault) : Keeps part s (surface f) := by
  unfold Session.surface display
  have hprint : Keeps part s (printFault f) :=
    keeps_session_bind (keeps_ofExcept_bind fun text => keeps_note (hwrote s text))
  split
  · split
    · exact hprint
    · exact hprint
    · exact keeps_refuse _
  · split
    · exact keeps_note (hwarned s f)
    · exact keeps_throw _

/-- A part of a session is kept by the one who receives the faults, if there
is one. -/
def ReceiverKeeps (part : Session σ → τ) (s : Session σ) : Prop :=
  ∀ receive, s.fallback? = some receive → ∀ f t, Keeps part t (start (receive f))

variable {start} {s : Session σ}

/-- Delivering a fault keeps such a part if the receiver does. -/
theorem Unreported.deliver (h : Unreported part) (hreceiver : ReceiverKeeps start part s)
    (f : Fault) : Keeps part s (deliver start f) := by
  unfold Session.deliver
  refine keeps_note_bind (h.delivered s f) (keeps_session_bind ?_)
  split
  · next receive hreceive => exact (hreceiver receive hreceive f _).map _
  · exact keeps_surface h.wrote h.warned _ f

/-- Triggering a fault keeps such a part if the receiver does. -/
theorem Unreported.trigger (h : Unreported part) (hreceiver : ReceiverKeeps start part s)
    (f : Fault) (options : List (String × Detail Raised)) :
    Keeps part s (trigger start f options) := by
  unfold Session.trigger
  refine keeps_session_bind (keeps_ofExcept_bind fun full => ?_)
  split
  · have hsame : ReceiverKeeps start part { s with fault? := some full } := hreceiver
    refine keeps_modify_bind (h.fault? s (some full)) ?_
    exact (h.deliver hsame full).bind fun _ _ _ => keeps_pure full
  · exact (h.deliver hreceiver full).bind fun _ _ _ => keeps_pure full

/-- Reporting a fault keeps such a part if the receiver does. -/
theorem Unreported.fail (h : Unreported part) (hreceiver : ReceiverKeeps start part s)
    (f : Fault) : Keeps part s (fail start f) :=
  ((h.trigger hreceiver f []).map _).bind fun _ _ _ => keeps_pure false

variable (start)

-- ============================================================== converting

/-- What comes of host code that was called to convert a token for a type. -/
def valued (type : Ty) (result : Except Raised Reply × Session σ) :
    Except Raised Value × Session σ :=
  (result.1.map fun r => Value.ofObject r.value type, result.2)

/-- A token is converted along its route, which calls host code once at
most. -/
theorem within_coerce (s : Session σ) (token : String) (p : Parameter) :
    within s (coerce start token p)
      = match s.parsers.route token p with
        | .error q => (.error (.problem q), s)
        | .ok .absent => (.ok (Value.absent p.type), s)
        | .ok .unknown => (.error (.fault (Fault.unknownType p.type)), s)
        | .ok (.parse program) =>
            valued p.type (within { s with events := .parsed p.type token :: s.events }
              (start program))
        | .ok (.convert (.object x)) => (.ok (Value.ofObject x p.type), s)
        | .ok (.convert (.problem q)) => (.error (.problem q), s)
        | .ok (.convert (.host home name arguments)) =>
            valued p.type (within { s with events := .constructed home name arguments :: s.events }
              (start (s.construct home name arguments))) := by
  have hconverted : ∀ home name arguments, within s (converted start (.host home name arguments))
      = (let result := within { s with events := .constructed home name arguments :: s.events }
          (start (s.construct home name arguments))
        (result.1.map Reply.value, result.2)) := by
    intro home name arguments
    unfold converted
    rw [within_bind_ok (within_note _ _), within_bind_ok (within_session _), within_bind_pure]
  unfold coerce
  rw [within_bind_ok (within_session s)]
  cases s.parsers.route token p with
  | error q => rfl
  | ok route =>
      rw [within_bind_ok (within_ofExcept_ok s route)]
      cases route with
      | absent | unknown => rfl
      | parse program =>
          dsimp only
          rw [within_bind_ok (within_note _ _), within_bind_pure]
          rfl
      | convert c =>
          cases c with
          | object x => rfl
          | problem q => rfl
          | host home name arguments =>
              dsimp only
              rw [within_bind_pure, hconverted]
              rcases within { s with events := .constructed home name arguments :: s.events }
                (start (s.construct home name arguments)) with ⟨_ | _, t⟩
              · rfl
              · rfl

/-- The arguments are converted one after the other, up to the first one that
cannot be. -/
theorem within_coerceAll_cons (s : Session σ) (index : Nat) (a : String × Parameter)
    (rest : List (String × Parameter)) :
    within s (coerceAll start index (a :: rest))
      = match within s (coerce start a.1 a.2) with
        | (.ok v, t) =>
            let result := within t (coerceAll start (index + 1) rest)
            (result.1.map fun outcome => outcome.map (v.object :: ·), result.2)
        | (.error e, t) =>
            (if e.isCaught then .ok (.error ⟨index, a.1, a.2, e⟩) else .error e, t) := by
  rw [coerceAll, within_bind_ok (within_attempt s _)]
  rcases within s (coerce start a.1 a.2) with ⟨e | v, t⟩
  · show within t (if e.isCaught = true then _ else _) = _
    dsimp only
    split
    · rfl
    · rfl
  · exact within_bind_pure _ _ _

-- ================================================================= calling

/-- The calls of routines in a session, the latest one first. -/
def invocations (s : Session σ) : List (String × Role × List Object) :=
  s.events.filterMap fun event =>
    match event with
    | .invoked command role objects => some (command, role, objects)
    | _ => none

/-- A report of a fault is no call of a routine. -/
theorem unreported_invocations : Unreported (@invocations σ) where
  fault? := fun _ _ => rfl
  delivered := fun _ _ => rfl
  wrote := fun _ _ => rfl
  warned := fun _ _ => rfl

/-- A session in which a routine of a command is called. -/
def calling (s : Session σ) (c : Command (Program σ)) (role : Role) (objects : List Object) :
    Session σ :=
  { s with events := .invoked c.outline.name role objects :: s.events }

/-- How a run ends whose routine has come to an end. -/
def ended (line : String) (c : Command (Program σ)) :
    Except Raised Reply × Session σ → Except Raised Bool × Session σ
  | (.ok _, t) => (.ok true, t)
  | (.error e, t) =>
      if e.isCaught then
        within t (fail start (Fault.callbackFailed t.host line c.outline e))
      else (.error e, t)

theorem ended_ok (line : String) (c : Command (Program σ)) (r : Reply) (t : Session σ) :
    ended start line c (.ok r, t) = (.ok true, t) := rfl

/-- A routine is called once, and the run ends when it has. -/
theorem within_invoke (s : Session σ) (line : String) (c : Command (Program σ)) (role : Role)
    (routine : List Object → Program σ) (objects : List Object) :
    within s (invoke start line c role routine objects)
      = ended start line c (within (calling s c role objects) (start (routine objects))) := by
  have hnote : within s (note (.invoked c.outline.name role objects))
      = (.ok (), calling s c role objects) := rfl
  unfold invoke
  rw [within_bind_ok hnote, within_bind_ok (within_attempt _ _)]
  rcases within (calling s c role objects) (start (routine objects)) with ⟨e | r, t⟩
  · show within t (if e.isCaught = true then _ else _) = if e.isCaught = true then _ else _
    split
    · exact within_bind_ok (within_session t) _
    · rfl
  · rfl

/-- The end of a run keeps what does not show reports, if the receiver of
the faults does. -/
theorem Unreported.ended {start : Program σ → Action σ Reply} (h : Unreported part)
    (result : Except Raised Reply × Session σ) (hreceiver : ReceiverKeeps start part result.2)
    (line : String) (c : Command (Program σ)) :
    part (ended start line c result).2 = part result.2 := by
  rcases result with ⟨e | r, t⟩
  · show part (if e.isCaught = true then _ else _ : Except Raised Bool × Session σ).2 = part t
    split
    · exact h.fail hreceiver _
    · rfl
  · rfl

-- =================================================================== runs

/-- A session in which a run of a line has begun. -/
def begun (s : Session σ) (line : String) : Session σ :=
  { s with
    fault? := none
    history := s.history.record (s.registry.recordedName line) line
    events := .began (s.registry.recordedName line) line :: s.events }

theorem within_begin (s : Session σ) (line : String) :
    within s (begin line) = (.ok (), begun s line) := by
  unfold Session.begin
  rw [within_bind_ok (within_session s), within_bind_ok (within_set s _)]
  rfl

/-- A run begins and does what its line asks for. -/
theorem within_runLine (s : Session σ) (line : String) :
    within s (runLine start line)
      = within (begun s line) (follow start line (s.registry.dispatch line)) := by
  unfold runLine
  rw [within_bind_ok (within_session s), within_bind_ok (within_begin s line)]

/-- A run of a line that is not empty. -/
theorem within_run (s : Session σ) {line : String} (h : line ≠ "") :
    within s (run start (.text line)) = within s (runLine start line) := by
  have hrun : within s (run start (.text line))
      = within s (if line = "" then Action.refuse (.emptyText "run()") else runLine start line) :=
    rfl
  rw [hrun, if_neg h]

/-- A line from an input field is passed over if it is blank, and run
otherwise, without the line feeds at its end. -/
theorem within_submit (s : Session σ) (text : String) :
    within s (submit start (.text text))
      = if Text.isBlankText (Text.trimEndOf '\n' text) = true then (.ok false, s)
        else within s (runLine start (Text.trimEndOf '\n' text)) := by
  have htext : within s (ofExcept ((Object.text text).asText "submit()")) = (.ok text, s) := rfl
  unfold submit
  rw [within_bind_ok htext]
  dsimp only
  split
  · rfl
  · rfl

/-- A run does the one thing that its line asks for. -/
theorem within_follow (s : Session σ) (line : String) (d : Dispatch (Program σ)) :
    within s (follow start line d)
      = match d with
        | .unknown token =>
            within s (fail start
              (Fault.commandNotFound s.host line token (s.registry.similar token)))
        | .bare c routine => within s (invoke start line c .default routine [])
        | .mismatch c given =>
            within s (fail start (Fault.arityMismatch s.host line c.outline given))
        | .call c arguments => within s (call start line c arguments) := by
  unfold follow
  rw [within_bind_ok (within_session s)]
  cases d with
  | unknown | bare | mismatch | call => rfl

/-- A call converts its arguments and goes on with the objects. -/
theorem within_call_ok {s t : Session σ} {line : String} {c : Command (Program σ)}
    {arguments : List (String × Parameter)} {objects : List Object}
    (h : within s (coerceAll start 1 arguments) = (.ok (.ok objects), t)) :
    within s (call start line c arguments)
      = within t (invoke start line c .callback c.callback objects) := by
  unfold call
  rw [within_bind_ok h]

/-- The fault of a call in which an argument cannot be converted. -/
def coercionFault (t : Session σ) (line : String) (c : Command (Program σ)) (f : Failure) : Fault :=
  Fault.ofCoercion t.host ⟨line, c.outline, f.index, f.token, f.parameter⟩ f.error

/-- A call reports the first argument that cannot be converted. -/
theorem within_call_error {s t : Session σ} {line : String} {c : Command (Program σ)}
    {arguments : List (String × Parameter)} {f : Failure}
    (h : within s (coerceAll start 1 arguments) = (.ok (.error f), t)) :
    within s (call start line c arguments) = within t (fail start (t.coercionFault line c f)) := by
  unfold call
  rw [within_bind_ok h]
  exact within_bind_ok (within_session t) _

end CommandConsole.Session
