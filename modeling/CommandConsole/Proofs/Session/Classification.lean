/-
What a console reports of an argument that cannot be converted.

The conversion of an argument fails for one of three reasons (`Failing`): its
type is not supported, or the host code that was called for it has raised
something, or the console itself refuses the token. The first argument that
fails ends the conversion (`within_coerceAll_error`), and the run reports
why.

The report is about an unknown type or about the argument. It goes by the
error alone, not by the reason: a fault of an unknown type is reported as
such, whoever has raised it, and every other error is reported as that of the
argument (`run_misfit`). So a parser that raises such a fault has its own type
reported as unknown (`run_misleading`).
-/
import CommandConsole.Proofs.Session.LastFault
import CommandConsole.Proofs.Session.Outcome

namespace CommandConsole

-- ================================================================== faults

namespace Fault

variable (h : Host) (p : Place) (e : Raised)

/-- A fault of an unknown type is reported as such, and nothing else is. -/
theorem kind_ofCoercion_eq_unknownType_iff :
    (ofCoercion h p e).kind = .unknownType ↔ ∃ f, e = .fault f ∧ f.kind = .unknownType := by
  unfold ofCoercion
  split
  · exact iff_of_true rfl ⟨_, rfl, rfl⟩
  · next hother =>
    refine iff_of_false nofun ?_
    rintro ⟨⟨kind, message, options⟩, rfl, hkind⟩
    cases hkind
    exact hother _ _ rfl

theorem option?_parameter_ofCoercion :
    (ofCoercion h p e).option? "parameter" = some (.parameter p.parameter) := by
  unfold ofCoercion
  split
  · exact FaultOf.option?_replace _ _ _
  · rfl

/-- The fault of an argument keeps the error. -/
theorem option?_exception_ofCoercion (hkind : (ofCoercion h p e).kind = .parameterCoercion) :
    (ofCoercion h p e).option? "exception" = some (.error e) := by
  unfold ofCoercion at hkind ⊢
  split at hkind
  · cases hkind
  · rfl

end Fault

namespace Registry

variable {ρ : Type}

/-- The empty line names no command. -/
theorem dispatch_empty (r : Registry ρ) : r.dispatch "" = .unknown "" := by
  have hfind : r.find? ((Line.tokens "").headD "") = none := by
    have hcanonical : Text.canonical ((Line.tokens "").headD "") = "" := by decide
    unfold find?
    rw [hcanonical]
    rfl
  unfold dispatch
  dsimp only
  rw [hfind]
  rfl

end Registry

namespace Session

open CommandConsole.Action

variable {σ : Type} {start : Program σ → Action σ Reply} {s t u : Session σ}
  {a : String × Parameter} {e : Raised}

-- ================================================================= reasons

/-- The host code that was called to convert an argument has raised an
error. -/
inductive HostRaises (start : Program σ → Action σ Reply) (s : Session σ)
    (a : String × Parameter) (e : Raised) (t : Session σ) : Prop
  | parser {program : Program σ} (hroute : s.parsers.route a.1 a.2 = .ok (.parse program))
      (h : within { s with events := .parsed a.2.type a.1 :: s.events } (start program)
        = (.error e, t))
  | class {home name : String} {arguments : List Object}
      (hroute : s.parsers.route a.1 a.2 = .ok (.convert (.host home name arguments)))
      (h : within { s with events := .constructed home name arguments :: s.events }
        (start (s.construct home name arguments)) = (.error e, t))

/-- Why the conversion of an argument has failed with an error. -/
inductive Failing (start : Program σ → Action σ Reply) (s : Session σ)
    (a : String × Parameter) (t : Session σ) : Raised → Prop
  | unsupported (h : s.parsers.Unsupported a.2.type) :
      Failing start s a t (.fault (Fault.unknownType a.2.type))
  | host {e : Raised} (h : HostRaises start s a e t) : Failing start s a t e
  | refused (q : Problem) : Failing start s a t (.problem q)

theorem failing_of_coerce_eq_error (h : within s (coerce start a.1 a.2) = (.error e, t)) :
    Failing start s a t e := by
  have hraised : ∀ {result : Except Raised Reply × Session σ} {type : Ty},
      valued type result = (.error e, t) → result = (.error e, t) := by
    rintro ⟨e' | r, t'⟩ type hresult
    · cases hresult
      rfl
    · cases hresult
  rw [within_coerce] at h
  split at h
  · cases h
    exact .refused _
  · cases h
  · next hroute =>
    cases h
    exact .unsupported (Parsers.unsupported_of_route_eq_unknown hroute)
  · next hroute => exact .host (.parser hroute (hraised h))
  · cases h
  · cases h
    exact .refused _
  · next hroute => exact .host (.class hroute (hraised h))

/-- The conversion of an argument whose type is not supported can only fail
for that. -/
theorem eq_of_unsupported (hunsupported : s.parsers.Unsupported a.2.type)
    (h : within s (coerce start a.1 a.2) = (.error e, t)) :
    e = .fault (Fault.unknownType a.2.type) := by
  rw [within_coerce] at h
  rcases hunsupported.route_cases a.1 with hroute | hroute
  · rw [hroute] at h
    cases h
  · rw [hroute] at h
    cases h
    rfl

-- ============================================================ the first one

/-- The first argument that cannot be converted ends the conversion. -/
theorem within_coerceAll_error {before : List (String × Parameter)} {objects : List Object}
    (hbefore : Converts start s before objects u)
    (hfails : within u (coerce start a.1 a.2) = (.error e, t)) (hcaught : e.isCaught = true)
    (after : List (String × Parameter)) :
    ∀ index, within s (coerceAll start index (before ++ a :: after))
      = (.ok (.error ⟨index + before.length, a.1, a.2, e⟩), t) := by
  induction hbefore with
  | nil s =>
      intro index
      rw [List.nil_append, within_coerceAll_cons, hfails]
      dsimp only
      rw [if_pos hcaught]
      rfl
  | @cons s v u b value rest objects hfirst hrest ih =>
      intro index
      rw [List.cons_append, within_coerceAll_cons, hfirst]
      dsimp only
      rw [ih hfails, List.length_cons, Nat.add_comm rest.length 1, ← Nat.add_assoc]
      rfl

/-- A run in which an argument cannot be converted, and those before it can,
reports one fault and answers as the report does. The fault tells the token,
the position and the parameter of that argument. It is about an unknown type
if the type of the argument is not supported, or if host code that was called
for the argument has raised a fault of an unknown type; in all other cases it
is about the argument, and it keeps the error. -/
theorem run_misfit {line : String} {c : Command (Program σ)}
    {before after : List (String × Parameter)} {objects : List Object}
    (hdispatch : s.registry.dispatch line = .call c (before ++ a :: after))
    (hbefore : Converts start (begun s line) before objects u)
    (hfails : within u (coerce start a.1 a.2) = (.error e, t)) (hcaught : e.isCaught = true) :
    ∃ f, within s (run start (.text line))
          = within (delivering t f) (handOver start f >>= fun _ => pure false)
      ∧ f.option? "token" = some (.text a.1)
      ∧ f.option? "index" = some (.object (.int (before.length + 1 : Nat)))
      ∧ f.option? "parameter" = some (.parameter a.2)
      ∧ (f.kind = .unknownType ∨ f.kind = .parameterCoercion)
      ∧ (f.kind = .unknownType ↔ u.parsers.Unsupported a.2.type
          ∨ HostRaises start u a e t ∧ ∃ g, e = .fault g ∧ g.kind = .unknownType)
      ∧ (f.kind = .parameterCoercion → f.option? "exception" = some (.error e)) := by
  have hline : line ≠ "" := by
    rintro rfl
    cases s.registry.dispatch_empty.symm.trans hdispatch
  let place : Fault.Place := ⟨line, c.outline, 1 + before.length, a.1, a.2⟩
  have hrun : within s (run start (.text line))
      = within t (fail start (Fault.ofCoercion t.host place e)) := by
    have hall := within_coerceAll_error hbefore hfails hcaught after 1
    rw [within_run start s hline, within_runLine, hdispatch, within_follow]
    dsimp only
    rw [within_call_error start hall]
    rfl
  generalize hf : Fault.ofCoercion t.host place e = f at hrun
  obtain ⟨hindex, htoken⟩ := Fault.option?_ofCoercion t.host place e
  rw [hf] at hindex htoken
  have hindex : f.option? "index" = some (.object (.int (before.length + 1 : Nat))) := by
    rw [Nat.add_comm before.length 1]
    exact hindex
  have hkind := Fault.kind_ofCoercion_eq_unknownType_iff t.host place e
  have hparameter := Fault.option?_parameter_ofCoercion t.host place e
  have hone := Fault.isCoercion_ofCoercion t.host place e
  rw [hf] at hkind hparameter hone
  refine ⟨t.completed f, ?_, (FaultOf.option?_replace f _ _).trans htoken,
    (FaultOf.option?_replace f _ _).trans hindex,
    (FaultOf.option?_replace f _ _).trans hparameter, hone.symm, ?_, fun hcoercion => ?_⟩
  · rw [hrun, within_fail]
  · rw [kind_completed, hkind]
    constructor
    · rintro ⟨g, rfl, hg⟩
      cases failing_of_coerce_eq_error hfails with
      | unsupported h => exact .inl h
      | host h => exact .inr ⟨h, g, rfl, hg⟩
    · rintro (h | ⟨-, h⟩)
      · exact ⟨_, eq_of_unsupported h hfails, rfl⟩
      · exact h
  · have hexception := Fault.option?_exception_ofCoercion t.host place e (hf ▸ hcoercion)
    rw [hf] at hexception
    exact (FaultOf.option?_replace f _ _).trans hexception

/-- A command with one parameter. -/
def taking (type : Ty) : Command (Program Unit) :=
  ⟨⟨"cmd", [], "", [⟨"p", "", type, false⟩], true⟩, fun _ => .answer .nothing, none⟩

/-- A receiver of the faults that drops them. -/
def dropping (_ : Fault) : Program Unit := .answer .nothing

/-- A session with some parsers and such a command, in which the faults are
dropped. -/
def asking (type : Ty) (parsers : Parsers (Program Unit)) : Session Unit :=
  { beginning ⟨"devconsole", true, false, true, false⟩ (History.empty 10) false .quiet with
    parsers := parsers
    registry := ⟨[("cmd", taking type)]⟩
    fallback? := some dropping }

/-- A word for a number is reported as an argument that cannot be
converted. -/
theorem run_misfit_word :
    let p : Parameter := ⟨"p", "", .int, false⟩
    ∃ f t, within (asking .int .empty) (run (Session.start 1) (.text "cmd x")) = (.ok false, t)
      ∧ t.fault? = some f ∧ f.kind = .parameterCoercion ∧ f.option? "token" = some (.text "x")
      ∧ f.option? "parameter" = some (.parameter p) := by
  intro p
  let s := asking .int .empty
  have hdispatch : s.registry.dispatch "cmd x" = .call (taking .int) ([] ++ [("x", p)]) := rfl
  have hfails : within (begun s "cmd x") (coerce (Session.start 1) "x" p)
      = (.error (.problem (.notInteger 10 "x")), begun s "cmd x") := rfl
  obtain ⟨f, hrun, htoken, -, hparameter, hkind, hunknown, -⟩ :=
    run_misfit hdispatch (.nil _) hfails rfl
  have hcoercion : f.kind = .parameterCoercion := by
    refine hkind.resolve_left fun h => ?_
    rcases hunknown.1 h with ⟨-, hsupports⟩ | ⟨-, g, hg, -⟩
    · cases hsupports
    · cases hg
  have hhanded : within (delivering (begun s "cmd x") f) (handOver (Session.start 1) f)
      = (.ok (), delivering (begun s "cmd x") f) := rfl
  refine ⟨f, _, hrun.trans (within_bind_ok hhanded _), ?_, hcoercion, htoken, hparameter⟩
  show (if f.kind.isWarning = true then _ else _) = _
  rw [hcoercion]
  rfl

/-- A class of the host. -/
def tagClass : Ty := .host "host" "Tag"

/-- A parser that raises a fault of an unknown type, whatever it is given. -/
def evasive (_ : String) : Program Unit :=
  .raise (.fault ⟨.unknownType, some "no route", []⟩)

/-- A type that has a parser may be reported as unknown: if the parser raises
such a fault itself. -/
theorem run_misleading :
    let s := asking tagClass ⟨[⟨tagClass, evasive, none⟩]⟩
    ∃ s₀, openWith bareOptions .quiet = .ok s₀
      ∧ s₀.after [.registerType tagClass (.routine evasive) none,
          .register (.command (taking tagClass)) false, .fallback (.routine dropping)] = s
      ∧ s.parsers.contains tagClass = true
      ∧ (operate s (.run (.text "cmd x"))).2.fault?.map (·.kind) = some .unknownType :=
  ⟨_, rfl, rfl, rfl, rfl⟩

end Session

end CommandConsole
