/-
The conversion of the arguments of a call.

The arguments are converted in their order, each in the session that the
conversion of the one before has left (`Converts`), and nothing is converted
after the first failure. If the parsers and the classes of the host only look
(`ModestParsing`), there are just two ways for this to end
(`exists_coerceAll`): all arguments are converted, or there is a first one
that is not. In both cases the calls of parsers and classes tell how far the
conversion has come, since each argument that was reached has made the calls
that its type asks for, and no other argument has made any
(`Parsers.calls`, `Converted`).
-/
import CommandConsole.Proofs.Parsers.Route
import CommandConsole.Proofs.Session.Looking

namespace CommandConsole

-- =================================================================== calls

namespace Event

/-- Host code was called to convert a token. -/
def isConversion : Event → Bool
  | .parsed _ _ | .constructed _ _ _ => true
  | _ => false

/-- The fault that was delivered. -/
def delivered? : Event → Option Fault
  | .delivered f => some f
  | _ => none

/-- The event tells of the conversion of an argument by host code that only
looks. -/
def isConverting : Event → Bool
  | .wrote _ => true
  | e => e.isConversion

end Event

namespace Parsers

variable {ρ : Type}

/-- The calls of host code with which a token is converted for a parameter:
one at most. -/
def calls (ps : Parsers ρ) (a : String × Parameter) : List Event :=
  match ps.route a.1 a.2 with
  | .ok (.parse _) => [.parsed a.2.type a.1]
  | .ok (.convert (.host home name arguments)) => [.constructed home name arguments]
  | _ => []

@[simp] theorem reverse_calls (ps : Parsers ρ) (a : String × Parameter) :
    (ps.calls a).reverse = ps.calls a := by
  unfold calls
  split
  · rfl
  · rfl
  · rfl

end Parsers

namespace Session

open CommandConsole.Action

variable {σ : Type}

/-- The faults that were delivered in a session, the latest one first. -/
def deliveries (s : Session σ) : List Fault := s.events.filterMap Event.delivered?

/-- Events that are no deliveries add none. -/
theorem deliveries_onward (s : Session σ) (state : σ) {since : List Event}
    (h : ∀ e ∈ since, e.delivered? = none) : deliveries (s.onward state since) = deliveries s := by
  show (since ++ s.events).filterMap Event.delivered? = _
  rw [List.filterMap_append, List.filterMap_eq_nil_iff.2 h]
  rfl

/-- The parsers of a session and the classes of its host only look. -/
structure ModestParsing (s : Session σ) : Prop where
  parsers : ∀ e ∈ s.parsers.entries, ∀ token, (e.parse token).Modest
  classes : ∀ home name arguments, (s.construct home name arguments).Modest

-- ================================================================== traces

/-- What converting some arguments leaves of a session, if the host code that
it calls only looks. -/
def Converted (s : Session σ) (arguments : List (String × Parameter)) (t : Session σ) : Prop :=
  ∃ state since, t = s.onward state since ∧ (∀ e ∈ since, e.isConverting = true)
    ∧ since.filter Event.isConversion = (arguments.flatMap s.parsers.calls).reverse

variable {s t u : Session σ} {arguments : List (String × Parameter)}

theorem converted_nil (s : Session σ) : Converted s [] s :=
  ⟨s.state, [], rfl, List.forall_mem_nil _, rfl⟩

theorem Converted.append {more : List (String × Parameter)} (h : Converted s arguments t)
    (hmore : Converted t more u) : Converted s (arguments ++ more) u := by
  obtain ⟨state, since, rfl, hsince, hcalls⟩ := h
  obtain ⟨state', later, rfl, hlater, hmorecalls⟩ := hmore
  refine ⟨state', later ++ since, onward_onward _ _ _ _ _,
    List.forall_mem_append.2 ⟨hlater, hsince⟩, ?_⟩
  rw [List.filter_append, hcalls, hmorecalls, List.flatMap_append, List.reverse_append]
  rfl

theorem Converted.modestParsing (h : Converted s arguments t) (hs : s.ModestParsing) :
    t.ModestParsing := by
  obtain ⟨_, _, rfl, -, -⟩ := h
  exact ⟨hs.parsers, hs.classes⟩

/-- Converting delivers no fault. -/
theorem Converted.deliveries_eq (h : Converted s arguments t) : deliveries t = deliveries s := by
  obtain ⟨state, since, rfl, hsince, -⟩ := h
  refine deliveries_onward s state fun e he => ?_
  cases e with
  | delivered f => cases hsince _ he
  | _ => rfl

/-- Converting calls no routine of a command. -/
theorem Converted.invocations_eq (h : Converted s arguments t) :
    invocations t = invocations s := by
  obtain ⟨_, since, rfl, hsince, -⟩ := h
  unfold invocations onward
  rw [List.filterMap_append, List.filterMap_eq_nil_iff.2, List.nil_append]
  intro e he
  cases e with
  | invoked command role objects => cases hsince _ he
  | _ => rfl

theorem Converted.fault?_eq (h : Converted s arguments t) : t.fault? = s.fault? := by
  obtain ⟨_, _, rfl, -, -⟩ := h
  rfl

/-- A call of host code that only looks is one step of a conversion. -/
theorem converted_call {e : Event} (he : e.isConversion = true) {a : String × Parameter}
    (hcalls : s.parsers.calls a = [e]) {program : Program σ} (hprogram : program.Modest)
    (depth : Nat) :
    ∃ outcome t,
      within { s with events := e :: s.events } (start (depth + 1) program) = (outcome, t)
        ∧ Tame outcome ∧ Converted s [a] t := by
  obtain ⟨outcome, state, texts, hrun, houtcome⟩ :=
    hprogram.exists_start depth { s with events := e :: s.events }
  have hwrote : ∀ w ∈ texts.map Event.wrote, w.isConverting = true ∧ w.isConversion ≠ true :=
    List.forall_mem_map.2 fun _ _ => ⟨rfl, Bool.false_ne_true⟩
  have hconverting : e.isConverting = true := by
    cases e with
    | parsed | constructed => rfl
    | _ => cases he
  refine ⟨outcome, _, hrun, houtcome, state, texts.map .wrote ++ [e], ?_, ?_, ?_⟩
  · exact onward_onward s s.state state [e] (texts.map .wrote)
  · exact List.forall_mem_append.2
      ⟨fun w hw => (hwrote w hw).1, List.forall_mem_singleton.2 hconverting⟩
  · rw [List.filter_append, List.filter_eq_nil_iff.2 fun w hw => (hwrote w hw).2,
      List.flatMap_singleton, Parsers.reverse_calls, hcalls, List.filter_cons_of_pos he]
    rfl

/-- The conversion of an argument answers or raises an error, and it makes the
calls that the type of the argument asks for. -/
theorem exists_coerce (h : s.ModestParsing) (depth : Nat) (a : String × Parameter) :
    ∃ outcome t, within s (coerce (start (depth + 1)) a.1 a.2) = (outcome, t)
      ∧ Tame outcome ∧ Converted s [a] t := by
  have hquiet : s.parsers.calls a = [] → Converted s [a] s := fun hcalls =>
    ⟨s.state, [], rfl, List.forall_mem_nil _, by simp [hcalls]⟩
  rw [within_coerce]
  cases hroute : s.parsers.route a.1 a.2 with
  | error p => exact ⟨_, s, rfl, tame_problem p, hquiet (by simp [Parsers.calls, hroute])⟩
  | ok route =>
      cases route with
      | absent => exact ⟨_, s, rfl, tame_ok _, hquiet (by simp [Parsers.calls, hroute])⟩
      | unknown => exact ⟨_, s, rfl, tame_error rfl, hquiet (by simp [Parsers.calls, hroute])⟩
      | parse program =>
          obtain ⟨e, he, rfl⟩ := Parsers.exists_of_route_eq_parse hroute
          obtain ⟨outcome, t, hrun, houtcome, hconverted⟩ :=
            converted_call (s := s) (a := a) (e := .parsed a.2.type a.1) rfl
              (by simp [Parsers.calls, hroute]) (h.parsers e he a.1) depth
          dsimp only
          rw [hrun]
          exact ⟨_, t, rfl, houtcome.map _, hconverted⟩
      | convert c =>
          cases c with
          | object x => exact ⟨_, s, rfl, tame_ok _, hquiet (by simp [Parsers.calls, hroute])⟩
          | problem p => exact ⟨_, s, rfl, tame_problem p, hquiet (by simp [Parsers.calls, hroute])⟩
          | host home name arguments =>
              obtain ⟨outcome, t, hrun, houtcome, hconverted⟩ :=
                converted_call (s := s) (a := a) (e := .constructed home name arguments) rfl
                  (by simp [Parsers.calls, hroute]) (h.classes home name arguments) depth
              dsimp only
              rw [hrun]
              exact ⟨_, t, rfl, houtcome.map _, hconverted⟩

variable {start : Program σ → Action σ Reply}

/-- Some arguments are converted to some objects, one after the other. -/
inductive Converts (start : Program σ → Action σ Reply) :
    Session σ → List (String × Parameter) → List Object → Session σ → Prop
  | nil (s : Session σ) : Converts start s [] [] s
  | cons {s t u : Session σ} {a : String × Parameter} {v : Value}
      {rest : List (String × Parameter)} {objects : List Object}
      (hfirst : within s (coerce start a.1 a.2) = (.ok v, t))
      (hrest : Converts start t rest objects u) :
      Converts start s (a :: rest) (v.object :: objects) u

/-- Arguments that are converted leave no more than the calls that their types
ask for, if the host code that is called only looks. -/
theorem Converts.converted {depth : Nat} {arguments : List (String × Parameter)}
    {objects : List Object} (h : Converts (Session.start (depth + 1)) s arguments objects t)
    (hs : s.ModestParsing) : Converted s arguments t := by
  induction h with
  | nil s => exact converted_nil s
  | @cons s t u a v rest objects hfirst _ ih =>
      obtain ⟨outcome, t', hcoerce, -, hconverted⟩ := exists_coerce hs depth a
      obtain ⟨-, rfl⟩ := Prod.mk.inj (hfirst.symm.trans hcoerce)
      exact hconverted.append (ih (hconverted.modestParsing hs))

end Session

end CommandConsole
