/-
What a run calls routines with.

A run comes to call a routine of a command in one way only: the command is the one that
the first token finds, and the objects are those that its arguments were converted to.
In every other case the run reports a fault, or lets an error pass, before it has called
any (`Dispatched`).

If the command was built from routines, the one for the arguments is called with as many
objects as the command has parameters, the one in each place converted for the parameter
in that place. The default one is called with none, and only for a line without a space.
Either way the objects can be bound to what the routine tells of its formals (`Fits`,
`run_arity`).
-/
import CommandConsole.Proofs.Command.Signature
import CommandConsole.Proofs.Line.Grammar
import CommandConsole.Proofs.Session.Arguments
import CommandConsole.Proofs.Session.Classification

namespace CommandConsole

/-- A line whose first token is its only one has no space in it. -/
theorem Line.space_notMem_of_tail_tokens {line : String} (h : (tokens line).tail = []) :
    ' ' ∉ line.toList := by
  intro hspace
  obtain ⟨name, rest, hpieces, hrest⟩ := pieces_of_space_mem hspace
  unfold tokens at h
  rw [hpieces] at h
  exact scan_ne_nil hrest none h

namespace Session

open CommandConsole.Action

variable {σ : Type} {start : Program σ → Action σ Reply} {s t u : Session σ} {line : String}
  {c : Command (Program σ)}

-- =================================================================== a run

/-- An argument cannot be converted, and those before it can. -/
inductive Stalls (start : Program σ → Action σ Reply) (s : Session σ) (e : Raised)
    (u : Session σ) : Prop
  | intro {before : List (String × Parameter)} {objects : List Object} {t : Session σ}
      {a : String × Parameter} (hbefore : Converts start s before objects t)
      (hfails : within t (coerce start a.1 a.2) = (.error e, u))

/-- All arguments of a call are converted, or one of them is not. Then its error is told,
if it is one to be caught, and passes otherwise. -/
theorem coerceAll_cases (start : Program σ → Action σ Reply)
    (arguments : List (String × Parameter)) :
    ∀ (s : Session σ) (index : Nat),
      (∃ objects u, within s (coerceAll start index arguments) = (.ok (.ok objects), u)
          ∧ Converts start s arguments objects u)
        ∨ (∃ f u, within s (coerceAll start index arguments) = (.ok (.error f), u)
          ∧ Stalls start s f.error u)
        ∨ ∃ e u, within s (coerceAll start index arguments) = (.error e, u)
          ∧ e.isCaught = false ∧ Stalls start s e u := by
  have hlater : ∀ {s t u : Session σ} {a : String × Parameter} {v : Value} {e : Raised},
      within s (coerce start a.1 a.2) = (.ok v, t) → Stalls start t e u → Stalls start s e u := by
    rintro s t u a v e hfirst ⟨hbefore, hfails⟩
    exact ⟨.cons hfirst hbefore, hfails⟩
  induction arguments with
  | nil => exact fun s index => .inl ⟨[], s, rfl, .nil s⟩
  | cons a rest ih =>
      intro s index
      rw [within_coerceAll_cons]
      rcases hfirst : within s (coerce start a.1 a.2) with ⟨e | v, t⟩
      · have hstalls : Stalls start s e t := ⟨.nil s, hfirst⟩
        right
        dsimp only
        by_cases hcaught : e.isCaught = true
        · rw [if_pos hcaught]
          exact .inl ⟨_, t, rfl, hstalls⟩
        · rw [if_neg hcaught]
          exact .inr ⟨e, t, rfl, Bool.eq_false_iff.2 hcaught, hstalls⟩
      · dsimp only
        rcases ih t (index + 1) with
          ⟨objects, u, hrest, hconverts⟩ | ⟨f, u, hrest, hstalls⟩ | ⟨e, u, hrest, hpasses, hstalls⟩
        · rw [hrest]
          exact .inl ⟨v.object :: objects, u, rfl, .cons hfirst hconverts⟩
        · rw [hrest]
          exact .inr (.inl ⟨f, u, rfl, hlater hfirst hstalls⟩)
        · rw [hrest]
          exact .inr (.inr ⟨e, u, rfl, hpasses, hlater hfirst hstalls⟩)

/-- What a run of a line comes to. It calls a routine in one case only. -/
inductive Dispatched (start : Program σ → Action σ Reply) (s : Session σ) (line : String) :
    Except Raised Bool × Session σ → Prop
  /-- The line is empty, and is no line to run. -/
  | refused (hline : line = "") (q : Problem) : Dispatched start s line (.error (.problem q), s)
  /-- No command is found, or too few arguments were typed. -/
  | rejected (f : Fault) : Dispatched start s line (within (begun s line) (fail start f))
  /-- An argument cannot be converted. -/
  | misfit {e : Raised} {u : Session σ} (h : Stalls start (begun s line) e u) (f : Fault) :
      Dispatched start s line (within u (fail start f))
  /-- The error of an argument is none to be caught. -/
  | passed {e : Raised} {u : Session σ} (h : Stalls start (begun s line) e u)
      (hpasses : e.isCaught = false) : Dispatched start s line (.error e, u)
  /-- A routine is called, and the run ends with it. -/
  | called {c : Command (Program σ)} {role : Role} {routine : List Object → Program σ}
      {objects : List Object} {u : Session σ}
      (hcalls : Calls start s line c role routine objects u) :
      Dispatched start s line
        (ended start line c (within (calling u c role objects) (start (routine objects))))

theorem dispatched_call {arguments : List (String × Parameter)}
    (hfind : s.registry.find? ((Line.tokens line).headD "") = some c)
    (hasks : Registry.Asks c (Line.tokens line) .callback c.callback arguments) :
    Dispatched start s line (within (begun s line) (call start line c arguments)) := by
  rcases coerceAll_cases start arguments (begun s line) 1 with
    ⟨objects, u, hall, hconverts⟩ | ⟨f, u, hall, hstalls⟩ | ⟨e, u, hall, hpasses, hstalls⟩
  · rw [within_call_ok start hall, within_invoke]
    exact .called ⟨hfind, arguments, hasks, hconverts⟩
  · rw [within_call_error start hall]
    exact .misfit hstalls _
  · have hcall : within (begun s line) (call start line c arguments) = (.error e, u) := by
      unfold call
      rw [within_bind, hall]
    rw [hcall]
    exact .passed hstalls hpasses

/-- A run calls a routine of the command that the line asks for, with the objects that
its arguments are converted to, or it calls none. -/
theorem dispatched_run (start : Program σ → Action σ Reply) (s : Session σ) (line : String) :
    Dispatched start s line (within s (run start (.text line))) := by
  by_cases hline : line = ""
  · subst hline
    exact .refused rfl _
  · rw [within_run start s hline, within_runLine]
    rcases s.registry.dispatch_cases line with ⟨-, hdispatch⟩ | ⟨c, hfind, hdispatch⟩
    · rw [hdispatch, within_follow]
      exact .rejected _
    · rw [hdispatch, within_follow]
      rcases Registry.request_cases c (Line.tokens line) with
        ⟨-, -, hrequest⟩ | ⟨routine, hasks, hrequest⟩ | ⟨arguments, hasks, hrequest⟩
      · rw [hrequest]
        exact .rejected _
      · rw [hrequest]
        dsimp only
        rw [within_invoke]
        exact .called ⟨hfind, [], hasks, .nil _⟩
      · rw [hrequest]
        exact dispatched_call hfind hasks

-- =============================================================== its calls

/-- A routine that a run calls with some objects is one of those that the command was
built from, and it can take the objects. -/
inductive Fits (start : Program σ → Action σ Reply) (s : Session σ) (line : String)
    (c : Command (Program σ)) (r : Routine (Program σ)) (default? : Option (Routine (Program σ)))
    (routine : List Object → Program σ) (objects : List Object) (u : Session σ) : Role → Prop
  /-- The object in each place is converted for the parameter in that place, and there
  are no others. -/
  | callback {arguments : List (String × Parameter)} (hroutine : routine = r.run)
      (hparameters : arguments.map Prod.snd = c.outline.parameters)
      (hconverts : Converts start (begun s line) arguments objects u)
      (hlength : objects.length = c.outline.parameters.length) (htakes : r.CanTake objects) :
      Fits start s line c r default? routine objects u .callback
  /-- The default routine is called with nothing, since nothing was typed. -/
  | default {d : Routine (Program σ)} (hdefault : default? = some d) (hroutine : routine = d.run)
      (hparameters : c.outline.parameters ≠ []) (hspace : ' ' ∉ line.toList)
      (hobjects : objects = []) (htakes : d.CanTake objects) :
      Fits start s line c r default? routine objects u .default

theorem Converts.length_eq {arguments : List (String × Parameter)} {objects : List Object}
    (h : Converts start s arguments objects t) : objects.length = arguments.length := by
  induction h with
  | nil => rfl
  | cons _ _ ih => rw [List.length_cons, List.length_cons, ih]

/-- As many arguments as there are parameters stand against them one by one. -/
theorem map_snd_zip_fold (words : List String) {parameters : List Parameter}
    (henough : parameters.length ≤ words.tail.length) :
    (((Line.fold words parameters.length).tail.zip parameters).map Prod.snd) = parameters := by
  have hlength : (Line.fold words parameters.length).tail.length = parameters.length := by
    rw [Line.length_tail_fold]
    omega
  exact List.map_snd_zip (by omega)

theorem Calls.fits {r : Routine (Program σ)} {default? : Option (Routine (Program σ))}
    {role : Role} {routine : List Object → Program σ} {objects : List Object}
    (hcalls : Calls start s line c role routine objects u) (hfitted : c.Fitted r default?) :
    Fits start s line c r default? routine objects u role := by
  obtain ⟨arguments, hasks, hconverts⟩ := hcalls.arguments
  cases hasks with
  | default hroutine hbare =>
      cases hconverts
      rw [hfitted.default?_eq] at hroutine
      obtain ⟨d, hd, hrun⟩ := Option.map_eq_some_iff.1 hroutine
      have hparameters : c.outline.parameters ≠ [] := hfitted.parameters_ne_nil d hd
      have hspace : ' ' ∉ line.toList :=
        Line.space_notMem_of_tail_tokens (hbare.resolve_right hparameters)
      have htakes : d.CanTake [] := Routine.canTake_of_accepts (hfitted.default_accepts d hd)
      exact .default hd hrun.symm hparameters hspace rfl htakes
  | callback henough hother =>
      have hparameters := map_snd_zip_fold (Line.tokens line) henough
      have hlength : objects.length = c.outline.parameters.length := by
        rw [hconverts.length_eq, ← List.length_map Prod.snd, hparameters]
      have htakes : r.CanTake objects :=
        Routine.canTake_of_accepts (hlength ▸ hfitted.accepts)
      exact .callback hfitted.callback_eq hparameters hconverts hlength htakes

/-- A run calls a routine of the command that the line asks for, or none. If that command
was built from routines, the routine is one of them and can take the objects that it is
called with: one for each parameter, converted for it, or none in the case of the default
routine. That one is called only for a line without a space, and only a command with
parameters has one. -/
theorem run_arity (start : Program σ → Action σ Reply) (s : Session σ) (line : String) :
    Dispatched start s line (within s (run start (.text line)))
      ∧ (∀ c role routine objects u, Calls start s line c role routine objects u →
          ∀ r default?, c.BuiltFrom r default? →
            Fits start s line c r default? routine objects u role)
      ∧ ∀ (c : Command (Program σ)) r d, c.BuiltFrom r (some d) →
          c.outline.parameters ≠ [] ∧ c.default? = some d.run := by
  refine ⟨dispatched_run start s line, ?_, ?_⟩
  · intro c role routine objects u hcalls r default? hbuilt
    exact hcalls.fits hbuilt.fitted
  · intro c r d hbuilt
    exact ⟨hbuilt.fitted.parameters_ne_nil d rfl, hbuilt.fitted.default?_eq⟩

/-- A routine that takes a level, and whatever else. -/
def setLevel : Routine (Program Unit) :=
  ⟨"set_level", some [⟨"level", .positional, false, none⟩, ⟨"others", .rest, false, none⟩], none,
    fun _ => .answer .nothing⟩

/-- A routine that takes nothing. -/
def showLevel : Routine (Program Unit) := ⟨"show_level", some [], none, fun _ => .answer .nothing⟩

/-- A command with both of them. -/
def levelDraft : CommandDraft (Program Unit) where
  name := .text "level"
  callback := .routine setLevel
  aliases := .text ""
  descr := .text ""
  parameters := .ok [.parameter ⟨"level", "", .text, false⟩]
  default? := some (.routine showLevel)

/-- The first of them is called with the level that was typed, the other one if none
was. -/
theorem run_arity_level :
    ∃ c, Command.ofDraft levelDraft = .ok c
      ∧ let s := { asking .text .empty with registry := ⟨[("level", c)]⟩ }
        (∃ u, Calls (Session.start 1) s "level high" c .callback setLevel.run [.text "high"] u
            ∧ setLevel.CanTake [.text "high"])
          ∧ ∃ u, Calls (Session.start 1) s "level" c .default showLevel.run [] u
            ∧ showLevel.CanTake [] ∧ ' ' ∉ "level".toList := by
  let p : Parameter := ⟨"level", "", .text, false⟩
  let c : Command (Program Unit) :=
    ⟨⟨"level", [], "", [p], false⟩, setLevel.run, some showLevel.run⟩
  have hmade : Command.ofDraft levelDraft = .ok c := rfl
  have hbuilt : c.BuiltFrom setLevel (some showLevel) := .draft hmade rfl rfl
  refine ⟨c, hmade, ?_⟩
  intro s
  obtain ⟨-, hset, -⟩ := run_arity (Session.start 1) s "level high"
  obtain ⟨-, hshow, -⟩ := run_arity (Session.start 1) s "level"
  have hfound : s.registry.find? "level" = some c := by
    have hname : Text.canonical "level" = "level" := by decide
    simp [Registry.find?, hname, Registry.named?, s]
  have hlevel : Calls (Session.start 1) s "level high" c .callback setLevel.run [.text "high"]
      (begun s "level high") := by
    have htokens : Line.tokens "level high" = ["level", "high"] := by decide
    have hasks : Registry.Asks c (Line.tokens "level high") .callback c.callback [("high", p)] := by
      rw [htokens]
      exact .callback (by decide) (.inr ⟨by decide, by decide⟩)
    have hcoerce : within (begun s "level high") (coerce (Session.start 1) "high" p)
        = (.ok ⟨.text, .text "high", .text⟩, begun s "level high") :=
      within_coerce_text (Session.start 1) rfl rfl rfl (by decide)
    have hconverts : Converts (Session.start 1) (begun s "level high") [("high", p)]
        [.text "high"] (begun s "level high") :=
      .cons (a := ("high", p)) (v := ⟨.text, .text "high", .text⟩) hcoerce (.nil _)
    refine ⟨?_, [("high", p)], hasks, hconverts⟩
    rw [htokens]
    exact hfound
  have hnone : Calls (Session.start 1) s "level" c .default showLevel.run [] (begun s "level") := by
    have htokens : Line.tokens "level" = ["level"] := by decide
    refine ⟨?_, [], .default rfl (.inl ?_), .nil _⟩
    · rw [htokens]
      exact hfound
    · rw [htokens]
      rfl
  refine ⟨⟨_, hlevel, ?_⟩, _, hnone, ?_⟩
  · cases hset _ _ _ _ _ hlevel _ _ hbuilt with
    | callback _ _ _ _ htakes => exact htakes
  · cases hshow _ _ _ _ _ hnone _ _ hbuilt with
    | default hdefault _ _ hspace _ htakes =>
        cases hdefault
        exact ⟨htakes, hspace⟩

end Session

end CommandConsole
