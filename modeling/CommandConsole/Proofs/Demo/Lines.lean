/-
What lines do to the game.

No line of the demo needs host code to convert its arguments, so all that a
line does before its routine is called is to be recorded (`Ready`). The
built-in commands leave the game alone, and so does every line that reports a
fault. What is left are the lines that bind a key and those that switch the
window, and they do what they were asked for. This is what one line comes to
(`Turn`, `turn_run`).

So the game is what the calls of the lines that reported no fault have made
of it, line after line (`Told`, `told_passedBy`), and it reflects them
(`reflects_lines`).
-/
import CommandConsole.Proofs.Demo.Bindings
import CommandConsole.Proofs.Registry.Dispatch
import CommandConsole.Proofs.Session.Collection
import CommandConsole.Proofs.Session.Looking
import CommandConsole.Proofs.Session.Permanence
import CommandConsole.Proofs.Session.Typing

namespace CommandConsole

-- =================================================================== calls

namespace Session

variable {σ : Type}

/-- The calls of routines in the run of a line, the earliest first, if no
fault is reported in it. A line that reports a fault passes nothing on. -/
def passed (s : Session σ) (line : String) : List (String × Role × List Object) :=
  let t := (operate s (.run (.text line))).2
  if (deliveries t).length = (deliveries s).length then
    (t.invocations.take (t.invocations.length - s.invocations.length)).reverse
  else []

/-- The calls in the runs of some lines that report no fault, one line after
the other. -/
def passedBy : Session σ → List String → List (String × Role × List Object)
  | _, [] => []
  | s, line :: rest => s.passed line ++ passedBy (operate s (.run (.text line))).2 rest

/-- Writing texts calls no routine. -/
theorem invocations_onward_wrote (s : Session σ) (state : σ) (texts : List String) :
    (s.onward state (texts.map .wrote)).invocations = s.invocations := by
  show (texts.map Event.wrote ++ s.events).filterMap _ = _
  rw [List.filterMap_append, List.filterMap_eq_nil_iff.2 (List.forall_mem_map.2 fun _ _ => rfl)]
  rfl

/-- Writing texts delivers no fault. -/
theorem deliveries_onward_wrote (s : Session σ) (state : σ) (texts : List String) :
    deliveries (s.onward state (texts.map .wrote)) = deliveries s :=
  deliveries_onward s state (List.forall_mem_map.2 fun _ _ => rfl)

end Session

namespace Demo

open Session CommandConsole.Action Display Display.Terminal

/-- The key and the text that a call binds. -/
def bindOf? : String × Role × List Object → Option (Object × Object)
  | ("bind", .callback, [key, text]) => some (key, text)
  | _ => none

/-- What a call switches the window to. -/
def switchOf? : String × Role × List Object → Option Object
  | ("fullscreen", .callback, [enabled]) => some enabled
  | _ => none

/-- A call of a routine with another name binds nothing. -/
theorem bindOf?_eq_none {name : String} (h : name ≠ "bind") (role : Role) (objects : List Object) :
    bindOf? (name, role, objects) = none := by
  unfold bindOf?
  split
  · next heq => exact absurd (congrArg Prod.fst heq) h
  · rfl

/-- A call of a routine with another name switches nothing. -/
theorem switchOf?_eq_none {name : String} (h : name ≠ "fullscreen") (role : Role)
    (objects : List Object) : switchOf? (name, role, objects) = none := by
  unfold switchOf?
  split
  · next heq => exact absurd (congrArg Prod.fst heq) h
  · rfl

-- =================================================================== turns

/-- A console of the game in the course of its lines. -/
structure Playing (s : Session Game) : Prop where
  shell : s.settings.shell = true
  host : s.host = .quiet
  parsers : s.parsers = .empty
  fallback? : s.fallback? = none
  commands : ∀ c ∈ s.registry.commands, c ∈ Builtin.commands ∨ c ∈ Demo.commands Part.whole

/-- A console stays what it is if only its history, its fault, its state and
its events change. -/
theorem Playing.of_eq {s t : Session Game} (h : Playing s) (hsettings : t.settings = s.settings)
    (hhost : t.host = s.host) (hparsers : t.parsers = s.parsers)
    (hfallback : t.fallback? = s.fallback?) (hregistry : t.registry = s.registry) : Playing t where
  shell := hsettings ▸ h.shell
  host := hhost.trans h.host
  parsers := hparsers.trans h.parsers
  fallback? := hfallback.trans h.fallback?
  commands := hregistry ▸ h.commands

/-- No parameter of a command needs host code for its conversion. -/
theorem Playing.unaided {s : Session Game} (h : Playing s) {c : Command (Program Game)}
    (hc : c ∈ s.registry.commands) {p : Parameter} (hp : p ∈ c.outline.parameters) :
    Unaided s.parsers p := by
  have hbuiltin : ∀ o ∈ (Builtin.commands (σ := Unit)).map (·.outline),
      ∀ p ∈ o.parameters, ∀ home name, p.type ≠ .host home name := by
    simp [Builtin.commands, Builtin.command, Builtin.textParameter]
  have hgame : ∀ c ∈ Demo.commands Part.whole, ∀ p ∈ c.outline.parameters,
      ∀ home name, p.type ≠ .host home name := by
    simp [Demo.commands]
  refine ⟨h.parsers ▸ rfl, ?_⟩
  rcases h.commands c hc with hc | hc
  · exact hbuiltin _ (Builtin.outline_mem_outlines hc) p hp
  · exact hgame c hc p hp

/-- No built-in command has the name of a command of the game. -/
theorem name_ne_of_mem_builtin {c : Command (Program Game)} (hc : c ∈ Builtin.commands) :
    c.outline.name ≠ "bind" ∧ c.outline.name ≠ "fullscreen" := by
  have hall : ∀ o ∈ (Builtin.commands (σ := Unit)).map (·.outline),
      o.name ≠ "bind" ∧ o.name ≠ "fullscreen" := by
    decide
  exact hall _ (Builtin.outline_mem_outlines hc)

/-- The words of a line for the key and for the text of a binding give this
text: it is the second word, or the absent object, if that is a word for
it. -/
def Spells (line : String) (text : Object) : Prop :=
  ∃ key word, (Line.fold (Line.tokens line) 2).tail = [key, word]
    ∧ (text = .text word ∨ text = .none ∧ Text.lower word ∈ nullWords)

/-- What a call in the run of a line has done to the game. -/
inductive Effect (line : String) : String × Role × List Object → Game → Game → Prop
  | nothing {call : String × Role × List Object} (g : Game) (hbind : bindOf? call = none)
      (hswitch : switchOf? call = none) : Effect line call g g
  | bound {key text : Object} (g : Game) (hkey : key ∈ keys.members) (hspells : Spells line text) :
      Effect line ("bind", .callback, [key, text]) g (g.bind key text)
  | switched (g : Game) (b : Bool) :
      Effect line ("fullscreen", .callback, [.bool b]) g { g with fullscreen := .bool b }

/-- What the run of a line comes to. -/
inductive Turn (s : Session Game) (line : String) (t : Session Game) : Prop
  /-- The line is empty, and is no line to run. -/
  | refused (hline : line = "") (ht : t = s)
  /-- One fault is reported. -/
  | faulted {f : Fault} (hreported : deliveries t = f :: deliveries s) (hstate : t.state = s.state)
  /-- A routine of the command that the line names is called, once, and no
  fault is reported. -/
  | called {c : Command (Program Game)} {role : Role} {objects : List Object}
      (hfind : s.registry.find? ((Line.tokens line).headD "") = some c)
      (hreported : deliveries t = deliveries s)
      (hcall : t.invocations = (c.outline.name, role, objects) :: s.invocations)
      (heffect : Effect line (c.outline.name, role, objects) s.state t.state) : Turn s line t

/-- The run of a line comes to its turn, and the console goes on. -/
def Goes (s : Session Game) (line : String) (t : Session Game) : Prop := Playing t ∧ Turn s line t

/-- A session in which the run of a line has begun and has done nothing
else. -/
structure Ready (s u : Session Game) : Prop where
  playing : Playing u
  registry_eq : u.registry = s.registry
  state_eq : u.state = s.state
  deliveries_eq : deliveries u = deliveries s
  invocations_eq : u.invocations = s.invocations

section

variable {s u : Session Game} {line : String}

-- ------------------------------------------------------------------ reports

/-- A run that reports a fault leaves the game as it is. -/
theorem goes_fail (h : Playing u) (hstate : u.state = s.state)
    (hreported : deliveries u = deliveries s) (start : Program Game → Action Game Reply)
    (f : Fault) : Goes s line (within u (fail start f)).2 := by
  have hdelivered : u.completed f :: deliveries u = u.completed f :: deliveries s :=
    congrArg _ hreported
  rw [within_fail_shown h.fallback? h.shell]
  cases Fault.shown u.host u.terminal (u.completed f) with
  | ok text => exact ⟨h.of_eq rfl rfl rfl rfl rfl, .faulted hdelivered hstate⟩
  | error p => exact ⟨h.of_eq rfl rfl rfl rfl rfl, .faulted hdelivered hstate⟩

-- ----------------------------------------------------------------- routines

/-- A quiet host lets the console log that something has succeeded. -/
theorem exists_within_logAs_success {s : Session Game} (hhost : s.host = .quiet) (text : String) :
    ∃ written, within s (logAs .success (.text text))
      = (.ok (), s.onward s.state ([written].map .wrote)) := by
  have hlegible : s.host.Legible := hhost ▸ List.forall_mem_nil _
  have hown : Reads true (s.logStyle "log-success") := by
    unfold logStyle
    split
    · exact hlegible.reads_style readable_logStyles "log-success"
    · exact reads_none
  have hreads : Reads true (if s.settings.colorful then
      (some (s.logStyle "log-success")).getD (.text "") else .text "") :=
    reads_logged (fun _ x hx => Option.some.inj hx ▸ hown) nofun
  obtain ⟨style, hstyle, -⟩ := hreads
  unfold logAs
  rw [within_bind_ok (within_session s)]
  unfold log
  rw [within_bind_ok (within_session s)]
  exact ⟨_, within_print_run hstyle⟩

variable {c : Command (Program Game)}
  (hfind : s.registry.find? ((Line.tokens line).headD "") = some c) (h : Ready s u) (depth : Nat)

include hfind h

/-- A call of a routine that leaves the game alone. -/
theorem goes_still {program : Program Game} (hstill : program.Still) {role : Role}
    {objects : List Object} (hbind : bindOf? (c.outline.name, role, objects) = none)
    (hswitch : switchOf? (c.outline.name, role, objects) = none) :
    Goes s line (ended (Session.start (depth + 1)) line c
      (within (calling u c role objects) (Session.start (depth + 1) program))).2 := by
  obtain ⟨outcome, texts, hrun⟩ := hstill.exists_start depth (calling u c role objects)
  let t := (calling u c role objects).onward u.state (texts.map .wrote)
  have ht : Playing t := h.playing.of_eq rfl rfl rfl rfl rfl
  have hreported : deliveries t = deliveries s :=
    (deliveries_onward_wrote _ _ texts).trans h.deliveries_eq
  have hcall : t.invocations = (c.outline.name, role, objects) :: s.invocations :=
    (invocations_onward_wrote _ _ texts).trans (congrArg (_ :: ·) h.invocations_eq)
  have hstate : t.state = s.state := h.state_eq
  have hcalled : Goes s line t :=
    ⟨ht, .called hfind hreported hcall (hstate ▸ .nothing _ hbind hswitch)⟩
  rw [hrun]
  -- what the routine raises is reported, or it passes through unreported
  cases outcome with
  | ok r => exact hcalled
  | error e =>
      show Goes s line (if e.isCaught = true then _ else _ : Except Raised Bool × Session Game).2
      split
      · exact goes_fail ht hstate hreported _ _
      · exact hcalled

/-- A call of the routine that binds a key. -/
theorem goes_bound (hname : c.outline.name = "bind") {key text : Object}
    (hkey : key ∈ keys.members) (hspells : Spells line text) :
    Goes s line (ended (Session.start (depth + 1)) line c
      (within (calling u c .callback [key, text])
        (Session.start (depth + 1) (bindKey Part.whole key text)))).2 := by
  let v : Session Game := { calling u c .callback [key, text] with state := u.state.bind key text }
  let message := keyName key ++ " is now bound to " ++ text.written ++ "."
  obtain ⟨written, hlogged⟩ := exists_within_logAs_success (s := v) h.playing.host message
  let t := v.onward v.state ([written].map .wrote)
  have hperformed : within v (perform (Session.start depth) (.logAs .success (.text message)))
      = (.ok .nothing, t) := within_bind_ok hlogged _
  have hrun : within (calling u c .callback [key, text])
      (Session.start (depth + 1) (bindKey Part.whole key text)) = (.ok .nothing, t) := by
    show within v ((Program.perform (.logAs .success (.text message)) .done).execute
      (perform (Session.start depth))) = _
    rw [Program.within_execute_perform, hperformed, Program.within_execute_done]
  have ht : Playing t := h.playing.of_eq rfl rfl rfl rfl rfl
  have hreported : deliveries t = deliveries s :=
    (deliveries_onward_wrote v v.state _).trans h.deliveries_eq
  have hcall : t.invocations = (c.outline.name, .callback, [key, text]) :: s.invocations :=
    (invocations_onward_wrote v v.state _).trans (congrArg (_ :: ·) h.invocations_eq)
  have hstate : t.state = s.state.bind key text := congrArg (Game.bind · key text) h.state_eq
  have heffect : Effect line (c.outline.name, .callback, [key, text]) s.state t.state := by
    rw [hname, hstate]
    exact .bound _ hkey hspells
  rw [hrun]
  exact ⟨ht, .called hfind hreported hcall heffect⟩

/-- A call of the routine that switches the window. -/
theorem goes_switched (hname : c.outline.name = "fullscreen") (b : Bool) :
    Goes s line (ended (Session.start (depth + 1)) line c
      (within (calling u c .callback [.bool b])
        (Session.start (depth + 1) (setFullscreen Part.whole (.bool b))))).2 := by
  let t : Session Game :=
    { calling u c .callback [.bool b] with state := { u.state with fullscreen := .bool b } }
  have hrun : within (calling u c .callback [.bool b])
      (Session.start (depth + 1) (setFullscreen Part.whole (.bool b))) = (.ok .nothing, t) := rfl
  have ht : Playing t := h.playing.of_eq rfl rfl rfl rfl rfl
  have hcall : t.invocations = (c.outline.name, .callback, [.bool b]) :: s.invocations :=
    congrArg (_ :: ·) h.invocations_eq
  have hstate : t.state = { s.state with fullscreen := .bool b } :=
    congrArg (fun g : Game => { g with fullscreen := .bool b }) h.state_eq
  have heffect : Effect line (c.outline.name, .callback, [.bool b]) s.state t.state := by
    rw [hname, hstate]
    exact .switched _ b
  rw [hrun]
  exact ⟨ht, .called hfind h.deliveries_eq hcall heffect⟩

/-- A call with what the arguments of the line give. -/
theorem goes_called {role : Role} {routine : List Object → Program Game}
    {arguments : List (String × Parameter)} {objects : List Object}
    (hasks : Registry.Asks c (Line.tokens line) role routine arguments)
    (hgiven : List.Forall₂ (Given u.parsers) arguments objects) :
    Goes s line (ended (Session.start (depth + 1)) line c
      (within (calling u c role objects) (Session.start (depth + 1) (routine objects)))).2 := by
  have hc : c ∈ u.registry.commands := h.registry_eq ▸ Registry.mem_commands_of_find? hfind
  rcases h.playing.commands c hc with hc | hc
  · obtain ⟨hbind, hswitch⟩ := name_ne_of_mem_builtin hc
    have hstill : (routine objects).Still := by
      cases hasks with
      | default hroutine _ => exact (Builtin.still_commands hc).default _ hroutine _
      | callback _ _ => exact (Builtin.still_commands hc).callback _
    exact goes_still hfind h depth hstill (bindOf?_eq_none hbind role objects)
      (switchOf?_eq_none hswitch role objects)
  · rw [h.playing.parsers] at hgiven
    simp only [Demo.commands, List.mem_cons, List.not_mem_nil, or_false] at hc
    rcases hc with rfl | rfl
    · cases hasks with
      | default hroutine _ => cases hroutine
      | callback henough _ =>
          -- folding leaves one word for each parameter, however many were typed
          have hlength : (Line.fold (Line.tokens line) 2).tail.length = 2 := by
            rw [Line.length_tail_fold]
            exact Nat.min_eq_right henough
          obtain ⟨key, word, hwords⟩ := List.length_eq_two.1 hlength
          simp only [List.length_cons, List.length_nil, hwords, List.zip_cons_cons,
            List.zip_nil_right] at hgiven
          obtain _ | ⟨hkey, _ | ⟨htext, _ | _⟩⟩ := hgiven
          exact goes_bound hfind h depth rfl (mem_members_of_isOf (hkey.isOf rfl rfl))
            ⟨key, word, hwords, htext.text_or_none rfl rfl⟩
    · cases hasks with
      | default hroutine _ =>
          cases hroutine
          cases hgiven
          have hstill : (tellFullscreen Part.whole).Still := .read fun _ => Program.still_call trivial
          exact goes_still hfind h depth hstill rfl rfl
      | callback henough _ =>
          have hlength : (Line.fold (Line.tokens line) 1).tail.length = 1 := by
            rw [Line.length_tail_fold]
            exact Nat.min_eq_right henough
          obtain ⟨word, hword⟩ := List.length_eq_one_iff.1 hlength
          simp only [List.length_cons, List.length_nil, hword, List.zip_cons_cons,
            List.zip_nil_right] at hgiven
          obtain _ | ⟨henabled, _ | _⟩ := hgiven
          have hbool : Object.IsOf _ .bool := henabled.isOf rfl rfl
          obtain ⟨b⟩ := hbool
          exact goes_switched hfind h depth rfl b

end

-- ==================================================================== lines

variable {s : Session Game}

/-- Every line comes to its turn. -/
theorem turn_run (h : Playing s) (depth : Nat) (line : String) :
    Goes s line (within s (run (Session.start (depth + 1)) (.text line))).2 := by
  by_cases hline : line = ""
  · subst hline
    exact ⟨h, .refused rfl rfl⟩
  · have hbegun : Playing (begun s line) := h.of_eq rfl rfl rfl rfl rfl
    have hready : Ready s (begun s line) := ⟨hbegun, rfl, rfl, rfl, rfl⟩
    have hfail : ∀ f, Goes s line (within (begun s line) (fail (Session.start (depth + 1)) f)).2 :=
      goes_fail hbegun hready.state_eq hready.deliveries_eq _
    rw [within_run _ s hline, within_runLine]
    rcases s.registry.dispatch_cases line with ⟨-, hdispatch⟩ | ⟨c, hfind, hdispatch⟩
    · rw [hdispatch, within_follow]
      exact hfail _
    · have hc : c ∈ (begun s line).registry.commands := Registry.mem_commands_of_find? hfind
      rw [hdispatch, within_follow]
      rcases Registry.request_cases c (Line.tokens line) with
        ⟨-, -, hrequest⟩ | ⟨routine, hasks, hrequest⟩ | ⟨arguments, hasks, hrequest⟩
      · rw [hrequest]
        exact hfail _
      · rw [hrequest]
        dsimp only
        rw [within_invoke]
        exact goes_called hfind hready depth hasks .nil
      · rw [hrequest]
        dsimp only
        have hunaided : ∀ a ∈ arguments, Unaided (begun s line).parsers a.2 := by
          cases hasks
          exact fun a ha => hbegun.unaided hc (List.of_mem_zip ha).2
        rcases coerceAll_unaided (Session.start (depth + 1)) arguments 1 hunaided with
          ⟨f, hfailed⟩ | ⟨objects, hconverted, hgiven⟩
        · rw [within_call_error _ hfailed]
          exact hfail _
        · rw [within_call_ok _ hconverted, within_invoke]
          exact goes_called hfind hready depth hasks hgiven

/-- A game has come of another one by some calls: the keys that they bind are
bound, one after the other, and the window is as they switch it last. -/
structure Told (calls : List (String × Role × List Object)) (g g' : Game) : Prop where
  keys : ∀ pair ∈ calls.filterMap bindOf?, pair.1 ∈ keys.members
  switches : ∀ x ∈ calls.filterMap switchOf?, ∃ b, x = .bool b
  bindings : g'.bindings = Game.allBound (calls.filterMap bindOf?) g.bindings
  fullscreen : g'.fullscreen = (calls.filterMap switchOf?).getLast?.getD g.fullscreen

theorem told_nil (g : Game) : Told [] g g := ⟨nofun, nofun, rfl, rfl⟩

/-- What some calls have made is what later ones go on from. -/
theorem Told.append {calls later : List (String × Role × List Object)} {g g' g'' : Game}
    (h : Told calls g g') (hlater : Told later g' g'') : Told (calls ++ later) g g'' where
  keys := by
    rw [List.filterMap_append]
    exact List.forall_mem_append.2 ⟨h.keys, hlater.keys⟩
  switches := by
    rw [List.filterMap_append]
    exact List.forall_mem_append.2 ⟨h.switches, hlater.switches⟩
  bindings := by
    rw [hlater.bindings, h.bindings, List.filterMap_append]
    exact (List.foldl_append ..).symm
  fullscreen := by
    rw [hlater.fullscreen, h.fullscreen, List.filterMap_append, List.getLast?_append]
    cases (later.filterMap switchOf?).getLast? with
    | none => rfl
    | some x => rfl

theorem Effect.told {line : String} {call : String × Role × List Object} {g g' : Game}
    (h : Effect line call g g') : Told [call] g g' := by
  cases h with
  | nothing g hbind hswitch =>
      have hbinds : [call].filterMap bindOf? = [] := List.filterMap_cons_none hbind
      have hswitches : [call].filterMap switchOf? = [] := List.filterMap_cons_none hswitch
      constructor
      · rw [hbinds]
        exact nofun
      · rw [hswitches]
        exact nofun
      · rw [hbinds]
        rfl
      · rw [hswitches]
        rfl
  | bound g hkey _ => exact ⟨List.forall_mem_singleton.2 hkey, nofun, rfl, rfl⟩
  | switched g b => exact ⟨nofun, List.forall_mem_singleton.2 ⟨b, rfl⟩, rfl, rfl⟩

/-- A key is bound to what the line spells. -/
theorem Effect.spells {line : String} {call : String × Role × List Object} {g g' : Game}
    (h : Effect line call g g') {key text : Object} (hbind : bindOf? call = some (key, text)) :
    Spells line text := by
  cases h with
  | nothing _ hnone _ => cases hnone.symm.trans hbind
  | bound _ _ hspells =>
      cases hbind
      exact hspells
  | switched => cases hbind

/-- The run of a line, by its turn. -/
theorem goes_operate (h : Playing s) (line : String) :
    Goes s line (operate s (.run (.text line))).2 := by
  have hrun : (operate s (.run (.text line))).2
      = (within s (run (Session.start maxDepth) (.text line))).2 :=
    congrArg Prod.snd (within_perform_run (Session.start maxDepth) s (.text line))
  rw [hrun]
  exact turn_run h 399 line

/-- What a line passes on. -/
inductive Passes (s : Session Game) (line : String) (t : Session Game) : Prop
  /-- The line is empty or reports a fault, passes nothing on and leaves the
  game as it is. -/
  | nothing (hpassed : s.passed line = []) (hstate : t.state = s.state)
      (hwhy : line = "" ∧ deliveries t = deliveries s
        ∨ ∃ f, deliveries t = f :: deliveries s) : Passes s line t
  /-- The line reports no fault, and passes on the call of a routine of the
  command that it names. -/
  | call {c : Command (Program Game)} {role : Role} {objects : List Object}
      (hfind : s.registry.find? ((Line.tokens line).headD "") = some c)
      (hreported : deliveries t = deliveries s)
      (hpassed : s.passed line = [(c.outline.name, role, objects)])
      (heffect : Effect line (c.outline.name, role, objects) s.state t.state) : Passes s line t

theorem passes_operate (h : Playing s) (line : String) :
    Passes s line (operate s (.run (.text line))).2 := by
  obtain ⟨-, hturn⟩ := goes_operate h line
  obtain ⟨t, ht⟩ : ∃ t, (operate s (.run (.text line))).2 = t := ⟨_, rfl⟩
  have hpassed : s.passed line = if (deliveries t).length = (deliveries s).length then
      (t.invocations.take (t.invocations.length - s.invocations.length)).reverse else [] := by
    rw [← ht]
    rfl
  rw [ht] at hturn ⊢
  cases hturn with
  | refused hline hsame =>
      rw [hsame, if_pos rfl, Nat.sub_self] at hpassed
      exact .nothing hpassed (congrArg _ hsame) (.inl ⟨hline, congrArg deliveries hsame⟩)
  | @faulted f hreported hstate =>
      have hmore : (deliveries t).length ≠ (deliveries s).length := by
        rw [hreported]
        exact Nat.succ_ne_self _
      rw [if_neg hmore] at hpassed
      exact .nothing hpassed hstate (.inr ⟨f, hreported⟩)
  | called hfind hreported hcall heffect =>
      rw [if_pos (congrArg List.length hreported), hcall, List.length_cons,
        Nat.add_sub_cancel_left] at hpassed
      exact .call hfind hreported hpassed heffect

theorem told_passed (h : Playing s) (line : String) :
    Told (s.passed line) s.state (operate s (.run (.text line))).2.state := by
  cases passes_operate h line with
  | nothing hpassed hstate _ =>
      rw [hpassed, hstate]
      exact told_nil _
  | call _ _ hpassed heffect =>
      rw [hpassed]
      exact heffect.told

/-- Lines that are run one after the other. -/
theorem told_passedBy (lines : List String) : ∀ {s : Session Game}, Playing s →
    let t := s.after (lines.map fun line => .run (.text line))
    Playing t ∧ Told (s.passedBy lines) s.state t.state := by
  induction lines with
  | nil => exact fun h => ⟨h, told_nil _⟩
  | cons line rest ih =>
      intro s h
      obtain ⟨hplaying, htold⟩ := ih (goes_operate h line).1
      exact ⟨hplaying, (told_passed h line).append htold⟩

/-- The console of the game as it is opened. -/
theorem playing_session (terminal : Terminal)
    (construct : String → String → List Object → Program Game) :
    Playing (session Part.whole ⟨terminal, .quiet, construct, .fresh⟩) where
  shell := rfl
  host := rfl
  parsers := rfl
  fallback? := rfl
  commands := by
    intro c hc
    rcases Registry.mem_commands_insert hc with hc | rfl
    · rcases Registry.mem_commands_insert hc with hc | rfl
      · exact .inl (mem_commands_registryOf hc)
      · exact .inr List.mem_cons_self
    · exact .inr (List.mem_cons_of_mem _ List.mem_cons_self)

/-- Whatever lines were run in a fresh console of the game, and nothing else,
the game is the effect of those that reported no fault: the keys stand in the
order in which they were first bound, each of them has the text that it was
bound to last, and the window is as it was switched last. Nothing but keys is
bound, and the window is switched to a truth value. A line that reports a
fault, which is one only, passes nothing on and leaves the game as it is. Any
other line that is not empty passes on one call of a routine of the command
that it names. The text for a key is the one that is spelled in the line, or
none, for a word that says so. -/
theorem reflects_lines (terminal : Terminal)
    (construct : String → String → List Object → Program Game) (lines : List String) :
    let opened := session Part.whole ⟨terminal, .quiet, construct, .fresh⟩
    let s := opened.after (lines.map fun line => .run (.text line))
    let calls := opened.passedBy lines
    s.state.Reflects (calls.filterMap bindOf?) (calls.filterMap switchOf?)
      ∧ (∀ entry ∈ s.state.bindings, entry.1 ∈ keys.members)
      ∧ (∃ b, s.state.fullscreen = .bool b)
      ∧ ∀ line ≠ "",
          let t := (operate s (.run (.text line))).2
          ((∃ f, deliveries t = f :: deliveries s) ∧ t.state = s.state ∧ s.passed line = []
              ∨ deliveries t = deliveries s
                ∧ ∃ c role objects, s.registry.find? ((Line.tokens line).headD "") = some c
                  ∧ s.passed line = [(c.outline.name, role, objects)])
            ∧ ∀ key text, (key, text) ∈ (s.passed line).filterMap bindOf? → Spells line text := by
  intro opened s calls
  obtain ⟨hplaying, htold⟩ : Playing s ∧ Told calls opened.state s.state :=
    told_passedBy lines (playing_session terminal construct)
  refine ⟨Game.reflects_told htold.keys htold.bindings htold.fullscreen, ?_, ?_,
    fun line hline => ?_⟩
  · rw [htold.bindings]
    exact Game.forall_mem_allBound htold.keys (List.forall_mem_nil _)
  · rw [htold.fullscreen]
    cases hlast : (calls.filterMap switchOf?).getLast? with
    | none => exact ⟨false, rfl⟩
    | some x => exact htold.switches x (List.mem_of_getLast? hlast)
  · cases passes_operate hplaying line with
    | nothing hpassed hstate hwhy =>
        have hreported := hwhy.resolve_left fun hempty => hline hempty.1
        refine ⟨.inl ⟨hreported, hstate, hpassed⟩, ?_⟩
        rw [hpassed]
        exact nofun
    | call hfind hreported hpassed heffect =>
        refine ⟨.inr ⟨hreported, _, _, _, hfind, hpassed⟩, fun key text hmem => ?_⟩
        obtain ⟨call, hcall, hbind⟩ := List.mem_filterMap.1 hmem
        rw [hpassed] at hcall
        rw [List.mem_singleton.1 hcall] at hbind
        exact heffect.spells hbind

/-- Of two lines each passes its call on. -/
example :
    (session Part.whole ⟨⟨80, false⟩, .quiet, fun _ _ _ => .answer .nothing, .fresh⟩).passedBy
        ["fullscreen", "fullscreen 1"]
      = [("fullscreen", .default, []), ("fullscreen", .callback, [.bool true])] := by
  rfl

end Demo

end CommandConsole
