/-
Sessions: a console with its host.

A session has the settings of the console and its output, the commands,
the parsers and the history, and the state of the host. It keeps a record
of what happened in it, event by event: which lines began to run, which
routines were called with what, which faults were delivered and what was
written.
-/
import CommandConsole.Display.Terminal
import CommandConsole.Fault.Reports
import CommandConsole.Program

namespace CommandConsole

open Display

/-- What happens in a session. -/
inductive Event where
  /-- A line began to run. -/
  | began (name line : String)
  /-- The history was cleared. -/
  | cleared
  /-- A registered parser was called. -/
  | parsed (type : Ty) (token : String)
  /-- A class of the host was called. -/
  | constructed (home name : String) (arguments : List Object)
  /-- A routine of a command was called. -/
  | invoked (command : String) (role : Role) (arguments : List Object)
  /-- A fault was delivered. -/
  | delivered (f : Fault)
  /-- A text was written to the output. -/
  | wrote (text : String)
  /-- A warning was given to the one who listens for warnings. -/
  | warned (f : Fault)
  /-- A warning about an expression was given to the same one. -/
  | cautioned (c : Caution)

/-- A session, whose host has a state of type `σ`. -/
structure Session (σ : Type) where
  settings : Settings
  terminal : Terminal
  host : Host
  /-- What a class of the host does when it is called. -/
  construct : String → String → List Object → Program σ
  registry : Registry (Program σ)
  parsers : Parsers (Program σ)
  history : History
  /-- The one who receives the faults in the place of the output. -/
  fallback? : Option (Fault → Program σ)
  /-- The fault of the latest run, unless it succeeded. -/
  fault? : Option Fault
  /-- The state of the host. -/
  state : σ
  /-- What happened, the latest event first. -/
  events : List Event

/-- What a console tells about itself. -/
def Session.overview {σ : Type} (s : Session σ) : Overview :=
  ⟨s.settings, s.registry.outlines, s.parsers.entries.length, s.history, s.fault?⟩

/-- What is done in a session: it may change the session, and it answers or
raises something. A change stands even if something is raised after it. -/
abbrev Action (σ α : Type) := ExceptT Raised (StateM (Session σ)) α

namespace Action

variable {σ α : Type}

/-- Does an action in a session. -/
def within (s : Session σ) (a : Action σ α) : Except Raised α × Session σ := a s

/-- Refuses what was given. -/
def refuse (p : Problem) : Action σ α := throw (.problem p)

/-- A result, or the refusal of what was given. -/
def ofExcept : Except Problem α → Action σ α
  | .ok a => pure a
  | .error p => refuse p

/-- Does an action and answers how it ended. -/
def attempt (a : Action σ α) : Action σ (Except Raised α) := fun s =>
  let (outcome, after) := a s
  (.ok outcome, after)

/-- Notes that something happened. -/
def note (e : Event) : Action σ Unit :=
  modify fun s => { s with events := e :: s.events }

/-- What the session is now. -/
def session : Action σ (Session σ) := get

end Action

end CommandConsole
