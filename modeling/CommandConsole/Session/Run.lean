/-
Running a line.

A run is recorded in the history first. Then it goes through its stages:
the command is looked up, the arguments are counted, each token is
converted, and the routine is called with the objects. The first stage
that fails reports exactly one fault, and no later stage is entered. Errors
of host code are reported too; interruptions and the end of the application
pass through.
-/
import CommandConsole.Session.Delivery

namespace CommandConsole.Session

variable {σ : Type} (start : Program σ → Action σ Reply)

-- ============================================================== conversion

/-- The object that a conversion leads to. -/
def converted : Conversion → Action σ Object
  | .object x => pure x
  | .problem p => Action.refuse p
  | .host home name arguments => do
      Action.note (.constructed home name arguments)
      let s ← Action.session
      return (← start (s.construct home name arguments)).value

/-- The value that a token is converted to for a parameter. -/
def coerce (token : String) (p : Parameter) : Action σ Value := do
  match ← Action.ofExcept ((← Action.session).parsers.route token p) with
  | .absent => return Value.absent p.type
  | .convert c => return Value.ofObject (← converted start c) p.type
  | .parse program => do
      Action.note (.parsed p.type token)
      return Value.ofObject (← start program).value p.type
  | .unknown => throw (.fault (Fault.unknownType p.type))

/-- Why an argument could not be converted. -/
structure Failure where
  /-- The position of the argument, from one. -/
  index : Nat
  token : String
  parameter : Parameter
  error : Raised

/-- The objects that the arguments of a call are converted to, in order, or
why the first of them that fails does. The arguments start at position
`index`. -/
def coerceAll (index : Nat) :
    List (String × Parameter) → Action σ (Except Failure (List Object))
  | [] => return .ok []
  | (token, p) :: rest => do
      match ← Action.attempt (coerce start token p) with
      | .ok v => return (← coerceAll (index + 1) rest).map (v.object :: ·)
      | .error e =>
          if e.isCaught then return .error ⟨index, token, p, e⟩ else throw e

-- ================================================================== stages

/-- Calls a routine of a command. Answers whether it did not fail. -/
def invoke (line : String) (c : Command (Program σ)) (role : Role)
    (routine : List Object → Program σ) (arguments : List Object) : Action σ Bool := do
  Action.note (.invoked c.outline.name role arguments)
  match ← Action.attempt (start (routine arguments)) with
  | .ok _ => return true
  | .error e =>
      if e.isCaught then
        fail start (Fault.callbackFailed (← Action.session).host line c.outline e)
      else throw e

/-- Converts the arguments of a call and calls the routine of the command
with the objects. -/
def call (line : String) (c : Command (Program σ)) (arguments : List (String × Parameter)) :
    Action σ Bool := do
  match ← coerceAll start 1 arguments with
  | .ok objects => invoke start line c .callback c.callback objects
  | .error f =>
      let place : Fault.Place := ⟨line, c.outline, f.index, f.token, f.parameter⟩
      fail start (Fault.ofCoercion (← Action.session).host place f.error)

/-- Does what a line asks for. Answers whether it was done without a
fault. -/
def follow (line : String) (d : Dispatch (Program σ)) : Action σ Bool := do
  let s ← Action.session
  match d with
  | .unknown token =>
      fail start (Fault.commandNotFound s.host line token (s.registry.similar token))
  | .bare c routine => invoke start line c .default routine []
  | .mismatch c given => fail start (Fault.arityMismatch s.host line c.outline given)
  | .call c arguments => call start line c arguments

-- ==================================================================== runs

/-- The beginning of a run: no fault is known of it, and its line is
recorded. -/
def begin (line : String) : Action σ Unit := do
  let s ← Action.session
  let name := s.registry.recordedName line
  set { s with fault? := none, history := s.history.record name line }
  Action.note (.began name line)

/-- Runs a line. Answers whether a command ran without a fault. -/
def runLine (line : String) : Action σ Bool := do
  let d := (← Action.session).registry.dispatch line
  begin line
  follow start line d

/-- Runs the line that an operation was given, which is not empty. -/
def run (line : Object) : Action σ Bool := do
  let text ← Action.ofExcept (line.asText "run()")
  if text = "" then Action.refuse (.emptyText "run()") else runLine start text

/-- Runs a line from an input field. Line feeds at its end do not count,
and a blank line is passed over. -/
def submit (text : Object) : Action σ Bool := do
  let line ← Action.ofExcept (text.asText "submit()")
  let line := Text.trimEndOf '\n' line
  if Text.isBlankText line then return false else runLine start line

end CommandConsole.Session
