/-
Performing operations.

An operation may call host code, which may have operations performed in its
turn. How deep they may stand inside each other is bounded: whatever goes
deeper is refused like any other mistake of host code.
-/
import CommandConsole.Session.Output
import CommandConsole.Session.Registration
import CommandConsole.Session.Run

namespace CommandConsole

namespace Session

variable {σ : Type} (start : Program σ → Action σ Reply)

/-- Performs an operation, with `start` to run the programs of the host. -/
def perform : Operation (Program σ) → Action σ Reply
  | .run line => return .flag (← run start line)
  | .submit text => return .flag (← submit start text)
  | .cycle direction => do
      let s ← Action.session
      let (line, history) ← Action.ofExcept (s.history.cycle direction)
      set { s with history := history }
      return .text line
  | .clearHistory => do
      modify fun s => { s with history := s.history.clear }
      Action.note .cleared
      return .nothing
  | .complete typed => do
      let s ← Action.session
      return .completions (← Action.ofExcept (Completion.allOf typed s.registry.outlines))
  | .hint text => do
      let line ← Action.ofExcept (text.asText "tokenize()")
      return .text ((← Action.session).registry.hint line)
  | .register candidate development =>
      return .flag (← register start candidate development)
  | .remove name => return .flag (← remove name)
  | .registerType type candidate default? =>
      return .flag (← registerType start type candidate default?)
  | .warn cautions => do
      cautions.forM fun c => Action.note (.cautioned c)
      return .nothing
  | .resolve name => do
      match ← resolve name with
      | some c => return .command c.outline c.default?.isSome
      | none => return .nothing
  | .describe name => do
      let c ← Action.ofExcept ((← Action.session).registry.get name)
      return .command c.outline c.default?.isSome
  | .overview => return .overview (← Action.session).overview
  | .fallback candidate => do
      setFallback candidate
      return .nothing
  | .trigger candidate options => do
      let f ← Action.ofExcept (asFault candidate)
      return .fault (← trigger start f options)
  | .log message style? => do
      log message style?
      return .nothing
  | .logAs kind message => do
      logAs kind message
      return .nothing
  | .logVariable name value suffix => do
      logVariable name value suffix
      return .nothing
  | .logCollection items format opening closing => do
      logCollection items format opening closing
      return .nothing
  | .logSeparator message? => do
      logSeparator message?
      return .nothing
  | .logCommand name? => do
      logCommand name?
      return .nothing
  | .logUsage opening o closing => do
      logUsage opening o closing
      return .nothing
  | .print text => do
      print text
      return .nothing
  | .clear => do
      clear
      return .nothing

end Session

/-- Takes the steps of a program in a session, where `perform` performs
operations. -/
def Program.execute {σ : Type} (perform : Operation (Program σ) → Action σ Reply) :
    Program σ → Action σ Reply
  | .done outcome => MonadExcept.ofExcept outcome
  | .read next => do
      let s ← Action.session
      (next s.state).execute perform
  | .write state next => do
      modify fun s => { s with state := state }
      next.execute perform
  | .perform op next => do
      let outcome ← Action.attempt (perform op)
      (next outcome).execute perform

namespace Session

variable {σ : Type}

/-- Runs a program of the host, in which calls of host code may stand inside
each other up to the given depth. -/
def start : Nat → Program σ → Action σ Reply
  | 0, _ => Action.refuse .tooDeep
  | depth + 1, program => program.execute (perform (start depth))

/-- How deep calls of host code may stand inside each other. -/
def maxDepth : Nat := 400

/-- Performs an operation in a session. -/
def operate (s : Session σ) (op : Operation (Program σ)) :
    Except Raised Reply × Session σ :=
  Action.within s (perform (start maxDepth) op)

/-- Runs a program of the host in a session. -/
def enter (s : Session σ) (program : Program σ) : Except Raised Reply × Session σ :=
  Action.within s (start maxDepth program)

/-- What happened in a session since an earlier time of it, the earliest
event first. -/
def eventsSince (s earlier : Session σ) : List Event :=
  (s.events.take (s.events.length - earlier.events.length)).reverse

end Session

end CommandConsole
