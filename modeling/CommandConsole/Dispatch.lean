/-
Dispatch: what an input line asks a registry of commands for.

The first token of a line names the command. The surplus tokens are folded
into the last argument. A line without arguments asks for the default
routine if the command has one. Otherwise the arguments must be as many as
the parameters.
-/
import CommandConsole.Line
import CommandConsole.Registry
import CommandConsole.Text.Similarity

namespace CommandConsole

/-- What a line asks for. -/
inductive Dispatch (ρ : Type) where
  /-- No command has the name. -/
  | unknown (token : String)
  /-- The default routine of a command. -/
  | bare (c : Command ρ) (routine : List Object → ρ)
  /-- The command has more parameters than arguments were given. -/
  | mismatch (c : Command ρ) (given : Nat)
  /-- The routine of a command, with an argument for each parameter. -/
  | call (c : Command ρ) (arguments : List (String × Parameter))

namespace Registry

variable {ρ : Type}

/-- What the tokens of a line ask of a command. -/
def request (c : Command ρ) (words : List String) : Dispatch ρ :=
  let parameters := c.outline.parameters
  let arguments := (Line.fold words parameters.length).tail
  match arguments, c.default? with
  | [], some routine => .bare c routine
  | _, _ =>
      if arguments.length = parameters.length then
        .call c (arguments.zip parameters)
      else .mismatch c arguments.length

/-- What a line asks for. -/
def dispatch (r : Registry ρ) (line : String) : Dispatch ρ :=
  let words := Line.tokens line
  match r.find? (words.headD "") with
  | none => .unknown (words.headD "")
  | some c => request c words

/-- The name under which a line is recorded: that of its command, or its
first token if there is none. -/
def recordedName (r : Registry ρ) (line : String) : String :=
  let token := (Line.tokens line).headD ""
  match r.find? token with
  | some c => c.outline.name
  | none => token

/-- The identifiers that are similar to a token which names no command. -/
def similar (r : Registry ρ) (token : String) : List String :=
  Text.closeMatches (Text.lower token) r.taken 5

/-- The usage of the parameters that a partial line lacks, as far as its
command is known. Empty arguments do not count. -/
def hint (r : Registry ρ) (line : String) : String :=
  let words := Line.tokens line
  match r.find? (words.headD "") with
  | none => ""
  | some c => c.outline.remainingUsage (words.tail.filter (· != "")).length

end Registry

end CommandConsole
