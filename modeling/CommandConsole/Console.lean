/-
Opening a console: the options it takes, what they must be, and the session
that it begins with.
-/
import CommandConsole.Builtin
import CommandConsole.Session.Perform

namespace CommandConsole

open Display

/-- The options of a console. -/
structure ConsoleOptions where
  name : Object
  /-- An object that was given in the place of the output, if one was. -/
  output? : Option Object
  shell : Object
  fancy : Object
  colorful : Object
  development : Object
  /-- The number of lines that the history keeps. -/
  history : Object
  /-- The console has the built-in commands. -/
  builtins : Object

namespace ConsoleOptions

/-- The options of a console that was told none. -/
def standard : ConsoleOptions :=
  ⟨.text "devconsole", none, .bool true, .bool false, .bool true, .bool false,
    .int 10, .bool true⟩

/-- The settings that some options make. -/
def settings (o : ConsoleOptions) : Except Problem Settings := do
  let .text name := o.name | throw .consoleNameNotText
  let trimmed := Text.trim name
  if trimmed = "" then throw .emptyConsoleName
  if o.output?.isSome then throw .outputNotConsole
  return ⟨trimmed, o.shell.truthy, o.fancy.truthy, o.colorful.truthy,
    o.development.truthy⟩

end ConsoleOptions

/-- What surrounds a console: the output, the settings of the host, what
its classes do when they are called, and its state. -/
structure Surroundings (σ : Type) where
  terminal : Terminal
  host : Host
  construct : String → String → List Object → Program σ
  state : σ

namespace Session

variable {σ : Type}

/-- A registry with the given commands, which the console itself
registers one after the other. -/
def registryOf {ρ : Type} (commands : List (Command ρ)) : Registry ρ :=
  commands.foldl (fun r c => (r.insert c false).2) Registry.empty

/-- The session that a console begins with. -/
def beginning (settings : Settings) (history : History) (builtins : Bool)
    (around : Surroundings σ) : Session σ where
  settings := settings
  terminal := around.terminal
  host := around.host
  construct := around.construct
  registry := if builtins then registryOf Builtin.commands else Registry.empty
  parsers := Parsers.empty
  history := history
  fallback? := none
  fault? := none
  state := around.state
  events := []

/-- Opens a console. -/
def openWith (options : ConsoleOptions) (around : Surroundings σ) :
    Except Problem (Session σ) := do
  let settings ← options.settings
  let history ← History.ofLength options.history
  return beginning settings history options.builtins.truthy around

end Session

end CommandConsole
