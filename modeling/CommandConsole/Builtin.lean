/-
The built-in commands of a console.

They use the console like any other command does, by having it perform
operations: they print a message, empty the output, describe a command,
list all commands, tell the version and end the application.
-/
import CommandConsole.Program

namespace CommandConsole.Builtin

open Program

variable {σ : Type}

/-- The version of the console. -/
def version : String := "0.1.0"

/-- A parameter of a built-in command, which takes any text. -/
def textParameter (name descr : String) : Parameter := ⟨name, descr, .text, false⟩

/-- A built-in command. -/
def command (name : String) (aliases : List String) (descr : String)
    (parameters : List Parameter) (callback : List Object → Program σ)
    (default? : Option (List Object → Program σ)) : Command (Program σ) :=
  ⟨⟨name, aliases, descr, parameters, false⟩, callback, default?⟩

/-- Logs a text without a style. -/
def logText (s : String) : Program σ := call (.log (.text s) none)

-- ============================================================ instructions

/-- Tells how the console is used. -/
def instructions : Program σ :=
  inOrder [
    call (.logSeparator (some (.text ("Developer console (v" ++ version ++ ")")))),
    logText "Use 'commands' to display a list of available commands.",
    logText "Use 'help <(str)commandName>' to display information about a specific command.",
    logText "Use UP / DOWN to cycle through the command history.",
    call (.logSeparator none)]

/-- Logs a message; an absent one is empty. -/
def say (message : Object) : Program σ :=
  call (.log (match message with | .none => .text "" | x => x) none)

-- ============================================================= description

/-- A text that ends with one full stop. -/
def sentence (s : String) : String := Text.trimEndOf '.' s ++ "."

/-- What is told about a parameter that has a help text. -/
def parameterLine (p : Parameter) : Option (Program σ) :=
  if p.descr = "" then none
  else
    some (call (.print
      [.bare " ", .named p.name "bold", .bare ": ", .bare (sentence p.descr)]))

/-- What is told about a command. -/
def description (o : Outline) : Program σ :=
  inOrder (
    [call (.logSeparator (some (.text o.name)))]
      ++ (if o.descr = "" then [] else [logText (sentence o.descr)])
      ++ (if o.aliases.isEmpty then []
        else [logText ("Aliases: " ++ ", ".intercalate o.aliases ++ ".")])
      ++ (if o.parameters.isEmpty then []
        else [call (.logUsage "Syntax: " o "")])
      ++ o.parameters.filterMap parameterLine
      ++ [call (.logSeparator none)])

/-- The message for a name that no command has. -/
def unknownName (name : Object) : Program σ :=
  call (.logAs .error (.text ("Unknown command name specified: " ++ name.written
    ++ ". Use 'commands' for a list of all commands.")))

/-- Describes the command that an object names. -/
def describe (name : Object) : Program σ :=
  performing (.resolve (if name.truthy then name else .text "")) fun found =>
    match found with
    | .command o _ => description o
    | _ => unknownName name

/-- Describes the command before the latest one. -/
def describePrevious : Program σ :=
  performing .overview fun reply =>
    match reply with
    | .overview o =>
        describe (.text (if o.history.previous = "" then "help" else o.history.previous))
    | _ => answer .nothing

-- ================================================================== others

/-- Lists the names of all commands. -/
def listNames : Program σ :=
  performing .overview fun reply =>
    match reply with
    | .overview o =>
        logText ("Available commands: "
          ++ ", ".intercalate (Outline.sortTexts (o.commands.map (·.name))) ++ ".")
    | _ => answer .nothing

/-- Tells the version. -/
def tellVersion : Program σ :=
  logText ("Developer console version: " ++ version ++ ".")

/-- Ends the application. -/
def quit : Program σ := raise (.exit (.int 0))

/-- The built-in commands, in their order. -/
def commands : List (Command (Program σ)) :=
  [command "devconsole" []
      "Display instructions on how to use the developer console" []
      (fun _ => instructions) none,
   command "print" ["say"] "Display a message in the developer console"
      [textParameter "message" "Message to display"]
      (fun arguments => say (arguments.headD .none)) none,
   command "clear" [] "Clear the developer console" []
      (fun _ => call .clear) none,
   command "help" ["info"]
      "Display helpful information about the specified command"
      [textParameter "name" "Name of the command"]
      (fun arguments => describe (arguments.headD .none))
      (some fun _ => describePrevious),
   command "commands" [] "Display a sorted list of all available commands" []
      (fun _ => listNames) none,
   command "consoleversion" [] "Display the developer console version" []
      (fun _ => tellVersion) none,
   command "quit" ["exit"] "Exit the application" [] (fun _ => quit) none]

end CommandConsole.Builtin
