/-
What a console tells about itself: the settings it was opened with, its
commands, the number of its parsers, its history and its last fault.
-/
import CommandConsole.Fault.Basic
import CommandConsole.History

namespace CommandConsole

/-- The settings of a console. -/
structure Settings where
  /-- The name of the program, which faults show. -/
  name : String
  /-- Faults are shown on the output. Otherwise errors are raised, and
  warnings go to the one who listens for them. -/
  shell : Bool
  /-- Faults are shown in a panel. -/
  fancy : Bool
  /-- Logs and faults are shown in styles. -/
  colorful : Bool
  /-- Commands that are for development only can be registered. -/
  development : Bool

/-- The options that the settings of a console give every fault. -/
def Settings.options (s : Settings) : List (String × Detail Raised) :=
  [("prog", .text s.name), ("output", .output), ("shell", .flag s.shell),
   ("fancy", .flag s.fancy), ("colorful", .flag s.colorful)]

/-- What a console tells about itself. -/
structure Overview where
  settings : Settings
  commands : List Outline
  /-- The number of types that have a parser. -/
  parsers : Nat
  history : History
  /-- The fault of the latest run, unless it succeeded. -/
  fault? : Option Fault

end CommandConsole
