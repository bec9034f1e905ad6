/-
Registration of commands and parsers in a session. What is refused leaves
the session as it is, but for the warning that is delivered if the name or
the type is taken.
-/
import CommandConsole.Session.Delivery

namespace CommandConsole.Session

variable {σ : Type} (start : Program σ → Action σ Reply)

/-- Registers a command of a caller. Answers whether it was registered: a
command for development is not registered in a console that is not in
development, and no command is without a name or with an identifier that
is taken. -/
def register (candidate : CommandCandidate (Program σ)) (development : Bool) :
    Action σ Bool := do
  let .command c := candidate | Action.refuse .notCommand
  let s ← Action.session
  if development && !s.settings.development then return false
  let conflicts := s.registry.conflicts c.outline
  if c.outline.name ≠ "" ∧ conflicts ≠ [] then
    fail start (Fault.duplicateCommand s.host c.outline conflicts)
  else
    let (added, registry) := s.registry.insert c true
    modify fun s => { s with registry := registry }
    return added

/-- Removes the command that a spelling names. Answers whether the spelling
names no command now. -/
def remove (name : Object) : Action σ Bool := do
  let spelling ← Action.ofExcept (name.asText "remove()")
  if spelling = "" then Action.refuse (.emptyText "remove()")
  let (gone, registry) := (← Action.session).registry.erase spelling
  modify fun s => { s with registry := registry }
  return gone

/-- Registers a parser for a type. Answers whether it was registered. -/
def registerType (type : Ty) (candidate : ParserCandidate (Program σ))
    (default? : Option Object) : Action σ Bool := do
  let s ← Action.session
  let (added, parsers) ← Action.ofExcept (s.parsers.register type candidate default?)
  if added then
    modify fun s => { s with parsers := parsers }
    return true
  else fail start (Fault.duplicateParser s.host type)

/-- The command that a spelling names, if it names one. -/
def resolve (name : Object) : Action σ (Option (Command (Program σ))) := do
  let spelling ← Action.ofExcept (name.asText "resolve()")
  return (← Action.session).registry.find? spelling

end CommandConsole.Session
