/-
The registry of commands, in the order of registration.

No identifier belongs to two commands of a registry. A command that would
share one with a registered command is refused, and so is a command with an
empty name. A spelling therefore finds at most one command: the one that
has its canonical form among its identifiers.
-/
import CommandConsole.Command.Basic

namespace CommandConsole

/-- The names of the built-in commands that cannot be removed. -/
def permanentNames : List String :=
  ["devconsole", "commands", "help", "consoleversion"]

/-- A registry of commands: commands under their keys, each key once. -/
structure Registry (ρ : Type) where
  entries : List (String × Command ρ)

namespace Registry

variable {ρ : Type}

/-- The registry without commands. -/
def empty : Registry ρ := ⟨[]⟩

/-- The commands of a registry. -/
def commands (r : Registry ρ) : List (Command ρ) := r.entries.map (·.2)

/-- What the commands of a registry show of themselves. -/
def outlines (r : Registry ρ) : List Outline := r.commands.map (·.outline)

/-- All identifiers in use. -/
def taken (r : Registry ρ) : List String := r.outlines.flatMap Outline.identifiers

/-- The identifiers of a command that are in use, in ascending order. -/
def conflicts (r : Registry ρ) (o : Outline) : List String :=
  o.identifiers.filter fun s => r.taken.contains s

/-- The command in the place of one that was registered by a caller. -/
def markCustom (c : Command ρ) : Command ρ :=
  { c with outline := { c.outline with custom := true } }

/-- Entries with a command under a key: in the place of the one that has
the key, or else at the end. -/
def place (key : String) (c : Command ρ) :
    List (String × Command ρ) → List (String × Command ρ)
  | [] => [(key, c)]
  | entry :: rest =>
      if entry.1 = key then (key, c) :: rest else entry :: place key c rest

/-- Registers a command under its name, on behalf of a caller if `custom`
says so. Answers whether it was registered, and the registry. -/
def insert (r : Registry ρ) (c : Command ρ) (custom : Bool) : Bool × Registry ρ :=
  if c.outline.name = "" ∨ r.conflicts c.outline ≠ [] then (false, r)
  else (true, ⟨place c.outline.name (if custom then markCustom c else c) r.entries⟩)

/-- The command under a key. -/
def named? (r : Registry ρ) (key : String) : Option (Command ρ) :=
  (r.entries.find? fun entry => entry.1 == key).map (·.2)

/-- The command that a spelling names, by its name or by an alias. -/
def find? (r : Registry ρ) (spelling : String) : Option (Command ρ) :=
  let name := Text.canonical spelling
  if name = "" then none
  else
    match r.named? name with
    | some c => some c
    | none => r.commands.find? fun c => c.outline.hasAlias [name]

/-- The registry without what it keeps under a key. -/
def without (r : Registry ρ) (key : String) : Registry ρ :=
  ⟨r.entries.filter fun entry => entry.1 != key⟩

/-- A built-in command that cannot be removed. -/
def isPermanent (o : Outline) : Bool := o.builtin && permanentNames.contains o.name

/-- Removes the command that a spelling names. Answers whether the spelling
names no command now, and the registry. -/
def erase (r : Registry ρ) (spelling : String) : Bool × Registry ρ :=
  match r.find? spelling with
  | none => (true, r)
  | some c =>
      if isPermanent c.outline then (false, r) else (true, r.without c.outline.name)

/-- The command that a registry keeps under a key, if it keeps one. Any
object may be asked for that can be a key. -/
def keyed? (r : Registry ρ) (key : Object) : Except Problem (Option (Command ρ)) :=
  match key with
  | .text name => .ok (r.named? name)
  | key =>
      match key.unhashable? with
      | some cls => .error (.unhashable cls)
      | none => .ok none

/-- The command that a registry keeps under a key. -/
def get (r : Registry ρ) (key : Object) : Except Problem (Command ρ) := do
  match ← r.keyed? key with
  | some c => return c
  | none => throw (.noSuchKey key)

end Registry

end CommandConsole
