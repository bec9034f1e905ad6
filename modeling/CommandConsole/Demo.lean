/-
A console for a game, with commands of its own: one binds a key to a
command text, the other asks or sets whether the window fills the screen.
-/
import CommandConsole.Console

namespace CommandConsole.Demo

open Program

/-- The keys that can be bound. -/
def keys : Enumeration :=
  { cls := ⟨"game", "Key", .plain⟩
    entries := [("UpArrow", .int 0), ("DownArrow", .int 1), ("Escape", .int 2)] }

/-- The state of the game. -/
structure Game where
  /-- The keys that are bound, each with its command text, in the order in
  which they were first bound. -/
  bindings : List (Object × Object)
  fullscreen : Object

namespace Game

/-- A game at its start. -/
def fresh : Game := ⟨[], .bool false⟩

/-- Bindings with one key bound anew, in its place if it was bound
before. -/
def bound (key text : Object) : List (Object × Object) → List (Object × Object)
  | [] => [(key, text)]
  | entry :: rest =>
      if entry.1.same key then (entry.1, text) :: rest else entry :: bound key text rest

/-- The game after a key was bound. -/
def bind (g : Game) (key text : Object) : Game :=
  { g with bindings := bound key text g.bindings }

end Game

variable {σ : Type} (game : Part σ Game)

/-- The name of a key. -/
def keyName : Object → String
  | .member _ (some name) _ _ => name
  | x => x.display

/-- Binds a key to a command text. -/
def bindKey (key text : Object) : Program σ :=
  game.update (fun g => g.bind key text)
    (call (.logAs .success
      (.text (keyName key ++ " is now bound to " ++ text.written ++ "."))))

/-- Sets whether the window fills the screen. -/
def setFullscreen (enabled : Object) : Program σ :=
  game.update (fun g => { g with fullscreen := enabled }) (answer .nothing)

/-- Tells whether the window fills the screen. -/
def tellFullscreen : Program σ :=
  game.reading fun g => call (.logVariable (.text "Fullscreen") g.fullscreen (.text ""))

/-- The commands of the game, in their order. -/
def commands : List (Command (Program σ)) :=
  [⟨⟨"bind", [], "Bind a key to a console command",
      [⟨"key", "Key to bind", .enumeration keys, false⟩,
       ⟨"command", "Command to run", .text, false⟩], true⟩,
    fun arguments => bindKey game (arguments.headD .none) (arguments.getD 1 .none), none⟩,
   ⟨⟨"fullscreen", [], "Query or set whether the window is fullscreen",
      [⟨"enabled", "Whether the window is fullscreen", .bool, false⟩], true⟩,
    fun arguments => setFullscreen game (arguments.headD .none),
    some fun _ => tellFullscreen game⟩]

/-- The session of the game's console. -/
def session (around : Surroundings σ) : Session σ :=
  let s : Session σ :=
    .beginning ⟨"devconsole", true, false, true, true⟩ (History.empty 10) true around
  { s with registry :=
      (commands game).foldl (fun r c => (r.insert c true).2) s.registry }

end CommandConsole.Demo
