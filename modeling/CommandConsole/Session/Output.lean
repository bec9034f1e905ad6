/-
The output of a session: messages of several kinds, each in its style if
the console has colours.
-/
import CommandConsole.Object.Arithmetic
import CommandConsole.Session.Basic

namespace CommandConsole.Session

open Display

variable {σ : Type}

/-- The styles of the parts of the log. -/
def logStyles : List (String × String) :=
  [("log-error", "#E99497"), ("log-warning", "#B3E283"),
   ("log-success", "#B3E283"), ("log-separator", "bold")]

/-- The name of the style of a kind of messages. -/
def logPart : LogKind → String
  | .error => "log-error"
  | .warning => "log-warning"
  | .success => "log-success"

/-- The style of a part of the log, which is none if the console has no
colours. -/
def logStyle (s : Session σ) (part : String) : Object :=
  if s.settings.colorful then s.host.style logStyles part else .text ""

/-- Prints a styled text. Nothing is written if one of its styles cannot be
read. -/
def print (text : Styled) : Action σ Unit := do
  let written ← Action.ofExcept ((← Action.session).terminal.written text)
  Action.note (.wrote written)

/-- Logs a message, in a style if one is given and the console has
colours. -/
def log (message : Object) (style? : Option Object) : Action σ Unit := do
  let s ← Action.session
  let style := if s.settings.colorful then style?.getD (.text "") else .text ""
  print [⟨message.display, style⟩]

/-- Logs a message of a kind. -/
def logAs (kind : LogKind) (message : Object) : Action σ Unit := do
  let s ← Action.session
  log message (some (s.logStyle (logPart kind)))

/-- Logs the name and the value of a variable. -/
def logVariable (name value suffix : Object) : Action σ Unit :=
  log (.text (name.display ++ ": " ++ value.display ++ suffix.display ++ ".")) none

/-- The line of an item of a collection: the item as it is formatted, with
something before it and something after it. -/
def itemLine (format : Object → Except Raised Object) (opening closing item : Object) :
    Except Raised Object := do
  let middle ← format item
  match (do (← opening.operate .add middle).operate .add closing) with
  | .ok line => return line
  | .error p => throw (.problem p)

/-- The texts in a row of objects, if it holds nothing else. -/
def textRow (position : Nat) : List Object → Except Raised (List String)
  | [] => .ok []
  | x :: rest =>
      match x.bare with
      | .text s => (textRow (position + 1) rest).map (s :: ·)
      | _ => .error (.problem (.notTextItem position x.className))

/-- The lines of the items of a collection, if all of them can be made. -/
def collectionLines (items : Object) (format : Object → Except Raised Object)
    (opening closing : Object) : Except Raised (List String) := do
  match items.items? with
  | some row => textRow 0 (← row.mapM (itemLine format opening closing))
  | none => throw (.problem (.notIterable items.className))

/-- Logs the lines of the items of a collection at once. Nothing is written
if one of them cannot be made. -/
def logCollection (items : Object) (format : Object → Except Raised Object)
    (opening closing : Object) : Action σ Unit := do
  match collectionLines items format opening closing with
  | .ok lines => log (.text ("\n".intercalate lines)) none
  | .error e => throw e

/-- Logs a line that separates, with a message in it if one is given. -/
def logSeparator (message? : Option Object) : Action σ Unit := do
  match message? with
  | none => log (.text "---") none
  | some message =>
      let s ← Action.session
      print (Styled.bare "--- "
        ++ Styled.part message.display (s.logStyle "log-separator") ++ Styled.bare " ---")

/-- Logs the usage of a command between two texts. -/
def logUsage (opening : String) (o : Outline) (closing : String) : Action σ Unit := do
  let s ← Action.session
  let usage := if s.settings.colorful then o.styled else Styled.bare o.usage
  print (Styled.bare opening ++ usage ++ Styled.bare closing)

/-- Logs the usage of the command that a spelling names, of the latest one
if no spelling is given. A spelling that names no command logs nothing. -/
def logCommand (name? : Option Object) : Action σ Unit := do
  let s ← Action.session
  let name := name?.getD (.text s.history.current)
  let spelling ← Action.ofExcept (name.asText "resolve()")
  match s.registry.find? spelling with
  | some c => logUsage ">> " c.outline "."
  | none => pure ()

/-- Empties the output. -/
def clear : Action σ Unit := do
  let erased := (← Action.session).terminal.erased
  if erased = "" then pure () else Action.note (.wrote erased)

end CommandConsole.Session
