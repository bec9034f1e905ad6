/-
Programs of a host: what its routines, parsers and classes do.

A program takes one step after another. It may read and write the state of
the host, and it may have the console perform an operation, be it while the
console performs one already. It is done when it answers or raises
something. A program is data, so one can say of it what it never does.
-/
import CommandConsole.Completion
import CommandConsole.Expression.Syntax
import CommandConsole.Overview
import CommandConsole.Parsers

namespace CommandConsole

open Display

-- ============================================================== operations

/-- What is offered as a command. -/
inductive CommandCandidate (ρ : Type) where
  | command (c : Command ρ)
  | object (x : Object)

/-- What is offered as the one who receives the faults in the place of the
output. -/
inductive FallbackCandidate (ρ : Type) where
  | routine (receive : Fault → ρ)
  | object (x : Object)

/-- What is offered as a fault. -/
inductive FaultCandidate where
  | fault (f : Fault)
  | object (x : Object)

/-- The kinds of messages that have a style of their own. -/
inductive LogKind where
  | error
  | warning
  | success
deriving DecidableEq

/-- The operations of a console, where `ρ` are the programs of the host. -/
inductive Operation (ρ : Type) where
  -- dispatch
  | run (line : Object)
  /-- Runs a line from an input field, which may be blank. -/
  | submit (text : Object)
  -- history and completion
  | cycle (direction : Object)
  | clearHistory
  | complete (typed : Object)
  /-- Tells the usage of the parameters that a partial line lacks. -/
  | hint (text : Object)
  -- registration
  | register (candidate : CommandCandidate ρ) (development : Bool)
  | remove (name : Object)
  | registerType (type : Ty) (candidate : ParserCandidate ρ) (default? : Option Object)
  /-- Warns the host about expressions that it gave. -/
  | warn (cautions : List Caution)
  -- looking up
  | resolve (name : Object)
  /-- Finds a command by its canonical name only. -/
  | describe (name : Object)
  | overview
  -- faults
  | fallback (candidate : FallbackCandidate ρ)
  | trigger (candidate : FaultCandidate) (options : List (String × Detail Raised))
  -- output
  | log (message : Object) (style? : Option Object)
  | logAs (kind : LogKind) (message : Object)
  | logVariable (name value suffix : Object)
  | logCollection (items : Object) (format : Object → Except Raised Object)
      (opening closing : Object)
  | logSeparator (message? : Option Object)
  | logCommand (name? : Option Object)
  /-- Logs the usage of a command between two texts. -/
  | logUsage (opening : String) (o : Outline) (closing : String)
  | print (s : Styled)
  | clear

/-- What an operation answers. -/
inductive Reply where
  | nothing
  | flag (b : Bool)
  | text (s : String)
  | object (x : Object)
  | completions (found : List Completion)
  /-- A command, and whether it has a default routine. -/
  | command (o : Outline) (hasDefault : Bool)
  | fault (f : Fault)
  | overview (o : Overview)

/-- The object that an answer gives to the one who asked for an object. -/
def Reply.value : Reply → Object
  | .flag b => .bool b
  | .text s => .text s
  | .object x => x
  | _ => .none

-- ================================================================ programs

/-- A program of a host whose state is of type `σ`. -/
inductive Program (σ : Type) where
  | done (outcome : Except Raised Reply)
  | read (next : σ → Program σ)
  | write (state : σ) (next : Program σ)
  | perform (op : Operation (Program σ)) (next : Except Raised Reply → Program σ)

namespace Program

variable {σ : Type}

/-- The program that answers at once. -/
def answer (r : Reply) : Program σ := .done (.ok r)

/-- The program that raises something at once. -/
def raise (e : Raised) : Program σ := .done (.error e)

/-- The program that refuses what it was given. -/
def refuse (p : Problem) : Program σ := raise (.problem p)

/-- The program that has one operation performed, whatever comes of it. -/
def call (op : Operation (Program σ)) : Program σ := .perform op .done

/-- A program followed by another one that depends on how the first one
ended. -/
def handle : Program σ → (Except Raised Reply → Program σ) → Program σ
  | .done outcome, next => next outcome
  | .read k, next => .read fun s => (k s).handle next
  | .write s k, next => .write s (k.handle next)
  | .perform op k, next => .perform op fun outcome => (k outcome).handle next

/-- A program followed by another one unless it raises something. -/
def andThen (first : Program σ) (next : Reply → Program σ) : Program σ :=
  first.handle fun outcome =>
    match outcome with
    | .ok r => next r
    | .error e => raise e

/-- Has an operation performed, and goes on unless it raises something. -/
def performing (op : Operation (Program σ)) (next : Reply → Program σ) : Program σ :=
  (call op).andThen next

/-- Programs one after the other, until one raises something. -/
def inOrder : List (Program σ) → Program σ
  | [] => answer .nothing
  | [last] => last
  | first :: rest => first.andThen fun _ => inOrder rest

/-- The program that goes on with a result, or refuses with its problem. -/
def ofExcept {α : Type} (result : Except Problem α) (next : α → Program σ) : Program σ :=
  match result with
  | .ok a => next a
  | .error p => refuse p

end Program

/-- A part of the state of a host, which can be read and replaced. -/
structure Part (σ τ : Type) where
  get : σ → τ
  set : τ → σ → σ

namespace Part

variable {σ τ : Type}

/-- The whole state. -/
def whole : Part σ σ := ⟨id, fun s _ => s⟩

/-- The program that changes a part of the state and goes on. -/
def update (part : Part σ τ) (change : τ → τ) (next : Program σ) : Program σ :=
  .read fun s => .write (part.set (change (part.get s)) s) next

/-- The program that reads a part of the state and goes on with it. -/
def reading (part : Part σ τ) (next : τ → Program σ) : Program σ :=
  .read fun s => next (part.get s)

end Part

end CommandConsole
