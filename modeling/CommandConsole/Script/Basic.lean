/-
Scripted hosts: routines, parsers and fallbacks that data describe.

A scripted routine writes down each call of it in a journal, takes some
steps, and then returns or raises. Its steps are programs of their own, and
what each of them answers goes into the record of the call. A scripted
parser writes down its token before it reads it. With scripts a console can
be tried out without an application.
-/
import CommandConsole.Program

namespace CommandConsole.Script

open Program

/-- What is written down in a journal. -/
inductive Record where
  /-- A routine was called with some arguments. If it takes steps, the
  answers of those that are finished follow. -/
  | routine (label : String) (arguments : List Object) (answers? : Option (List Reply))
  /-- A parser was called with a token. -/
  | parser (token : String)

/-- The journal of a scripted host. -/
structure Journal where
  /-- The calls, in their order. -/
  records : List Record
  /-- The faults that were collected, in their order. -/
  faults : List Fault

namespace Journal

/-- A journal in which nothing is written. -/
def empty : Journal := ⟨[], []⟩

/-- The journal with one more record. -/
def write (j : Journal) (r : Record) : Journal := { j with records := j.records ++ [r] }

/-- The journal with one more fault. -/
def collect (j : Journal) (f : Fault) : Journal := { j with faults := j.faults ++ [f] }

/-- A record with the answer of one more step. -/
def extend (answer : Reply) : Record → Record
  | .routine label arguments (some answers) =>
      .routine label arguments (some (answers ++ [answer]))
  | r => r

/-- The journal with the answer of one more step in the record at a
position. -/
def answered (j : Journal) (position : Nat) (answer : Reply) : Journal :=
  { j with records := j.records.modify position (extend answer) }

end Journal

variable {σ : Type} (journal : Part σ Journal)

-- ================================================================ routines

/-- How a routine ends: it returns, or it raises something. -/
abbrev Ending := Except Raised Unit

/-- The program that ends in a certain way. -/
def ended : Ending → Program σ
  | .ok _ => answer .nothing
  | .error e => raise e

/-- Takes steps one after the other, puts what each of them answers into
the record at a position, and ends. A step that raises something ends the
program at once. -/
def takeSteps (position : Nat) (ending : Ending) : List (Program σ) → Program σ
  | [] => ended ending
  | step :: rest =>
      step.andThen fun reply =>
        journal.update (fun j => j.answered position reply)
          (takeSteps position ending rest)

/-- What a routine does when it is called. -/
def called (label : String) (steps? : Option (List (Program σ))) (ending : Ending)
    (arguments : List Object) : Program σ :=
  journal.reading fun j =>
    journal.update (fun j => j.write (.routine label arguments (steps?.map fun _ => [])))
      (takeSteps journal j.records.length ending (steps?.getD []))

/-- A routine that data describe: its formals, its steps and how it
ends. -/
def routine (label : String) (formals : List Formal) (doc : Option String)
    (steps? : Option (List (Program σ))) (ending : Ending) : Routine (Program σ) :=
  ⟨label, some formals, doc, called journal label steps? ending⟩

/-- The fallback that collects faults. -/
def collecting (f : Fault) : Program σ :=
  journal.update (fun j => j.collect f) (answer .nothing)

-- ================================================================= parsers

/-- How a scripted parser reads a token. -/
abbrev Reading := String → Except Raised Object

/-- A parser that writes down its token and reads it. -/
def parser (reading : Reading) (token : String) : Program σ :=
  journal.update (fun j => j.write (.parser token))
    (match reading token with
    | .ok x => answer (.object x)
    | .error e => raise e)

-- ================================================================== errors

/-- The classes of what interrupts a program. -/
def interruptions : List String := ["KeyboardInterrupt", "GeneratorExit", "BaseException"]

/-- What host code raises by the name of its class, perhaps with an
argument. Interruptions and the end of the application are no errors that a
console catches, and faults are faults whoever raises them. -/
def raised (label : String) (argument? : Option Object) : Raised :=
  match FaultKind.named? label with
  | some kind =>
      match FaultOf.withMessage kind (argument?.getD .unset) [] with
      | .ok f => .fault f
      | .error p => .problem p
  | none =>
      if label = "SystemExit" then .exit (argument?.getD .none)
      else if interruptions.contains label then .interrupt label argument?
      else .host label argument?

end CommandConsole.Script
