/-
Commands that are made from a routine: the parameters take their names and
their types from its formals, and the name and the help text of the command
come from the routine unless they are given.
-/
import CommandConsole.Command.Basic
import CommandConsole.Text.Summary
import CommandConsole.Ty.Reference

namespace CommandConsole

namespace Ty

mutual

/-- A type without the notes in it. -/
def withoutNotes : Ty → Ty
  | .annotated base _ => withoutNotes base
  | .generic origin arguments => .generic origin (withoutNotesAll arguments)
  | .listOf item => .listOf (withoutNotes item)
  | .callable arguments result =>
      .callable (withoutNotesAll arguments) (withoutNotes result)
  | .union withBars members => unionOf withBars (withoutNotesAll members)
  | .unpacked origin arguments => .unpacked origin (withoutNotesAll arguments)
  | type => type

/-- A row of types without the notes in them. -/
def withoutNotesAll : List Ty → List Ty
  | [] => []
  | type :: rest => withoutNotes type :: withoutNotesAll rest

end

end Ty

namespace Formal

/-- The type that a formal declares, text if it declares none. -/
def declaredType (f : Formal) : Expression.Evaluation Ty :=
  match f.hint with
  | none => return .text
  | some (.type (.value .none)) => return .absent
  | some (.type (.value (.text s))) => Reference.typeOfText s
  | some (.type t) => return (← Reference.typeIn t).withoutNotes
  | some (.expression s) => Reference.typeOfText s

end Formal

namespace Routine

variable {ρ : Type}

/-- The types that the formals of a routine declare, one after the other, so
that a name that one of them gives an object is known in the others. -/
def declaredTypes (r : Routine ρ) : Except Problem (List Ty) × List Caution :=
  Expression.outcome ((r.formals.getD []).mapM Formal.declaredType)

/-- The cautions about the types that the formals of a routine declare. -/
def cautions (r : Routine ρ) : List Caution := r.declaredTypes.2

/-- A problem with the types that the formals of a function declare, as it
is told about the function. -/
def problemOf (r : Routine ρ) (p : Problem) : Problem :=
  if p.kind.isAboutNames then .unresolvedName r.name p.message else p

end Routine

namespace Command

/-- What is told about a command beside its routine: its name, its aliases,
its help text and those of its parameters, as far as they are told. -/
structure Notes (ρ : Type) where
  name? : Option Object
  aliases? : Option Object
  descr? : Option Object
  descrs : List Object
  default? : Option (Callee ρ)

/-- The notes in a row of objects, in their order. -/
def Notes.ofList {ρ : Type} (row : List Object) (default? : Option (Callee ρ)) :
    Notes ρ :=
  ⟨row[0]?, row[1]?, row[2]?, row.drop 3, default?⟩

/-- Refuses options that are told about a command and that none has. -/
def requireNoOptions (options : List String) : Except Problem Unit :=
  match options with
  | [] => .ok ()
  | option :: _ => .error (.unknownOption "_from_callback" option)

/-- The parameters that the formals of a function make, with their help
texts. -/
def parametersOf (descrs : List Object) :
    List (Formal × Ty) → Except Problem (List ParameterItem)
  | [] => .ok []
  | (f, type) :: rest => do
      if !f.isPositional then throw (.notPositional f.name)
      let p ← Parameter.declare (.text f.name) (descrs.headD (.text "")) type
      return .parameter p :: (← parametersOf (descrs.drop 1) rest)

/-- The command that a routine makes. -/
def ofCallee {ρ : Type} (callee : Callee ρ) (notes : Notes ρ) :
    Except Problem (Command ρ) := do
  let .routine r := callee | throw .sourceNotCallable
  let some formals := r.formals | throw .sourceNotInspectable
  let types ← r.declaredTypes.1.mapError r.problemOf
  let items ← parametersOf notes.descrs (formals.zip types)
  ofDraft {
    name := notes.name?.getD (.text r.name)
    callback := callee
    aliases := notes.aliases?.getD (.tuple [])
    descr := notes.descr?.getD (.text ((r.doc.map Text.summary).getD ""))
    parameters := .ok items
    default? := notes.default? }

/-- The cautions about what a callee declares. -/
def cautionsOf {ρ : Type} : Callee ρ → List Caution
  | .routine r => r.cautions
  | .object _ => []

end Command

end CommandConsole
