/-
Routines: what host code offers to be called back.

A routine may tell its formals, the names under which it takes arguments.
They decide how many positional arguments it accepts; a routine that does
not tell them is trusted.
-/
import CommandConsole.Ty.Basic

namespace CommandConsole

/-- How a formal takes arguments. -/
inductive Formal.Kind where
  | positional
  /-- By position, not by name. -/
  | positionalOnly
  /-- All positional arguments that are left. -/
  | rest
  /-- By name, not by position. -/
  | keyword
  /-- All named arguments that are left. -/
  | keywordRest
deriving DecidableEq

/-- What a formal says about the type of its argument. -/
inductive Formal.Hint where
  | type (t : Ty)
  /-- The type is told by an expression that is read later. -/
  | expression (s : String)

/-- A formal of a routine. -/
structure Formal where
  name : String
  kind : Formal.Kind
  /-- The argument may be left out. -/
  optional : Bool
  hint : Option Formal.Hint

namespace Formal

/-- The formal takes one argument by its position. -/
def isPositional (f : Formal) : Bool :=
  f.kind = .positional || f.kind = .positionalOnly

/-- Formals accept a number of positional arguments: it reaches for every
positional formal that is not optional, it does not exceed the positional
formals unless one takes the rest, and no named argument is due. -/
def accept (formals : List Formal) (count : Nat) : Bool :=
  let positional := formals.filter isPositional
  ((positional.drop count).all (·.optional))
    && (count ≤ positional.length || formals.any fun f => f.kind = .rest)
    && formals.all fun f => f.kind != .keyword || f.optional

/-- Formals that take any positional arguments. -/
def any : List Formal := [⟨"args", .rest, false, none⟩]

/-- As many positional formals as `high`, of which the first `low` are
due. -/
def arity (low high : Nat) : List Formal :=
  (List.range high).map fun i =>
    ⟨"p" ++ toString i, .positional, decide (low ≤ i), none⟩

end Formal

/-- A routine with a name and perhaps a text about it. Running it makes a
program of type `ρ`. -/
structure Routine (ρ : Type) where
  name : String
  /-- The formals, unless the routine does not tell them. -/
  formals : Option (List Formal)
  doc : Option String
  run : List Object → ρ

/-- What is offered where a routine is due. -/
inductive Callee (ρ : Type) where
  | routine (r : Routine ρ)
  | object (x : Object)

/-- A routine accepts a number of positional arguments, as far as it
tells. -/
def Routine.accepts {ρ : Type} (r : Routine ρ) (count : Nat) : Bool :=
  match r.formals with
  | some formals => Formal.accept formals count
  | none => true

end CommandConsole
