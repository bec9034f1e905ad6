/-
Whole numbers that are too long to be spelled in base ten.

An object is not written or shown if one of the numbers in it has too many
digits.
-/
import CommandConsole.Number.Integer
import CommandConsole.Object.Basic
import CommandConsole.Problem

namespace CommandConsole

open Number

/-- The first number that has more digits than are spelled. -/
def Number.spellingLimit : Nat := 10 ^ maxDigits

/-- A whole number that has more digits than are spelled. -/
def Problem.unspellable : Problem :=
  .told .valueError
    ("Exceeds the limit (" ++ toString maxDigits ++ " digits) for integer string conversion; "
      ++ "use sys.set_int_max_str_digits() to increase the limit")

namespace Object

/-- A whole number has so few digits that they are spelled. -/
def isShort (n : Int) : Bool := n.natAbs < spellingLimit

mutual

/-- All whole numbers in an object have so few digits that they are
spelled. -/
def isSpellable : Object → Bool
  | .int n => isShort n
  | .fraction q => isShort q.num && isShort q.den
  | .list items | .tuple items | .set items | .frozenSet items => areSpellable items
  | .dict entries | .view entries => entriesAreSpellable entries
  | .record _ fields | .namedTuple _ fields => fieldsAreSpellable fields
  | .member _ _ value _ => isSpellable value
  | _ => true

/-- All whole numbers in a row have so few digits that they are spelled. -/
def areSpellable : List Object → Bool
  | [] => true
  | x :: rest => isSpellable x && areSpellable rest

/-- All whole numbers in some entries have so few digits that they are
spelled. -/
def entriesAreSpellable : List (Object × Object) → Bool
  | [] => true
  | (k, v) :: rest => isSpellable k && isSpellable v && entriesAreSpellable rest

/-- All whole numbers in some fields have so few digits that they are
spelled. -/
def fieldsAreSpellable : List (String × Object) → Bool
  | [] => true
  | (_, x) :: rest => isSpellable x && fieldsAreSpellable rest

end

/-- An object as it is written in code, if it can be. -/
def spelled (x : Object) : Except Problem String :=
  if x.isSpellable then .ok x.written else .error .unspellable

/-- An object as it is shown in a message, if it can be. -/
def shown (x : Object) : Except Problem String :=
  if x.isSpellable then .ok x.display else .error .unspellable

end Object

end CommandConsole
