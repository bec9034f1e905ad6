/-
What the operations of an object are given, and what they do to it.
-/
import CommandConsole.Expression.Signature

namespace CommandConsole.Expression

/-- An object as it is handed on, in a cell if it has one; what is in the
cell, which may hold cells in its turn; and the object as a whole without
cells. -/
structure Shared where
  self : Meaning
  content : Meaning
  whole : Meaning

/-- An object that is in no cell and holds none. -/
def Shared.ofWhole (m : Meaning) : Shared := ⟨m, m, m⟩

/-- The items of a row. -/
def Shared.row (m : Shared) : List Shared :=
  ((m.content.items?.getD []).zip (m.whole.items?.getD [])).map fun (self, whole) =>
    ⟨self, self, whole⟩

/-- What an operation makes, and what it leaves in the place of its owner if
it changes it. -/
structure Effect where
  result : Meaning
  left? : Option Meaning := none

/-- An operation that makes something and changes nothing. -/
def Effect.making (m : Meaning) : Effect := { result := m }

/-- An operation that makes nothing and leaves something. -/
def Effect.leaving (m : Meaning) : Effect := { result := .absent, left? := some m }

/-- An operation that leaves something in the place of an object, and makes
the object. -/
def Effect.becoming (owner : Shared) (m : Meaning) : Effect :=
  { result := owner.self, left? := some m }

end CommandConsole.Expression
