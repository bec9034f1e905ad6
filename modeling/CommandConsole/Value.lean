/-
Values: what a token is converted to for a parameter. A value knows its
kind, which the declared type decides once and for all, the object itself
and the declared type.
-/
import CommandConsole.Ty.Basic

namespace CommandConsole

/-- The kinds of values. -/
inductive ValueKind where
  /-- The absent object. -/
  | null
  | bool
  | int
  /-- A number that is no whole number by its type. -/
  | float
  | text
  | enumeration
  /-- An object of any other class. -/
  | custom
deriving DecidableEq

namespace ValueKind

/-- The name of a kind. -/
def label : ValueKind → String
  | .null => "NULL"
  | .bool => "BOOL"
  | .int => "INT"
  | .float => "FLOAT"
  | .text => "STRING"
  | .enumeration => "ENUM"
  | .custom => "CUSTOM"

/-- The number of a kind. -/
def number : ValueKind → Nat
  | .null => 0
  | .bool => 1
  | .int => 2
  | .float => 3
  | .text => 4
  | .enumeration => 5
  | .custom => 6

end ValueKind

/-- The kind of the values of a type. -/
def Ty.valueKind : Ty → ValueKind
  | .bool => .bool
  | .enumeration _ => .enumeration
  | .int => .int
  | .float | .complex | .decimal | .fraction => .float
  | .text => .text
  | _ => .custom

/-- A value. -/
structure Value where
  kind : ValueKind
  object : Object
  type : Ty

namespace Value

/-- The absent value of a type. -/
def absent (type : Ty) : Value := ⟨.null, .none, type⟩

/-- The value that an object is for a type. -/
def ofObject (x : Object) (type : Ty) : Value :=
  match x with
  | .none => absent type
  | x => ⟨type.valueKind, x, type⟩

end Value

end CommandConsole
