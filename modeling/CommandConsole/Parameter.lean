/-
Parameters: the typed, positional arguments of a command.

A parameter that is declared with an optional type, a union of one type
and the absent object, has that type and may be absent. No parameter has a
union for its type, since a token is converted to one type.
-/
import CommandConsole.Value
import CommandConsole.Descriptor
import CommandConsole.Display.Styled

namespace CommandConsole

open Display

/-- A parameter. -/
structure Parameter where
  name : String
  descr : String
  type : Ty
  /-- The argument may be absent. -/
  nullable : Bool

namespace Parameter

/-- The type that a declaration gives a parameter, and whether its argument
may be absent. -/
def resolve : Ty → Except Problem (Ty × Bool)
  | .absent => .error .absentType
  | .value .none => .error .absentType
  | .union _ members =>
      match members.filter fun type => !type.same .absent with
      | [type] =>
          if members.length = 1 then .error .severalTypes else .ok (type, true)
      | _ => .error .severalTypes
  | type => .ok (type, false)

/-- The parameter with the given name, help text and declared type. -/
def declare (name descr : Object) (type : Ty) : Except Problem Parameter := do
  let .text name := name | throw (.fieldNotText "parameter" .name)
  let trimmed := Text.trim name
  if trimmed = "" then throw .emptyParameterName
  let .text descr := descr | throw (.fieldNotText "parameter" .descr)
  let (type, nullable) ← resolve type
  return ⟨trimmed, Text.trim descr, type.frozen, nullable⟩

/-- The label of the type of a parameter, with a mark if its argument may
be absent. -/
def typeLabel (p : Parameter) : String :=
  p.type.label ++ (if p.nullable then " | None" else "")

/-- How a parameter is used: its type and its name between angle
brackets. -/
def usage (p : Parameter) : String := "<(" ++ p.typeLabel ++ ")" ++ p.name ++ ">"

/-- The usage of a parameter with its parts in styles of their own. -/
def styled (p : Parameter) : Styled :=
  [.bare "<(", .named p.typeLabel "italic", .bare ")", .named p.name "bold", .bare ">"]

/-- A parameter as a descriptor. -/
def descriptor (p : Parameter) : Descriptor :=
  ⟨"parameter",
    [("name", Text.quoted p.name), ("descr", Text.quoted p.descr),
     ("type", p.type.written), ("nullable", (Object.bool p.nullable).written)]⟩

/-- Two parameters are the same in all their fields. -/
def same (p q : Parameter) : Bool :=
  p.name == q.name && p.descr == q.descr && p.type.same q.type
    && p.nullable == q.nullable

/-- Setting an attribute of a parameter, which is never possible. -/
def assign (_ : Parameter) : Except Problem Unit := .error (.immutable "parameter")

end Parameter

end CommandConsole
