/-
Names of functions: giving a function another name, at once or by a
decorator that is applied later.
-/
import CommandConsole.Problem

namespace CommandConsole.Naming

/-- What is offered for renaming. -/
inductive Subject where
  /-- A function that can be renamed. -/
  | function
  /-- A function whose name is fixed. -/
  | fixed
  | object (x : Object)

/-- What comes of renaming. -/
inductive Renaming where
  /-- The function goes by the name from now on. -/
  | renamed (name : String)
  /-- What gives the name to the function that it is applied to. -/
  | decorator (name : String)

/-- The name that a decorator itself goes by. -/
def decoratorName : String := "rename"

/-- Gives a function a name. -/
def give (subject name : Subject) : Except Problem String :=
  match subject, name with
  | .object _, _ => .error .renameFirstNotCallable
  | .function, .object (.text s) => .ok s
  | .fixed, .object (.text _) => .error .renameFixedName
  | _, _ => .error .renameSecondNotText

/-- Renames a function, or makes a decorator if only a name is given. -/
def rename (arguments : List Subject) : Except Problem Renaming :=
  match arguments with
  | [subject, name] => (give subject name).map .renamed
  | [.object (.text s)] => .ok (.decorator s)
  | [_] => .error (.notText "@rename()")
  | arguments => .error (.renameCount arguments.length)

/-- Applies a decorator that gives a name. -/
def applied (name : String) (subject : Subject) : Except Problem String :=
  match subject with
  | .object _ => .error .renameDecorated
  | subject => give subject (.object (.text name))

/-- The name of the function that reads a field which a descriptor
publishes. -/
def ofField (field : Object) : Except Problem String := field.asText "mirror()"

end CommandConsole.Naming
