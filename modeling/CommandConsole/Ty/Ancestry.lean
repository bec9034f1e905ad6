/-
The classes that a built-in class comes from.

Every class comes from the class of all objects. Most classes come from no
other one; the classes of what can be raised form a tree, but for one that
comes from two of them.
-/
import CommandConsole.Ty.Names

namespace CommandConsole.BuiltinClass

/-- The classes that come from a class of what can be raised, by its name. -/
def errorChildren : List (String × List String) :=
  [("BaseException",
    ["BaseExceptionGroup", "Exception", "GeneratorExit", "KeyboardInterrupt", "SystemExit"]),
   ("Exception",
    ["ArithmeticError", "AssertionError", "AttributeError", "BufferError", "EOFError",
     "ImportError", "LookupError", "MemoryError", "NameError", "OSError", "ReferenceError",
     "RuntimeError", "StopAsyncIteration", "StopIteration", "SyntaxError", "SystemError",
     "TypeError", "ValueError", "Warning"]),
   ("ArithmeticError",
    ["FloatingPointError", "OverflowError", "ZeroDivisionError"]),
   ("Warning",
    ["BytesWarning", "DeprecationWarning", "EncodingWarning", "FutureWarning", "ImportWarning",
     "PendingDeprecationWarning", "ResourceWarning", "RuntimeWarning", "SyntaxWarning",
     "UnicodeWarning", "UserWarning"]),
   ("OSError",
    ["BlockingIOError", "ChildProcessError", "ConnectionError", "FileExistsError",
     "FileNotFoundError", "InterruptedError", "IsADirectoryError", "NotADirectoryError",
     "PermissionError", "ProcessLookupError", "TimeoutError"]),
   ("SyntaxError",
    ["IndentationError"]),
   ("LookupError",
    ["IndexError", "KeyError"]),
   ("ImportError",
    ["ModuleNotFoundError"]),
   ("RuntimeError",
    ["NotImplementedError", "RecursionError"]),
   ("NameError",
    ["UnboundLocalError"]),
   ("ValueError",
    ["UnicodeError"]),
   ("ConnectionError",
    ["BrokenPipeError", "ConnectionAbortedError", "ConnectionRefusedError",
     "ConnectionResetError"]),
   ("IndentationError",
    ["TabError"]),
   ("UnicodeError",
    ["UnicodeDecodeError", "UnicodeEncodeError", "UnicodeTranslateError"])]

/-- The classes that a class comes from at once, by their names. -/
def parents (cls : String) : List String :=
  match cls with
  | "object" => []
  | "bool" => ["int"]
  | "ExceptionGroup" => ["BaseExceptionGroup", "Exception"]
  | cls =>
      match errorChildren.find? fun entry => entry.2.contains cls with
      | some (parent, _) => [parent]
      | none => ["object"]

/-- The greatest number of classes between a class and the class of all
objects. -/
def maxGenerations : Nat := 6

/-- The classes that a class comes from, the class itself first and the class
of all objects last. -/
def ancestors (cls : String) : List String :=
  if cls = "ExceptionGroup" then
    [cls, "BaseExceptionGroup", "Exception", "BaseException", "object"]
  else go maxGenerations cls
where
  /-- The classes that a class with one parent comes from. -/
  go : Nat → String → List String
    | 0, cls => [cls]
    | generations + 1, cls =>
        cls :: ((parents cls).head?.map (go generations)).getD []

/-- A class is another one, or comes from it. -/
def comesFrom (cls other : String) : Bool := (ancestors cls).contains other

end CommandConsole.BuiltinClass
