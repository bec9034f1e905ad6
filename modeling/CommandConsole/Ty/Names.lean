/-
The names of the classes that are built in.
-/
import CommandConsole.Ty.Basic

namespace CommandConsole

namespace BuiltinClass

/-- The classes of what can be raised, by their names. -/
def errorNames : List String :=
  ["ArithmeticError", "AssertionError", "AttributeError", "BaseException",
   "BaseExceptionGroup", "BlockingIOError", "BrokenPipeError", "BufferError",
   "BytesWarning", "ChildProcessError", "ConnectionAbortedError", "ConnectionError",
   "ConnectionRefusedError", "ConnectionResetError", "DeprecationWarning", "EOFError",
   "EncodingWarning", "Exception", "ExceptionGroup", "FileExistsError",
   "FileNotFoundError", "FloatingPointError", "FutureWarning", "GeneratorExit",
   "ImportError", "ImportWarning", "IndentationError", "IndexError", "InterruptedError",
   "IsADirectoryError", "KeyError", "KeyboardInterrupt", "LookupError", "MemoryError",
   "ModuleNotFoundError", "NameError", "NotADirectoryError", "NotImplementedError",
   "OSError", "OverflowError", "PendingDeprecationWarning", "PermissionError",
   "ProcessLookupError", "RecursionError", "ReferenceError", "ResourceWarning",
   "RuntimeError", "RuntimeWarning", "StopAsyncIteration", "StopIteration",
   "SyntaxError", "SyntaxWarning", "SystemError", "SystemExit", "TabError",
   "TimeoutError", "TypeError", "UnboundLocalError", "UnicodeDecodeError",
   "UnicodeEncodeError", "UnicodeError", "UnicodeTranslateError", "UnicodeWarning",
   "UserWarning", "ValueError", "Warning", "ZeroDivisionError"]

/-- The classes that are neither numbers, texts nor plain containers, by
their names. -/
def otherNames : List String :=
  ["bytearray", "classmethod", "enumerate", "filter", "map", "memoryview", "property",
   "range", "reversed", "slice", "staticmethod", "super", "type", "zip"]

/-- The built-in class with a name, as far as it is no number and no
text. -/
def named? (name : String) : Option BuiltinClass :=
  match name with
  | "list" => some .list
  | "tuple" => some .tuple
  | "dict" => some .dict
  | "set" => some .set
  | "frozenset" => some .frozenSet
  | "bytes" => some .bytes
  | "object" => some .object
  | "EnvironmentError" | "IOError" => some (.error "OSError")
  | name =>
      if errorNames.contains name then some (.error name)
      else if otherNames.contains name then some (.other name)
      else none

/-- The class takes arguments between brackets. -/
def takesArguments : BuiltinClass → Bool
  | .list | .tuple | .dict | .set | .frozenSet => true
  | .error name => name = "BaseExceptionGroup" || name = "ExceptionGroup"
  | .other name => name = "type" || name = "enumerate"
  | _ => false

end BuiltinClass

namespace Ty

/-- The class with a name that everybody knows. -/
def named? (name : String) : Option Ty :=
  match name with
  | "bool" => some .bool
  | "int" => some .int
  | "float" => some .float
  | "complex" => some .complex
  | "str" => some .text
  | name => (BuiltinClass.named? name).map .builtin

/-- The class of an object, as far as it is built in. -/
def ofObject? : Object → Option Ty
  | .none => some .absent
  | .bool _ => some .bool
  | .int _ => some .int
  | .float _ => some .float
  | .complex _ _ => some .complex
  | .text _ => some .text
  | .bytes _ => some (.builtin .bytes)
  | .list _ => some (.builtin .list)
  | .tuple _ => some (.builtin .tuple)
  | .set _ => some (.builtin .set)
  | .dict _ => some (.builtin .dict)
  | .frozenSet _ => some (.builtin .frozenSet)
  | .range _ _ _ => some (.builtin (.other "range"))
  | .record "object" _ => some (.builtin .object)
  | .sealed "types.GenericAlias" _ _ _ => some (.host "types" "GenericAlias")
  | .sealed "types.UnionType" _ _ _ => some (.host "types" "UnionType")
  | .sealed cls _ _ _ => some ((named? cls).getD (.builtin (.other cls)))
  | _ => none

end Ty

end CommandConsole
