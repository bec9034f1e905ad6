/-
What can be raised, made of some arguments.

Most classes take any arguments and keep them. Some give them names, and some
refuse arguments that they can make nothing of.
-/
import CommandConsole.Expression.Signature

namespace CommandConsole.Raising

open BuiltinClass (comesFrom)
open Expression (Signature mistaken)
open Meaning (absent)

/-- Names with what they stand for. -/
abbrev Fields := List (String × Meaning)

/-- What can be raised, of a class, of some arguments and with what it knows
besides. -/
abbrev Made := Except Problem (String × List Meaning × Fields)

-- ======================================================== system failures

/-- The classes of failures of the system by their numbers. -/
def failureClass? (n : Int) : Option String :=
  match n with
  | 11 | 114 | 115 => some "BlockingIOError"
  | 32 | 108 => some "BrokenPipeError"
  | 10 => some "ChildProcessError"
  | 103 => some "ConnectionAbortedError"
  | 111 => some "ConnectionRefusedError"
  | 104 => some "ConnectionResetError"
  | 17 => some "FileExistsError"
  | 2 => some "FileNotFoundError"
  | 21 => some "IsADirectoryError"
  | 20 => some "NotADirectoryError"
  | 4 => some "InterruptedError"
  | 1 | 13 => some "PermissionError"
  | 3 => some "ProcessLookupError"
  | 110 => some "TimeoutError"
  | _ => none

/-- A failure of the system. Two to five arguments tell its number, which may
tell its class, its description and its files. -/
def systemFailure (cls : String) (arguments : List Meaning) : Made :=
  let known (number description file other : Meaning) : Fields :=
    [("errno", number), ("strerror", description), ("filename", file), ("filename2", other)]
  match arguments with
  | number :: description :: rest =>
      if rest.length > 3 then .ok (cls, arguments, known absent absent absent absent)
      else
        let cls :=
          if cls = "OSError" then ((number.integer?.bind failureClass?)).getD cls else cls
        let file := rest.headD absent
        let other := (rest[2]?).getD absent
        if cls = "BlockingIOError" && file.integer?.isSome then
          .ok (cls, arguments,
            ("characters_written", file) :: known number description absent other)
        else
          let isFile := !file.identical absent
          .ok (cls, if isFile then [number, description] else arguments,
            known number description file other)
  | arguments => .ok (cls, arguments, known absent absent absent absent)

-- ================================================================ mistakes

/-- The names of what a mistake in a text knows about its place. -/
def placeNames : List String :=
  ["filename", "lineno", "offset", "text", "end_lineno", "end_offset"]

/-- A mistake in a text. A second argument tells its place. -/
def mistakeInText (cls : String) (arguments : List Meaning) : Made := do
  let message := arguments.headD absent
  let places ←
    match arguments with
    | [_, place] => do
        let row ← place.items
        if row.length < 4 then
          throw (mistaken
            ("function takes at least 4 arguments (" ++ toString row.length ++ " given)"))
        if row.length > 6 then
          throw (mistaken
            ("function takes at most 6 arguments (" ++ toString row.length ++ " given)"))
        if row.length = 5 then
          throw (mistaken "end_offset must be provided when end_lineno is provided")
        pure row
    | _ => pure []
  let fields := placeNames.zipIdx.map fun (key, i) => (key, places.getD i absent)
  return (cls, arguments, ("msg", message) :: ("print_file_and_line", absent) :: fields)

-- ================================================================= codings

/-- Refuses an argument that is no text. -/
def requireText (place : Nat) (m : Meaning) : Except Problem Unit :=
  match m with
  | .object (.text _) => .ok ()
  | m =>
      .error (mistaken ("argument " ++ toString place ++ " must be str, not "
        ++ Problem.longName m.toObject.placeName))

/-- What a coding refused. -/
def codingFailure (cls : String) (arguments : List Meaning) : Made := do
  let isReading := cls = "UnicodeDecodeError"
  let hasName := cls ≠ "UnicodeTranslateError"
  let due := if hasName then 5 else 4
  if arguments.length ≠ due then
    throw (mistaken ("function takes exactly " ++ toString due ++ " arguments ("
      ++ toString arguments.length ++ " given)"))
  let rest := if hasName then arguments.drop 1 else arguments
  if hasName then requireText 1 (arguments.headD absent)
  let whole := rest.headD absent
  if isReading then
    if whole.byteRow?.isNone then
      throw (mistaken
        ("a bytes-like object is required, not '" ++ Problem.longName whole.className ++ "'"))
  else requireText (if hasName then 2 else 1) whole
  for m in (rest.drop 1).take 2 do
    let _ ← Expression.sizeNumber m
  requireText due (rest.getD 3 absent)
  let names := ["object", "start", "end", "reason"]
  let names := if hasName then "encoding" :: names else names
  return (cls, arguments, names.zip arguments)

-- ================================================================== groups

/-- Several failures as one. A group of a class that holds everything is one
of another class if it holds only what programs handle. -/
def group (cls : String) (arguments : List Meaning) : Made := do
  match arguments with
  | [message, parts] =>
      if message.className ≠ "str" then
        throw (mistaken ("BaseExceptionGroup.__new__() argument 1 must be str, not "
          ++ Problem.longName message.toObject.placeName))
      let isRow := ["list", "tuple", "str", "bytes", "bytearray", "range", "memoryview"].contains
        parts.className
      if !isRow then throw (mistaken "second argument (exceptions) must be a sequence")
      let items ← parts.items
      if items.isEmpty then
        throw (.told .valueError "second argument (exceptions) must be a non-empty sequence")
      let isRaised (m : Meaning) : Bool :=
        match m with
        | .raised _ _ _ _ => true
        | _ => false
      match items.findIdx? (!isRaised ·) with
      | some i =>
          throw (.told .valueError
            ("Item " ++ toString i ++ " of second argument (exceptions) is not an exception"))
      | none =>
          let isPlain := items.all fun m => comesFrom m.className "Exception"
          if cls = "ExceptionGroup" && !isPlain then
            throw (mistaken "Cannot nest BaseExceptions in an ExceptionGroup")
          return (if isPlain then "ExceptionGroup" else cls, arguments,
            [("message", message), ("exceptions", .tuple items)])
  | arguments =>
      throw (mistaken ("BaseExceptionGroup.__new__() takes exactly 2 arguments ("
        ++ toString arguments.length ++ " given)"))

-- ================================================================= classes

/-- The names of what can be given to a class by name. -/
def namesOf (cls : String) : List String :=
  if comesFrom cls "ImportError" then ["name", "path"]
  else if comesFrom cls "NameError" then ["name"]
  else if cls = "AttributeError" then ["name", "obj"]
  else []

/-- What a class with plain arguments knows of them. -/
def ownFields (cls : String) (arguments : List Meaning) : Fields :=
  if comesFrom cls "ImportError" then
    [("msg", match arguments with
      | [m] => m
      | _ => absent)]
  else if cls = "StopIteration" then [("value", arguments.headD absent)]
  else if cls = "SystemExit" then
    [("code", match arguments with
      | [] => absent
      | [m] => m
      | arguments => .tuple arguments)]
  else []

/-- What can be raised, made of arguments without names. -/
def plainly (cls : String) (arguments : List Meaning) : Made :=
  if comesFrom cls "OSError" then systemFailure cls arguments
  else if comesFrom cls "SyntaxError" then mistakeInText cls arguments
  else if comesFrom cls "BaseExceptionGroup" then group cls arguments
  else if comesFrom cls "UnicodeError" && cls ≠ "UnicodeError" then codingFailure cls arguments
  else .ok (cls, arguments, ownFields cls arguments)

/-- The name that a class has in a message about the names of arguments. -/
def labelFor (cls : String) : String :=
  if comesFrom cls "ImportError" then "ImportError"
  else if comesFrom cls "NameError" then "NameError"
  else cls

/-- What can be raised, made of some arguments. -/
def raise (cls : String) (arguments : List Meaning) (entries : Fields) :
    Except Problem Meaning := do
  let names := namesOf cls
  let named ←
    if names.isEmpty then
      if comesFrom cls "BaseExceptionGroup" then pure []
      else do
        Expression.refuseNames cls entries
        pure []
    else do
      let found ← ({ name := labelFor cls, formals := names } : Signature).fill [] entries
      pure ((names.zip found).map fun (key, m?) => (key, m?.getD absent))
  let (cls, arguments, fields) ← plainly cls arguments
  return .raised 0 cls arguments
    (("__suppress_context__", .flag false) :: named ++ fields)

end CommandConsole.Raising
