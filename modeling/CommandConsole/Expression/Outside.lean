/-
Routines that reach outside of an expression: they print, open files, read
other expressions, and look for modules.

An expression can reach nothing there. So only what these routines refuse
shows: arguments that they do not take, files that are not there, and modules
that nobody knows.
-/
import CommandConsole.Expression.Measure

namespace CommandConsole.Expression

/-- The routines that reach outside. -/
def outsideNames : List String :=
  ["print", "input", "open", "compile", "__import__", "__build_class__"]

/-- An argument that should be a text. -/
def requireText (callee key : String) (m : Meaning) : Except Problem String :=
  match m with
  | .object (.text s) => .ok s
  | m =>
      .error (mistaken (callee ++ "() argument '" ++ key ++ "' must be str, not "
        ++ Problem.longName m.toObject.placeName))

/-- An argument that should be the path of a file. -/
def requirePath (m : Meaning) : Except Problem (List Char) := do
  let path ←
    match m with
    | .object (.text s) => pure s.toList
    | .object (.bytes row) => pure (row.map Char.ofNat)
    | m =>
        throw (mistaken ("expected str, bytes or os.PathLike object, not "
          ++ Problem.longName m.className))
  if path.contains (Char.ofNat 0) then throw (.told .valueError "embedded null byte")
  return path

-- ================================================================ printing

/-- Refuses what cannot be printed. -/
def printed (arguments : List Meaning) (entries : List (String × Meaning)) :
    Except Problem Meaning := do
  let places ←
    ({ name := "print", formals := ["sep", "end", "file", "flush"] } : Signature).fill [] entries
  let stream := (places[2]?).join.getD .absent
  if stream.className ≠ "NoneType" then
    throw (.noAttribute stream.className "write")
  for (key, m?) in ["sep", "end"].zip places do
    match m? with
    | none | some (.object .none) | some (.object (.text _)) => pure ()
    | some m =>
        throw (mistaken (key ++ " must be None or a string, not "
          ++ Problem.longName m.className))
  for m in arguments do
    let _ ← m.shown
  return .absent

-- =================================================================== files

/-- Refuses a mode in which no file is opened. -/
def requireMode (mode : List Char) : Except Problem Unit := do
  let invalid : Problem :=
    .told .valueError ("invalid mode: " ++ Text.quoted (String.ofList mode))
  let refused (message : String) : Except Problem Unit := .error (.told .valueError message)
  if !mode.all (['x', 'r', 'w', 'a', '+', 't', 'b'].contains ·) then throw invalid
  if mode.eraseDups.length ≠ mode.length then throw invalid
  if mode.contains 't' && mode.contains 'b' then
    refused "can't have text and binary mode at once"
  let ways := mode.filter fun c => ['x', 'r', 'w', 'a'].contains c
  if ways.length > 1 then refused "must have exactly one of create/read/write/append mode"
  if ways.isEmpty then
    refused "Must have exactly one of create/read/write/append mode and at most one plus"

/-- Refuses what cannot be an argument of a routine that opens files. -/
def requireWays (places : List (Option Meaning)) : Except Problem Unit := do
  let place (i : Nat) : Option Meaning := (places[i]?).join
  if let some m := place 1 then discard (requireText "open" "mode" m)
  if let some m := place 2 then discard (smallNumber m)
  for (i, key) in [(3, "encoding"), (4, "errors"), (5, "newline")] do
    match place i with
    | none | some (.object .none) | some (.object (.text _)) => pure ()
    | some m =>
        throw (mistaken ("open() argument '" ++ key ++ "' must be str or None, not "
          ++ Problem.longName m.className))

/-- Opens a file to read it. There are only directories. -/
def openedFile (file mode : Meaning) : Except Problem Meaning := do
  if file.integer?.isNone then
    let _ ← requirePath file
  let mode := (← requireText "open" "mode" mode).toList
  requireMode mode
  match file.integer? with
  | some n =>
      if n < 0 then throw (.told .valueError "negative file descriptor")
      else throw (.told (.named "OSError") "[Errno 9] Bad file descriptor")
  | none =>
      let path ← requirePath file
      if mode.any fun c => c ≠ 'r' && c ≠ 't' && c ≠ 'b' && c ≠ '+' then return .absent
      if [['/'], ['.'], ['.', '.'], "/tmp".toList, "/etc".toList].contains path then
        throw (.told (.named "IsADirectoryError") ("[Errno 21] Is a directory: " ++ file.written))
      else
        throw (.told (.named "FileNotFoundError")
          ("[Errno 2] No such file or directory: " ++ file.written))

-- ================================================================= modules

/-- The modules that are a part of the whole, each with the word for where it
comes from. -/
def moduleNames : List (String × String) :=
  ["_thread", "array", "atexit", "binascii", "builtins", "cmath", "errno", "faulthandler",
   "fcntl", "gc", "grp", "itertools", "marshal", "math", "mmap", "posix", "pwd", "select",
   "sys", "syslog", "time", "unicodedata", "zlib"].map (·, "built-in")
  ++ ["abc", "codecs", "genericpath", "io", "ntpath", "os", "posixpath", "runpy", "site",
   "stat", "zipimport"].map (·, "frozen")

/-- A module that a name stands for. -/
def moduleNamed (name : String) : Except Problem Meaning := do
  let found := String.ofList (name.toList.takeWhile (· ≠ '.'))
  if name = "" then throw (.told .valueError "Empty module name")
  match moduleNames.lookup found with
  | some place =>
      return .object (Meaning.named "module" (some found)
        ("<module '" ++ found ++ "' (" ++ place ++ ")>"))
  | none =>
      throw (.told (.named "ModuleNotFoundError")
        ("No module named " ++ Text.quoted found))

-- ==================================================================== code

/-- An expression that is kept to be evaluated later. The source is under no
name. -/
def codeOf (file source : String) : Meaning :=
  .lone 0
    (Meaning.named "code" none
      ("<code object <module> at 0x, file \"" ++ file ++ "\", line 1>"))
    [("", .text source)]

/-- The source of an expression that is kept. -/
def sourceKept? : Meaning → Option String
  | .lone _ (.sealed "code" _ _ _) [("", .object (.text source))] => some source
  | _ => none

/-- An expression that is kept, from its source, the file that the source is
said to be in, and what it is kept for. -/
def compiled (source file mode : Meaning) : Except Problem Meaning := do
  let file ← requirePath file
  let mode ← requireText "compile" "mode" mode
  if !(["exec", "eval", "single"].contains mode) then
    throw (.told .valueError "compile() mode must be 'exec', 'eval' or 'single'")
  match source, source.byteRow? with
  | .object (.text s), _ => return codeOf (String.ofList file) s
  | _, some row => return codeOf (String.ofList file) (String.ofList (row.map Char.ofNat))
  | _, none => throw (mistaken "compile() arg 1 must be a string, bytes or AST object")

-- ================================================================ routines

/-- The places of the arguments of a routine that reaches outside. -/
def outsideSignature? (key : String) : Option Signature :=
  match key with
  | "open" =>
      some
        { name := key
          formals := ["file", "mode", "buffering", "encoding", "errors", "newline", "closefd",
            "opener"]
          required := 1 }
  | "compile" =>
      some
        { name := key
          formals := ["source", "filename", "mode", "flags", "dont_inherit", "optimize"]
          required := 3 }
  | "__import__" =>
      some
        { name := key
          formals := ["name", "globals", "locals", "fromlist", "level"]
          required := 1 }
  | _ => none

/-- What a routine that reaches outside makes of some arguments, of which
some have names. Those that make a class or ask for a line make nothing. -/
def outside (key : String) (arguments : List Meaning) (entries : List (String × Meaning)) :
    Except Problem Meaning := do
  match outsideSignature? key with
  | some signature =>
      let places ← signature.fill arguments entries
      let place (i : Nat) : Meaning := ((places[i]?).join).getD .absent
      match key with
      | "open" =>
          requireWays places
          openedFile (place 0) (((places[1]?).join).getD (.text "r"))
      | "compile" => compiled (place 0) (place 1) (place 2)
      | _ =>
          match place 0 with
          | .object (.text s) => moduleNamed s
          | _ => throw (mistaken "module name must be a string")
  | none =>
      match key, arguments with
      | "print", arguments => printed arguments entries
      | "__build_class__", [] | "__build_class__", [_] =>
          throw (mistaken "__build_class__: not enough arguments")
      | "__build_class__", f :: label :: _ =>
          if f.className ≠ "function" then
            throw (mistaken "__build_class__: func must be a function")
          if label.className ≠ "str" then
            throw (mistaken "__build_class__: name is not a string")
          return .absent
      | key, arguments =>
          refuseNames key entries
          requireBetween key 0 1 arguments.length
          return .absent

end CommandConsole.Expression
