/-
How some arguments, of which some have names, fill the places of a built-in
operation.

A place without a name takes an argument by its position only. The first
places have to be filled, and places behind the last position are filled by
their names only.
-/
import CommandConsole.Expression.Meaning

namespace CommandConsole.Expression

/-- A mistake in the class or the number of arguments. -/
def mistaken (message : String) : Problem := .told .typeError message

/-- The places of an operation. -/
structure Signature where
  /-- What the operation is called in messages. -/
  name : String
  /-- The names of the places; those without a name come first. -/
  formals : List String
  /-- So many places have to be filled. -/
  required : Nat := 0
  /-- So many places can be filled by position. -/
  positions : Nat := formals.length

namespace Signature

/-- A count of arguments in a message. -/
def argumentCount (n : Nat) (kind : String) : String :=
  toString n ++ " " ++ kind ++ "argument" ++ if n = 1 then "" else "s"

/-- Refuses more or fewer arguments than there are places for. -/
def requireCount (s : Signature) (given named : Nat) : Except Problem Unit := do
  let refuse (limit : String) (total : Nat) : Except Problem Unit :=
    .error (mistaken (s.name ++ "() takes " ++ limit ++ " (" ++ toString total ++ " given)"))
  let count := s.formals.length
  if given + named > count then
    refuse ("at most " ++ argumentCount count (if given = 0 then "keyword " else ""))
      (given + named)
  if given > s.positions then
    refuse ("at most " ++ argumentCount s.positions "positional ") given
  let least := min s.required (s.formals.takeWhile (· = "")).length
  if given < least then refuse ("at least " ++ argumentCount least "positional ") given

/-- Refuses arguments whose names are those of no places, or of places that
are filled already. -/
def requireNames (s : Signature) (given : Nat) (entries : List (String × Meaning)) :
    Except Problem Unit := do
  let filled := (s.formals.take given).zipIdx
  match filled.find? fun (key, _) => key ≠ "" && entries.any fun entry => entry.1 = key with
  | some (key, i) =>
      throw (mistaken ("argument for " ++ s.name ++ "() given by name ('" ++ key
        ++ "') and position (" ++ toString (i + 1) ++ ")"))
  | none =>
      match entries.find? fun entry => entry.1 = "" || !s.formals.contains entry.1 with
      | some (key, _) =>
          throw (mistaken
            ("'" ++ key ++ "' is an invalid keyword argument for " ++ s.name ++ "()"))
      | none => return

/-- What fills the places of an operation. -/
def fill (s : Signature) (arguments : List Meaning) (entries : List (String × Meaning)) :
    Except Problem (List (Option Meaning)) := do
  s.requireCount arguments.length entries.length
  let rest := (s.formals.zipIdx.drop arguments.length).map fun (key, i) =>
    (key, i, entries.lookup key)
  match rest.find? fun (_, i, m?) => i < s.required && m?.isNone with
  | some (key, i, _) =>
      throw (mistaken (s.name ++ "() missing required argument '" ++ key ++ "' (pos "
        ++ toString (i + 1) ++ ")"))
  | none =>
      s.requireNames arguments.length entries
      return arguments.map some ++ rest.map fun (_, _, m?) => m?

end Signature

/-- Refuses arguments with names. -/
def refuseNames (name : String) (entries : List (String × Meaning)) : Except Problem Unit :=
  if entries.isEmpty then .ok ()
  else .error (mistaken (name ++ "() takes no keyword arguments"))

/-- The one argument that a class takes, if it is given. -/
def oneOrNone (name : String) (arguments : List Meaning) : Except Problem (Option Meaning) :=
  match arguments with
  | [] => .ok none
  | [m] => .ok (some m)
  | _ => .error (.atMost name 1 arguments.length)

/-- Refuses more or fewer arguments than an operation takes. -/
def requireBetween (name : String) (least most given : Nat) : Except Problem Unit :=
  if given < least then
    .error (if least = most then
      mistaken (name ++ " expected " ++ Signature.argumentCount least "" ++ ", got "
        ++ toString given)
    else .atLeast name least given)
  else if given > most then
    .error (if least = most then
      mistaken (name ++ " expected " ++ Signature.argumentCount least "" ++ ", got "
        ++ toString given)
    else .atMost name most given)
  else .ok ()

/-- The whole number that an argument is. -/
def wholeNumber (m : Meaning) : Except Problem Int :=
  match m.integer? with
  | some n => .ok n
  | none =>
      .error (mistaken
        ("'" ++ Problem.longName m.className ++ "' object cannot be interpreted as an integer"))

/-- The whole number that an argument is, which is a count of items. -/
def sizeNumber (m : Meaning) : Except Problem Int := do
  let n ← wholeNumber m
  if -2 ^ 63 ≤ n && n < 2 ^ 63 then return n
  else throw (.told .overflowError "Python int too large to convert to C ssize_t")

/-- The whole number that an argument is, which is a small one. -/
def smallNumber (m : Meaning) : Except Problem Int := do
  let n ← wholeNumber m
  if -2 ^ 31 ≤ n && n < 2 ^ 31 then return n
  else throw (.told .overflowError "Python int too large to convert to C int")

end CommandConsole.Expression
