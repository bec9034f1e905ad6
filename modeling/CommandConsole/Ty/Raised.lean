/-
How what can be raised is written and shown.

It is written by its class and its arguments, and shown by its arguments
alone. A few classes tell more of what they know about themselves: which file
an operation failed for, or where in a text a mistake was found.
-/
import CommandConsole.Ty.Ancestry

namespace CommandConsole.Raised

open BuiltinClass (comesFrom)

/-- Some arguments as they are written behind the name of a class. -/
def written (cls : String) (arguments : List Object) : String :=
  Object.bracketed (cls ++ "(") ")" (arguments.map Object.written)

/-- Some arguments as they are shown: one as itself, several as a row. -/
def plainlyShown (arguments : List Object) : String :=
  match arguments with
  | [] => ""
  | [x] => x.display
  | arguments => (Object.tuple arguments).written

/-- The failure of an operation of the system, which has a number, a
description and perhaps one or two files. -/
def systemFailureShown (arguments : List Object) (field : String → Object) : String :=
  let start := "[Errno " ++ (field "errno").display ++ "] " ++ (field "strerror").display
  match field "filename", field "filename2", field "errno", field "strerror" with
  | .none, _, .none, _ => plainlyShown arguments
  | .none, _, _, .none => plainlyShown arguments
  | .none, _, _, _ => start
  | file, .none, _, _ => start ++ ": " ++ file.written
  | file, other, _, _ => start ++ ": " ++ file.written ++ " -> " ++ other.written

/-- What stands behind the last slash of a path. -/
def fileOf (path : String) : String :=
  String.ofList (path.toList.reverse.takeWhile (· ≠ '/')).reverse

/-- A mistake in a text, with its file and its line if they are told. -/
def mistakeShown (field : String → Object) : String :=
  let message := (field "msg").display
  match field "filename", field "lineno" with
  | .text file, .int line =>
      message ++ " (" ++ fileOf file ++ ", line " ++ toString line ++ ")"
  | .text file, _ => message ++ " (" ++ fileOf file ++ ")"
  | _, .int line => message ++ " (line " ++ toString line ++ ")"
  | _, _ => message

/-- What a coding refused: an item of a row at a place, or the items from one
place up to another one. -/
def codingShown (verb items : String) (length : Nat) (item : Nat → String)
    (field : String → Object) : String :=
  let start := (field "start").integer?.getD 0
  let stop := (field "end").integer?.getD 0
  let which :=
    if 0 ≤ start && start < length && stop = start + 1 then
      " " ++ item start.toNat ++ " in position " ++ toString start
    else "s in position " ++ toString start ++ "-" ++ toString (stop - 1)
  let codec :=
    match field "encoding" with
    | .text s => "'" ++ s ++ "' codec "
    | _ => ""
  codec ++ "can't " ++ verb ++ " " ++ items ++ which ++ ": " ++ (field "reason").display

/-- A character that a coding refused. -/
def refusedCharacter (cs : List Char) (place : Nat) : String :=
  let n := (cs.getD place ' ').toNat
  let escape (letter : String) (size : Nat) : String :=
    "'\\" ++ letter ++ String.ofList (Text.hexDigits size n) ++ "'"
  if n ≤ 0xFF then escape "x" 2 else if n ≤ 0xFFFF then escape "u" 4 else escape "U" 8

/-- What can be raised as it is shown. -/
def shown (cls : String) (arguments : List Object) (field : String → Object) : String :=
  if cls = "KeyError" then
    match arguments with
    | [x] => x.written
    | arguments => plainlyShown arguments
  else if comesFrom cls "OSError" then systemFailureShown arguments field
  else if comesFrom cls "SyntaxError" then mistakeShown field
  else if comesFrom cls "ImportError" then
    match field "msg" with
    | .text s => s
    | _ => plainlyShown arguments
  else if comesFrom cls "BaseExceptionGroup" then
    match field "message", field "exceptions" with
    | .text s, .tuple parts =>
        s ++ " (" ++ toString parts.length ++ " sub-exception"
          ++ (if parts.length = 1 then "" else "s") ++ ")"
    | _, _ => plainlyShown arguments
  else
    match cls, field "object" with
    | "UnicodeDecodeError", .bytes row =>
        codingShown "decode" "byte" row.length
          (fun i => "0x" ++ String.ofList (Text.hexDigits 2 (row.getD i 0))) field
    | "UnicodeEncodeError", .text s =>
        codingShown "encode" "character" s.length (refusedCharacter s.toList) field
    | "UnicodeTranslateError", .text s =>
        codingShown "translate" "character" s.length (refusedCharacter s.toList) field
    | _, _ => plainlyShown arguments

end CommandConsole.Raised
