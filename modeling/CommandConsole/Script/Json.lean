/-
JSON values, which tell a scripted host what to do.

Numbers keep the text they are written with and objects the order of their
fields, so that nothing is lost between reading and writing.
-/
import CommandConsole.Number.Real
import CommandConsole.Object.Basic

namespace CommandConsole.Script

/-- A JSON value. -/
inductive Json where
  | null
  | bool (b : Bool)
  | num (s : String)
  | str (s : String)
  | arr (xs : List Json)
  | obj (fields : List (String × Json))
deriving Inhabited

namespace Json

-- ================================================================= reading

/-- Why a text is no JSON value. -/
inductive Refusal where
  /-- The text ends where more is due. -/
  | unfinished
  /-- A character stands where it cannot stand. -/
  | misplaced

/-- The number that the next four hexadecimal digits spell, and what stands
after them. -/
def readUnit (cs : List Char) : Except Refusal (Nat × List Char) :=
  match (cs.take 4).mapM (Number.digitOf? 16) with
  | some digits =>
      if digits.length = 4 then .ok (Number.ofDigits 16 digits, cs.drop 4)
      else .error .unfinished
  | none => .error .misplaced

/-- The character that a letter after a backslash stands for. -/
def escaped (c : Char) : Char :=
  if c = 'n' then '\n'
  else if c = 't' then '\t'
  else if c = 'r' then '\r'
  else if c = 'b' then Char.ofNat 8
  else if c = 'f' then Char.ofNat 12
  else c

/-- The character whose first unit is given. One beyond the first plane is
written as two units. -/
def readRest (unit : Nat) (cs : List Char) : Except Refusal (Char × List Char) :=
  if 0xD800 ≤ unit && unit < 0xDC00 then
    match cs with
    | '\\' :: 'u' :: rest => do
        let (low, tail) ← readUnit rest
        return (Char.ofNat (0x10000 + (unit - 0xD800) * 0x400 + (low - 0xDC00)), tail)
    | _ => .error .misplaced
  else .ok (Char.ofNat unit, cs)

/-- The next character of a string, and what stands after it. -/
def readChar : List Char → Except Refusal (Char × List Char)
  | [] => .error .unfinished
  | '\\' :: 'u' :: rest => do
      let (unit, tail) ← readUnit rest
      readRest unit tail
  | '\\' :: c :: rest => .ok (escaped c, rest)
  | c :: rest => .ok (c, rest)

/-- The characters before the quote that closes a string, and what stands
after it. As many characters are read as there is fuel. -/
def readString : Nat → List Char → Except Refusal (List Char × List Char)
  | 0, _ => .error .unfinished
  | _ + 1, '"' :: rest => .ok ([], rest)
  | fuel + 1, cs => do
      let (c, rest) ← readChar cs
      let (read, tail) ← readString fuel rest
      return (c :: read, tail)

/-- The text of a string after its first quote, and what stands after it. -/
def readText (fuel : Nat) (cs : List Char) : Except Refusal (String × List Char) :=
  (readString fuel cs).map fun (read, tail) => (String.ofList read, tail)

/-- The characters after those that may stand between values. -/
def skipSpace (cs : List Char) : List Char :=
  cs.dropWhile fun c => c == ' ' || c == '\t' || c == '\n' || c == '\r'

/-- A character that a number may hold. -/
def isNumberPart (c : Char) : Bool := c.isAlphanum || c == '+' || c == '-' || c == '.'

mutual

/-- Reads a value. Each of the readers is given as much fuel as there are
characters. -/
def readValue : Nat → List Char → Except Refusal (Json × List Char)
  | 0, _ => .error .unfinished
  | fuel + 1, input =>
      match skipSpace input with
      | [] => .error .unfinished
      | '"' :: rest => (readText fuel rest).map fun (s, tail) => (.str s, tail)
      | '[' :: rest =>
          match skipSpace rest with
          | ']' :: tail => .ok (.arr [], tail)
          | start => (readItems fuel start).map fun (xs, tail) => (.arr xs, tail)
      | '{' :: rest =>
          match skipSpace rest with
          | '}' :: tail => .ok (.obj [], tail)
          | start => (readFields fuel start).map fun (xs, tail) => (.obj xs, tail)
      | 'n' :: 'u' :: 'l' :: 'l' :: rest => .ok (.null, rest)
      | 't' :: 'r' :: 'u' :: 'e' :: rest => .ok (.bool true, rest)
      | 'f' :: 'a' :: 'l' :: 's' :: 'e' :: rest => .ok (.bool false, rest)
      | start =>
          let body := start.takeWhile isNumberPart
          if body.isEmpty then .error .misplaced
          else .ok (.num (String.ofList body), start.dropWhile isNumberPart)

/-- Reads the items of an array and the bracket after them. -/
def readItems : Nat → List Char → Except Refusal (List Json × List Char)
  | 0, _ => .error .unfinished
  | fuel + 1, input => do
      let (x, rest) ← readValue fuel input
      match skipSpace rest with
      | ',' :: tail => (readItems fuel tail).map fun (xs, tail) => (x :: xs, tail)
      | ']' :: tail => return ([x], tail)
      | [] => throw .unfinished
      | _ => throw .misplaced

/-- Reads the fields of an object and the brace after them. -/
def readFields : Nat → List Char → Except Refusal (List (String × Json) × List Char)
  | 0, _ => .error .unfinished
  | fuel + 1, input =>
      match skipSpace input with
      | '"' :: start => do
          let (key, afterKey) ← readText fuel start
          let ':' :: afterColon := skipSpace afterKey | throw .misplaced
          let (x, rest) ← readValue fuel afterColon
          match skipSpace rest with
          | ',' :: tail =>
              (readFields fuel tail).map fun (xs, tail) => ((key, x) :: xs, tail)
          | '}' :: tail => return ([(key, x)], tail)
          | [] => throw .unfinished
          | _ => throw .misplaced
      | [] => .error .unfinished
      | _ => .error .misplaced

end

/-- The value at the start of a text. -/
def ofText (s : String) : Except Refusal Json :=
  (readValue (s.toList.length + 1) s.toList).map (·.1)

-- ================================================================= writing

/-- A character as it is written in a string. -/
def writtenChar (c : Char) : List Char :=
  if c = '"' ∨ c = '\\' then ['\\', c]
  else if c.toNat < 0x20 ∨ c.toNat = 0x7F then '\\' :: 'u' :: Text.hexDigits 4 c.toNat
  else [c]

/-- A text as it is written in a JSON value. -/
def writtenString (s : String) : String :=
  String.ofList ('"' :: s.toList.flatMap writtenChar ++ ['"'])

mutual

/-- A value as it is written. -/
def written : Json → String
  | .null => "null"
  | .bool b => if b then "true" else "false"
  | .num s => s
  | .str s => writtenString s
  | .arr xs => "[" ++ ",".intercalate (writtenItems xs) ++ "]"
  | .obj fields => "\x7b" ++ ",".intercalate (writtenFields fields) ++ "\x7d"

/-- The items of an array as they are written. -/
def writtenItems : List Json → List String
  | [] => []
  | x :: rest => written x :: writtenItems rest

/-- The fields of an object as they are written. -/
def writtenFields : List (String × Json) → List String
  | [] => []
  | (key, x) :: rest => (writtenString key ++ ":" ++ written x) :: writtenFields rest

end

-- ================================================================== access

/-- The value of a field, if it is there: the last one of that name. -/
def get? (j : Json) (key : String) : Option Json :=
  match j with
  | .obj fields => (fields.reverse.find? fun field => field.1 == key).map (·.2)
  | _ => none

/-- The value of a field, or null. -/
def get (j : Json) (key : String) : Json := (j.get? key).getD .null

/-- The items of an array. -/
def items : Json → List Json
  | .arr xs => xs
  | _ => []

/-- The fields of an object. -/
def fields : Json → List (String × Json)
  | .obj xs => xs
  | _ => []

/-- The text of a string. -/
def text : Json → String
  | .str s => s
  | _ => ""

/-- The whole number that a value is; a truth value is zero or one. -/
def int? : Json → Option Int
  | .num s => s.toInt?
  | .bool b => some (if b then 1 else 0)
  | _ => none

/-- The whole number that a value is, or zero. -/
def int (j : Json) : Int := j.int?.getD 0

/-- The count that a value is, or zero. -/
def nat (j : Json) : Nat := j.int.toNat

/-- A whole number as a value. -/
def ofInt (n : Int) : Json := .num (toString n)

/-- A count as a value. -/
def ofNat (n : Nat) : Json := .num (toString n)

-- ================================================================= objects

mutual

/-- The object that a value stands for. -/
def toObject : Json → Object
  | .null => .none
  | .bool b => .bool b
  | .num s =>
      if s.toList.all fun c => c.isDigit || c == '-' then .int ((s.toInt?).getD 0)
      else .float ((Number.readReal s).getD .nan)
  | .str s => .text s
  | .arr xs => .list (toObjects xs)
  | .obj fields => .dict (toEntries fields)

/-- The objects that the items of an array stand for. -/
def toObjects : List Json → List Object
  | [] => []
  | x :: rest => toObject x :: toObjects rest

/-- The entries that the fields of an object stand for. -/
def toEntries : List (String × Json) → List (Object × Object)
  | [] => []
  | (key, x) :: rest => (.text key, toObject x) :: toEntries rest

end

/-- The field is there and holds a value that counts as true. -/
def flag (j : Json) (key : String) : Bool := ((j.get? key).map toObject).any Object.truthy

end Json

end CommandConsole.Script
