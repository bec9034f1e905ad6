/-
The literals of an expression: numbers, and texts between quotes.

Each reader answers what a literal stands for and the characters after it,
or nothing if the characters spell no literal.
-/
import CommandConsole.Expression.Syntax
import CommandConsole.Number.Real
import CommandConsole.Text.Named

namespace CommandConsole.Expression

open Number

/-- What a reader reads, the characters after it, and what the writer of the
expression is warned about. -/
structure Reading (α : Type) where
  found : α
  rest : List Char
  cautions : List Caution

/-- A character that may stand in a name, as far as can be seen without
looking at the whole name. -/
def isWordPart (c : Char) : Bool := c.isAlphanum || c == '_' || c.toNat ≥ 0x80

-- ================================================================ numbers

/-- The words that may stand right after a number. -/
def wordsAfterNumber : List String :=
  ["and", "else", "for", "if", "in", "is", "not", "or"]

/-- What is said about the characters after a number of a kind: they do not
go on with a word, unless it is one that may stand there. -/
def afterNumber (kind : String) (rest : List Char) : Option (List Caution) :=
  if wordsAfterNumber.any fun word => word.toList.isPrefixOf rest then
    some [.doubtful ("invalid " ++ kind ++ " literal")]
  else if rest.head?.any isWordPart then none
  else some []

/-- A row of digits at the start of some characters. Single underscores may
stand between digits. -/
def digitsAt (base : Nat) (cs : List Char) : Option (List Nat × List Char) :=
  match digitRow? (digitOf? base) (cs.map fun c => if c.toNat < 0x80 then c else ' ') with
  | some (digits, after) =>
      if after.head? == some '_' then none
      else some (digits, cs.drop (cs.length - after.length))
  | none => none

/-- A number as an object, unless a word stands right after it. -/
def numberThen (kind : String) (x : Object) (rest : List Char) : Option (Reading Object) :=
  (afterNumber kind rest).map fun cautions => ⟨x, rest, cautions⟩

/-- The name of a base other than ten. -/
def baseName (base : Nat) : String :=
  if base = 16 then "hexadecimal" else if base = 8 then "octal" else "binary"

/-- A whole number in a base other than ten, after the letter that tells the
base. -/
def readWithBase (base : Nat) (cs : List Char) : Option (Reading Object) :=
  match digitsAt base (match cs with | '_' :: rest => rest | cs => cs) with
  | none => none
  | some (digits, rest) =>
      if rest.head?.any Char.isDigit then none
      else numberThen (baseName base) (.int (ofDigits base digits)) rest

/-- The characters before a row of others. -/
def before (cs rest : List Char) : String := String.ofList (cs.take (cs.length - rest.length))

/-- The exponent at the start of some characters, which are the characters
after a number without one. -/
def skipExponent (cs : List Char) : Option (Bool × List Char) :=
  match cs with
  | e :: rest =>
      if e = 'e' ∨ e = 'E' then
        match rest with
        | sign :: digits =>
            if sign = '+' ∨ sign = '-' then (digitsAt 10 digits).map fun (_, tail) => (true, tail)
            else if sign.isDigit then (digitsAt 10 rest).map fun (_, tail) => (true, tail)
            else some (false, cs)
        | [] => some (false, cs)
      else some (false, cs)
  | [] => some (false, cs)

/-- The digits after a point, of which there may be none. -/
def skipFraction (cs : List Char) : Option (Bool × List Char) :=
  match cs with
  | '.' :: rest =>
      if rest.head?.any Char.isDigit then
        (digitsAt 10 rest).map fun (_, tail) => (true, tail)
      else some (true, rest)
  | cs => some (false, cs)

/-- A number in base ten. Without a point and an exponent it is a whole
number, which has no zeros in front; with a `j` after it, it is imaginary. -/
def readDecimal (cs : List Char) : Option (Reading Object) := do
  let (digits, afterWhole) ←
    if cs.head?.any Char.isDigit then digitsAt 10 cs else some ([], cs)
  let (hasPoint, afterPoint) ← skipFraction afterWhole
  let (hasExponent, rest) ← skipExponent afterPoint
  let value := (readReal (before cs rest)).getD .nan
  match rest with
  | 'j' :: tail => numberThen "imaginary" (.complex .zero value) tail
  | 'J' :: tail => numberThen "imaginary" (.complex .zero value) tail
  | rest =>
      if hasPoint || hasExponent then numberThen "decimal" (.float value) rest
      else if digits.length > maxDigits then none
      else if digits.head? == some 0 && digits.any (· != 0) then none
      else numberThen "decimal" (.int (ofDigits 10 digits)) rest

/-- A number at the start of some characters, which is a digit or a point
before one. -/
def readNumber (cs : List Char) : Option (Reading Object) :=
  match cs with
  | '0' :: letter :: rest =>
      match baseOf? letter with
      | some base => readWithBase base rest
      | none => readDecimal cs
  | cs => readDecimal cs

-- ================================================================== texts

/-- What the letters in front of a text say about it. -/
structure TextKind where
  /-- The text is a row of bytes. -/
  isBytes : Bool
  /-- A backslash in the text stands for itself. -/
  isRaw : Bool
  /-- Objects may stand in the text. -/
  isFormatted : Bool

/-- What some letters in front of a text say about it. -/
def textKind? (letters : List Char) : Option TextKind :=
  match String.ofList (letters.map Char.toLower) with
  | "" => some ⟨false, false, false⟩
  | "u" => some ⟨false, false, false⟩
  | "r" => some ⟨false, true, false⟩
  | "b" => some ⟨true, false, false⟩
  | "br" => some ⟨true, true, false⟩
  | "rb" => some ⟨true, true, false⟩
  | "f" => some ⟨false, false, true⟩
  | "fr" => some ⟨false, true, true⟩
  | "rf" => some ⟨false, true, true⟩
  | _ => none

/-- The characters before the closing quote of a text. A text between triple
quotes may hold line ends. -/
def readBody (quote : Char) (isTriple : Bool) : List Char → Option (List Char × List Char)
  | [] => none
  | '\\' :: c :: rest =>
      (readBody quote isTriple rest).map fun (body, tail) => ('\\' :: c :: body, tail)
  | c :: rest =>
      if isTriple && [quote, quote, quote].isPrefixOf (c :: rest) then
        some ([], rest.drop 2)
      else if !isTriple && c = quote then some ([], rest)
      else if !isTriple && c = '\n' then none
      else (readBody quote isTriple rest).map fun (body, tail) => (c :: body, tail)

/-- The characters of a text after its letters, which starts with a quote. -/
def readQuoted (cs : List Char) : Option (List Char × List Char) :=
  match cs with
  | quote :: rest =>
      if [quote, quote].isPrefixOf rest then readBody quote true (rest.drop 2)
      else readBody quote false rest
  | [] => none

/-- The character that a letter after a backslash stands for. -/
def escape? (c : Char) : Option Char :=
  if c = '\\' ∨ c = '\'' ∨ c = '"' then some c
  else if c = 'n' then some '\n'
  else if c = 't' then some '\t'
  else if c = 'r' then some '\r'
  else if c = 'a' then some (Char.ofNat 7)
  else if c = 'b' then some (Char.ofNat 8)
  else if c = 'f' then some (Char.ofNat 12)
  else if c = 'v' then some (Char.ofNat 11)
  else none

/-- The number that exactly `count` hexadecimal digits spell. -/
def hexadecimalAt (count : Nat) (cs : List Char) : Option (Nat × List Char) := do
  let digits ← (cs.take count).mapM fun c => if c.toNat < 0x80 then digitOf? 16 c else none
  if digits.length = count then some (ofDigits 16 digits, cs.drop count) else none

/-- The octal digits at the start of some characters, three at most. -/
def octalAt (cs : List Char) : List Char := (cs.take 3).takeWhile fun c => '0' ≤ c && c ≤ '7'

/-- The name of a character between braces at the start of some
characters. -/
def namedAt (cs : List Char) : Option (List Char × List Char) :=
  match cs with
  | '\x7b' :: rest =>
      match rest.dropWhile (· ≠ '\x7d') with
      | _ :: tail => some (rest.takeWhile (· ≠ '\x7d'), tail)
      | [] => none
  | _ => none

/-- The code points of a text, where `fuel` is at least the number of its
characters. A backslash with a character that means nothing stands for both
of them. -/
def decode (kind : TextKind) : Nat → List Char → Option (List Nat × List Caution)
  | 0, _ => some ([], [])
  | _ + 1, [] => some ([], [])
  | fuel + 1, '\\' :: c :: rest =>
      let numbered (count : Nat) : Option (List Nat × List Caution) := do
        let (n, tail) ← hexadecimalAt count rest
        if n > 0x10FFFF then none
        else (decode kind fuel tail).map fun (row, cautions) => (n :: row, cautions)
      let octal := octalAt (c :: rest)
      if kind.isRaw then
        (decode kind fuel rest).map fun (row, cautions) =>
          ('\\'.toNat :: c.toNat :: row, cautions)
      else if c = '\n' then decode kind fuel rest
      else if c = 'x' then numbered 2
      else if !octal.isEmpty then
        let n := ofDigits 8 (octal.map fun d => d.toNat - '0'.toNat)
        let doubts :=
          if n < 256 then []
          else [Caution.deprecated
            ("invalid octal escape sequence '\\" ++ String.ofList octal ++ "'")]
        (decode kind fuel ((c :: rest).drop octal.length)).map fun (row, cautions) =>
          ((if kind.isBytes then n % 256 else n) :: row, doubts ++ cautions)
      else if c = 'u' && !kind.isBytes then numbered 4
      else if c = 'U' && !kind.isBytes then numbered 8
      else if c = 'N' && !kind.isBytes then do
        let (label, tail) ← namedAt rest
        let n ← Text.characterNamed? (String.ofList label)
        (decode kind fuel tail).map fun (row, cautions) => (n :: row, cautions)
      else
        match escape? c with
        | some d =>
            (decode kind fuel rest).map fun (row, cautions) => (d.toNat :: row, cautions)
        | none =>
            let caution :=
              Caution.deprecated
                ("invalid escape sequence '\\" ++ String.ofList [c] ++ "'")
            (decode kind fuel rest).map fun (row, cautions) =>
              ('\\'.toNat :: c.toNat :: row, caution :: cautions)
  | fuel + 1, c :: rest =>
      (decode kind fuel rest).map fun (row, cautions) => (c.toNat :: row, cautions)

/-- The text or the row of bytes that the characters between quotes stand
for, with the first caution about it. A row of bytes is spelled in ASCII. -/
def readText (kind : TextKind) (body : List Char) : Option (Object × List Caution) := do
  if kind.isBytes && body.any fun c => c.toNat ≥ 0x80 then none
  else
    let (row, cautions) ← decode kind (body.length + 1) body
    some (if kind.isBytes then .bytes row else .text (String.ofList (row.map Char.ofNat)),
      cautions.take 1)

end CommandConsole.Expression
