/-
Names in expressions: which characters they hold, and the plain form under
which they are known.

A name is known by the plain characters that the characters it is spelled
with are variants of, so that a name in wide or in italic letters is the
same name as one in plain letters. In the plain form a letter and the marks
on it are one character where there is one.
-/
import CommandConsole.Text.Blank
import CommandConsole.Text.CompatibilityTable
import CommandConsole.Text.IdentifierTable

namespace CommandConsole.Text

/-- A name may start with a character. -/
def isIdentifierStart (c : Char) : Bool :=
  c.isAlpha || c == '_' || inRuns identifierStarts c.toNat

/-- A name may hold a character. -/
def isIdentifierPart (c : Char) : Bool :=
  isIdentifierStart c || c.isDigit || inRuns identifierRests c.toNat

/-- Some characters spell a name. -/
def isIdentifier : List Char → Bool
  | [] => false
  | c :: rest => isIdentifierStart c && rest.all isIdentifierPart

-- ============================================================== plain form

/-- The plain characters that a character is a variant of. -/
def plainCharacters (n : Nat) : List Nat :=
  match variantRows.lookup n with
  | some row => row
  | none =>
      match variantRuns.find? fun run => run.1 ≤ n && n ≤ run.2.1 with
      | some (first, _, target) => [target + (n - first)]
      | none => [n]

/-- The letter and the mark that a character consists of. -/
def letterAndMark? (n : Nat) : Option (Nat × Nat) :=
  markedLetters.findSome? fun (mark, letters) =>
    (letters.find? fun letter => letter.2 == n).map fun letter => (letter.1, mark)

/-- A character as a letter with its marks after it, of which there are at
most `marks`. -/
def separated : Nat → Nat → List Nat
  | 0, n => [n]
  | marks + 1, n =>
      match letterAndMark? n with
      | some (letter, mark) => separated marks letter ++ [mark]
      | none => [n]

/-- The class of a mark; what is no mark has class zero. -/
def markClass (n : Nat) : Nat :=
  ((markClasses.find? fun run => run.1 ≤ n && n ≤ run.2.1).map (·.2.2)).getD 0

/-- A character before others, behind the marks of lower classes if it is a
mark itself. -/
def insertMark (n : Nat) : List Nat → List Nat
  | [] => [n]
  | m :: rest =>
      if markClass m != 0 && markClass m < markClass n then m :: insertMark n rest
      else n :: m :: rest

/-- The character that a letter and a mark make together. -/
def joined? (letter mark : Nat) : Option Nat :=
  (markedLetters.lookup mark).bind fun letters => letters.lookup letter

/-- Letters with the marks that follow them made one character, as far as
there is one. The marks of the latest letter that are `kept` as they are
stand in reverse order. -/
def joinMarks (letter : Nat) (kept : List Nat) : List Nat → List Nat
  | [] => letter :: kept.reverse
  | n :: rest =>
      let isFree := kept.all fun m => markClass m < markClass n
      match if isFree then joined? letter n else none with
      | some whole => joinMarks whole kept rest
      | none =>
          if markClass n = 0 then letter :: kept.reverse ++ joinMarks n [] rest
          else joinMarks letter (n :: kept) rest

/-- The plain form of some code points. -/
def plainForm (row : List Nat) : List Nat :=
  let parts := (row.flatMap plainCharacters).flatMap (separated 4)
  match parts.foldr insertMark [] with
  | [] => []
  | n :: rest => joinMarks n [] rest

/-- The name that some characters spell, in its plain form. -/
def identifier (cs : List Char) : String :=
  if cs.all fun c => c.toNat < 0x80 then String.ofList cs
  else String.ofList ((plainForm (cs.map Char.toNat)).map Char.ofNat)

end CommandConsole.Text
