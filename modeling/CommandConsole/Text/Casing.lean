/-
Letter case: the lower-case, upper-case and title-case forms of a text.

Each character maps on its own, with one exception. A capital sigma
becomes `ς` at the end of a word and `σ` elsewhere, so lower-casing looks
at the characters around it: at the nearest one on either side that is
not case-ignorable.

The canonical form of a name is what is left of it once its blanks are
dropped and its letters are small. Two spellings name the same thing
exactly when they have one canonical form.
-/
import CommandConsole.Text.Blank
import CommandConsole.Text.CaseTable

namespace CommandConsole.Text

-- =============================================== one character at a time

/-- The lower-case form of a character that does not depend on its
neighbours. -/
def lowerChar (c : Char) : List Char :=
  if c.toNat = 0x130 then
    ['i', Char.ofNat 0x307]
  else
    match CaseRun.lookup? lowerRuns c.toNat with
    | some n => [Char.ofNat n]
    | none => [c]

/-- The characters that a table of expansions lists for a code point. -/
def expansion? (table : List (Nat × List Nat)) (n : Nat) :
    Option (List Char) :=
  (table.lookup n).map fun codes => codes.map Char.ofNat

/-- The upper-case form of a character. -/
def upperChar (c : Char) : List Char :=
  match expansion? upperExpansions c.toNat with
  | some cs => cs
  | none =>
    match CaseRun.lookup? upperRuns c.toNat with
    | some n => [Char.ofNat n]
    | none => [c]

/-- The title-case form of a character: its upper case, but for the
letters listed apart. -/
def titleChar (c : Char) : List Char :=
  match expansion? titleExpansions c.toNat with
  | some cs => cs
  | none =>
    match CaseRun.lookup? titleRuns c.toNat with
    | some n => [Char.ofNat n]
    | none => upperChar c

/-- A cased character is a letter, or looks like one. -/
def isCased (c : Char) : Bool := inRuns casedRuns c.toNat

/-- A case-ignorable character does not end a word. -/
def isCaseIgnorable (c : Char) : Bool := inRuns caseIgnorableRuns c.toNat

-- ==================================================== characters in place

/-- The nearest character that is not case-ignorable is cased. -/
def meetsCased (cs : List Char) : Bool :=
  match cs.dropWhile isCaseIgnorable with
  | [] => false
  | c :: _ => isCased c

/-- The lower-case form of a character that stands between `before`,
nearest character first, and `after`. -/
def lowerBetween (before : List Char) (c : Char) (after : List Char) :
    List Char :=
  if c.toNat = 0x3A3 then
    if meetsCased before && !meetsCased after then ['ς'] else ['σ']
  else
    lowerChar c

/-- The lower-case form of the rest of a text, of which `before` has been
read, nearest character first. -/
def lowerFrom (before : List Char) : List Char → List Char
  | [] => []
  | c :: after => lowerBetween before c after ++ lowerFrom (c :: before) after

/-- The title-case form of the rest of a text. A character that follows a
cased one is put into lower case, any other into title case. -/
def titleFrom (before : List Char) : List Char → List Char
  | [] => []
  | c :: after =>
    (match before with
      | [] => titleChar c
      | b :: _ => if isCased b then lowerBetween before c after else titleChar c)
      ++ titleFrom (c :: before) after

-- ============================================================ whole texts

/-- A text in lower case. -/
def lower (s : String) : String := String.ofList (lowerFrom [] s.toList)

/-- A text in upper case. -/
def upper (s : String) : String := String.ofList (s.toList.flatMap upperChar)

/-- A text in title case: the first letter of each word is capital. -/
def title (s : String) : String := String.ofList (titleFrom [] s.toList)

/-- The canonical form of a name: its blanks dropped, wherever they stand,
and its letters put into lower case. -/
def canonical (name : String) : String := lower (withoutBlanks name)

end CommandConsole.Text
