/-
What characters are: letters in upper, lower or title case, and digits.
-/
import CommandConsole.Text.Casing
import CommandConsole.Text.Identifier
import CommandConsole.Text.LetterTable

namespace CommandConsole.Text

/-- All characters of a text, of which there is one at least, are of a
class. -/
def allOf (p : Char → Bool) (cs : List Char) : Bool := !cs.isEmpty && cs.all p

/-- A character is a letter. -/
def isLetter (c : Char) : Bool :=
  c != '_' && (isIdentifierStart c || inRuns namelessLetterRuns c.toNat)
    && !inRuns letterlessNameRuns c.toNat

/-- A character is a digit of a number. -/
def isDecimal (c : Char) : Bool := inRuns decimalRuns c.toNat

/-- A character stands for a digit. -/
def isDigit (c : Char) : Bool := isDecimal c || inRuns otherDigitRuns c.toNat

/-- A character stands for a number. -/
def isNumeric (c : Char) : Bool := isDigit c || inRuns otherNumberRuns c.toNat

/-- A character is a letter in upper case. -/
def isUpper (c : Char) : Bool :=
  isCased c && ((upperChar c = [c] && lowerChar c ≠ [c]) || inRuns fixedCapitalRuns c.toNat)

/-- A character is a letter in title case. -/
def isTitleLetter (c : Char) : Bool := inRuns titleLetterRuns c.toNat

/-- A character is a letter in lower case. -/
def isLower (c : Char) : Bool := isCased c && !isUpper c && !isTitleLetter c

/-- A text has letters in upper case and none in another one. -/
def isAllUpper (cs : List Char) : Bool :=
  cs.any isUpper && cs.all fun c => !isLower c && !isTitleLetter c

/-- A text has letters in lower case and none in another one. -/
def isAllLower (cs : List Char) : Bool :=
  cs.any isLower && cs.all fun c => !isUpper c && !isTitleLetter c

/-- The words of a text start with letters in upper or in title case, and no
other letters are in one of them. -/
def isTitle (cs : List Char) : Bool :=
  cs.any isCased
    && (cs.zip (' ' :: cs)).all fun (c, before) =>
      if isCased before then !isUpper c && !isTitleLetter c else !isLower c

/-- The rest of a text, of which `before` has been passed, with each letter in
its other case. -/
def swappedFrom (before : List Char) : List Char → List Char
  | [] => []
  | c :: rest =>
      let other :=
        if isUpper c then lowerBetween before c rest
        else if isLower c then upperChar c
        else [c]
      other ++ swappedFrom (c :: before) rest

/-- A text without differences of case: two texts that differ in case only
are the same without them. -/
def folded (cs : List Char) : List Char :=
  cs.flatMap fun c => if c.toNat = 0x131 then [c] else (upperChar c).flatMap lowerChar

/-- A text of which the first character only is in title case. -/
def capitalized : List Char → List Char
  | [] => []
  | c :: rest => titleChar c ++ lowerFrom [c] rest

end CommandConsole.Text
