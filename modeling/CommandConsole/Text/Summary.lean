/-
The summary of a text about a routine: its first line, once the blanks
that only lay the text out are gone.

Tabs become spaces, the lines after the first lose the indentation they
share, and empty lines at either end are dropped.
-/
import CommandConsole.Text.Blank

namespace CommandConsole.Text

/-- A text with spaces in the place of its tabs, up to the next multiple
of eight characters on the line. -/
def untabbed (column : Nat) : List Char → List Char
  | [] => []
  | c :: rest =>
      if c = '\t' then
        List.replicate (8 - column % 8) ' ' ++ untabbed 0 rest
      else if c = '\n' ∨ c = '\r' then c :: untabbed 0 rest
      else c :: untabbed (column + 1) rest

/-- The number of blanks at the start of a line that holds more than
blanks. -/
def indentation? (line : List Char) : Option Nat :=
  let blanks := (line.takeWhile isBlank).length
  if blanks < line.length then some blanks else none

/-- The lines of a text without the indentation that all of them but the
first share. -/
def unindented (text : List Char) : List (List Char) :=
  match (untabbed 0 text).splitOn '\n' with
  | [] => []
  | first :: rest =>
      let margin := (rest.filterMap indentation?).min?.getD 0
      first.dropWhile isBlank :: rest.map (·.drop margin)

/-- The first line of a text about a routine that is not empty. -/
def summary (text : String) : String :=
  String.ofList (((unindented text.toList).dropWhile List.isEmpty).headD [])

end CommandConsole.Text
