/-
Laying out a styled text in lines of a given width.

A text becomes a row of cells: characters that know their style and the
run they stand in. Every step of the layout looks at the characters alone,
so the styles cannot change where a line ends:

- the text is cut at its line feeds;
- a tab becomes spaces up to the next multiple of eight columns, and ends
  the part of its run that is written at once;
- a line that is too wide is broken before a word that does not fit, and
  inside a word only if the word is wider than the line.
-/
import CommandConsole.Text.Width
import CommandConsole.Display.Styled

namespace CommandConsole.Display

/-- A character of a styled text, with its style and the number of its
run. -/
structure Cell where
  char : Char
  style : Style
  run : Nat
deriving DecidableEq

namespace Cell

/-- The characters of a row of cells. -/
def chars (cells : List Cell) : List Char := cells.map Cell.char

/-- The number of columns that a row of cells takes. -/
def width (cells : List Cell) : Nat := Text.width (chars cells)

/-- The cells of a styled text, whose first run has the given number. -/
def ofRuns (number : Nat) : Styled → Except Problem (List Cell)
  | [] => .ok []
  | r :: rest => do
      let style ← Style.ofObject r.style
      let cells := (Styled.visible r.text).toList.map fun c => ⟨c, style, number⟩
      return cells ++ (← ofRuns (number + 1) rest)

/-- The cells of a styled text, if the styles of all runs can be read. -/
def ofStyled (s : Styled) : Except Problem (List Cell) := ofRuns 0 s

-- ==================================================================== tabs

/-- A row of cells with spaces in the place of tabs: one at least, and as
many as reach a multiple of eight columns. `column` is where the row
starts, and `cuts` the number of tabs before it. -/
def expandTabs (column cuts : Nat) : List Cell → List Cell
  | [] => []
  | cell :: rest =>
      if cell.char = '\t' then
        let next := (column / 8 + 1) * 8
        List.replicate (next - column) { cell with char := ' ', run := cell.run + cuts }
          ++ expandTabs next (cuts + 1) rest
      else
        { cell with run := cell.run + cuts }
          :: expandTabs (column + Text.charWidth cell.char) cuts rest

-- =================================================================== lines

/-- The lines of a row of cells, cut at its line feeds. -/
def lines (cells : List Cell) : List (List Cell) :=
  cells.splitOnP fun cell => cell.char == '\n'

/-- The words of a line: each has the blanks around it that belong to no
word before. A line of blanks has none. -/
def words : List Char → List (List Char)
  | cs => go cs.length cs
where
  go : Nat → List Char → List (List Char)
    | 0, _ => []
    | fuel + 1, cs =>
        let lead := cs.takeWhile Text.isBlank
        let body := cs.drop lead.length
        let core := body.takeWhile fun c => !Text.isBlank c
        let tail := body.drop core.length
        let after := tail.takeWhile Text.isBlank
        if core.isEmpty then []
        else (lead ++ core ++ after) :: go fuel (tail.drop after.length)

/-- A word cut into pieces that are as wide as the line allows. -/
def chop (limit : Nat) (piece : List Char) (used : Nat) :
    List Char → List (List Char)
  | [] => [piece.reverse]
  | c :: rest =>
      let w := Text.charWidth c
      if used + w > limit then piece.reverse :: chop limit [c] w rest
      else chop limit (c :: piece) (used + w) rest

/-- Where the pieces of a word start that begins at `start`. -/
def pieceStarts (start : Nat) : List (List Char) → List Nat
  | [] => []
  | piece :: rest => start :: pieceStarts (start + piece.length) rest

/-- Where a line is broken so that it fits into `limit` columns. `start` is
the position of the next word, and `used` the number of columns that the
words before it take on their line. -/
def breaks (limit start used : Nat) : List (List Char) → List Nat
  | [] => []
  | word :: rest =>
      let next := start + word.length
      let size := Text.width (Text.dropEnd Text.isBlank word)
      if used + size ≤ limit then
        breaks limit next (used + Text.width word) rest
      else if size > limit then
        let pieces := chop limit [] 0 word
        (pieceStarts start pieces).filter (· != 0)
          ++ breaks limit next (Text.width (pieces.getLastD [])) rest
      else if used != 0 && start != 0 then
        start :: breaks limit next (Text.width word) rest
      else breaks limit next used rest

/-- A row of cells cut at the given positions, of which the first cell has
the position `start`. -/
def cutAt (start : Nat) : List Nat → List Cell → List (List Cell)
  | [], cells => [cells]
  | position :: rest, cells =>
      cells.take (position - start)
        :: cutAt position rest (cells.drop (position - start))

/-- A beginning of a row that takes `limit` columns, found by halving: the
beginning up to `low` takes fewer columns, the one up to `high` more, and
the one between them decides which half is looked at next. If no beginning
takes that many because a wide character stands across the end, a blank
takes its place. -/
def halve (limit : Nat) (cells : List Cell) : Nat → Nat → Nat → List Cell
  | 0, _, _ => cells
  | fuel + 1, low, high =>
      let middle := (low + high) / 2
      let part := cells.take (middle + 1)
      let size := width part
      match part.getLast? with
      | none => part
      | some last =>
          if size = limit + 1 && Text.charWidth last.char = 2 then
            part.dropLast ++ [{ last with char := ' ' }]
          else if size = limit then part
          else if size > limit then halve limit cells fuel low middle
          else halve limit cells fuel middle high

/-- A row of cells cut to `limit` columns if it takes more. -/
def fitting (limit : Nat) (cells : List Cell) : List Cell :=
  if limit = 0 then []
  else if width cells ≤ limit then cells
  else halve limit cells (cells.length + 1) 0 cells.length

/-- A line of more than `limit` characters without the blanks at its end
that are too many. -/
def trimEnd (limit : Nat) (cells : List Cell) : List Cell :=
  let blanks := (cells.reverse.takeWhile fun cell => Text.isBlank cell.char).length
  cells.take (cells.length - min blanks (cells.length - limit))

/-- A line cut to `limit` columns: blanks at its end go first. -/
def clip (limit : Nat) (cells : List Cell) : List Cell :=
  fitting limit (trimEnd limit cells)

/-- A line broken into lines of at most `limit` columns. -/
def wrapLine (limit : Nat) (cells : List Cell) : List (List Cell) :=
  let expanded := expandTabs 0 0 cells
  let positions := breaks limit 0 0 (words (chars expanded))
  (cutAt 0 positions expanded).map (clip limit)

/-- The lines that a row of cells takes in `limit` columns. -/
def wrap (limit : Nat) (cells : List Cell) : List (List Cell) :=
  (lines cells).flatMap (wrapLine limit)

end Cell

end CommandConsole.Display
