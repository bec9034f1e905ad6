/-
Writing laid-out text to an output, which may understand style codes.

A run of styled text is written once on each line it reaches, between the
codes of its style and the code that ends them. An output that understands
no codes gets the characters alone.
-/
import CommandConsole.Display.Cell

namespace CommandConsole.Display

/-- An output: how many columns it has, and whether it understands style
codes. -/
structure Terminal where
  width : Nat
  ansi : Bool

namespace Terminal

/-- The character that begins a code. -/
def escapeChar : Char := Char.ofNat 27

/-- A control sequence with the given body. -/
def sequence (body : String) : String :=
  String.ofList [escapeChar, '['] ++ body

/-- A piece of text in one style. -/
def styledText (style : Style) (text : String) : String :=
  if style = Style.plain then text
  else sequence (";".intercalate style.codes ++ "m") ++ text ++ sequence "0m"

/-- The parts of a row of cells that belong to one run each. -/
def runsOf (cells : List Cell) : List (List Cell) :=
  cells.splitBy fun a b => a.run == b.run

/-- A part of one run as it is written. -/
def writeRun (ansi : Bool) (cells : List Cell) : String :=
  let text := String.ofList (Cell.chars cells)
  match cells with
  | [] => ""
  | cell :: _ => if ansi then styledText cell.style text else text

/-- A line as it is written, without its end. -/
def writeCells (ansi : Bool) (cells : List Cell) : String :=
  String.join ((runsOf cells).map (writeRun ansi))

/-- A styled text as it is written: each of its lines with a line feed at
the end. An output without columns shows nothing. -/
def written (t : Terminal) (s : Styled) : Except Problem String :=
  if t.width = 0 then .ok ""
  else do
    let cells ← Cell.ofStyled s
    return String.join
      ((Cell.wrap t.width cells).map fun line => writeCells t.ansi line ++ "\n")

/-- What empties the output. -/
def erased (t : Terminal) : String :=
  if t.ansi then sequence "2J" ++ sequence "H" else ""

-- ================================================================== panels

/-- A horizontal border of the given length. -/
def border (length : Nat) : String := String.ofList (List.replicate length '─')

/-- The header of a panel: one line, with a blank at either end, cut to
`limit` columns. -/
def headerCells (limit : Nat) (header : List Cell) : List Cell :=
  let flat := header.map fun cell =>
    if cell.char = '\n' then { cell with char := ' ' } else cell
  let blank (run : Nat) : Cell := ⟨' ', Style.plain, run⟩
  let row := Cell.expandTabs 0 0 flat
  let last := row.foldl (fun n cell => max n cell.run) 0
  let numbered := row.map fun cell => { cell with run := cell.run + 1 }
  Cell.fitting limit (blank 0 :: numbered ++ [blank (last + 2)])

/-- The header of a panel as it is written: a border fills it up to `limit`
columns. One that needs no border loses the blanks at its end that are too
many. -/
def headerText (t : Terminal) (limit : Nat) (header : List Cell) : String :=
  let head := headerCells limit header
  if Cell.width head < limit then
    writeCells t.ansi head ++ border (limit - Cell.width head)
  else writeCells t.ansi (Cell.clip limit head)

/-- A line of a panel between its borders. -/
def panelLine (t : Terminal) (cells : List Cell) : String :=
  "│ " ++ writeCells t.ansi cells
    ++ String.ofList (List.replicate (t.width - 4 - Cell.width cells) ' ') ++ " │\n"

/-- A line of the upper or the lower border of a panel. On an output of one
column it is cut to its first character. -/
def edge (t : Terminal) (left right : String) : String :=
  if t.width ≤ 1 then left ++ "\n"
  else left ++ border (t.width - 2) ++ right ++ "\n"

/-- A panel around some styled texts, with a header in its upper border.
Every line of it takes the full width of the output. An output that is
too narrow for a column of text shows the borders alone. -/
def panel (t : Terminal) (header : Styled) (body : List Styled) :
    Except Problem String :=
  if t.width = 0 then .ok ""
  else if t.width ≤ 4 then .ok (t.edge "╭" "╮" ++ t.edge "╰" "╯")
  else do
    let inner := t.width - 4
    let body ← body.mapM Cell.ofStyled
    let header ← Cell.ofStyled header
    return "╭─" ++ t.headerText inner header ++ "─╮\n"
      ++ String.join
        (body.flatMap fun cells => (Cell.wrap inner cells).map (panelLine t))
      ++ t.edge "╰" "╯"

end Terminal

end CommandConsole.Display
