/-
How a fault is shown: a header with the program, the code and the title,
the message, and below it the hint and what documents the code. A fancy
fault stands in a panel.
-/
import CommandConsole.Fault.Host
import CommandConsole.Display.Terminal

namespace CommandConsole

open Display

namespace Fault

/-- The styles of the parts of an error. -/
def errorStyles : List (String × String) :=
  [("prog-name", "bold #E6E6F0"), ("code", "bold #00E5FF"),
   ("title", "bold #FF4DA6"), ("message", "#C8C8D0"),
   ("hint-arrow", "#9CE19C dim"), ("hint", "italic #9CE19C"),
   ("docs", "underline #00E5FF dim")]

/-- The styles of the parts of a warning. -/
def warningStyles : List (String × String) :=
  [("prog-name", "bold #E6E6F0"), ("code", "bold #FFB400"),
   ("title", "bold #FFC2E0"), ("message", "#D6D6DE"),
   ("hint-arrow", "#B8EFAF dim"), ("hint", "italic #B8EFAF"),
   ("docs", "underline #FFB400 dim")]

/-- The style of a part of a fault, which is none if the fault has no
colours. -/
def partStyle (h : Host) (f : Fault) (part : String) : Object :=
  if f.holds "colorful" true then
    h.style (if f.kind.isWarning then warningStyles else errorStyles) part
  else .text ""

/-- A detail as it is shown: nothing if it does not count as true. -/
def detailText : Detail Raised → String
  | .object x => if x.truthy then x.display else ""
  | .code code => toString code.number
  | .command o => o.name
  | _ => ""

/-- A part of a fault that stands by itself. -/
def part (h : Host) (f : Fault) (name text : String) : Styled :=
  Styled.part text (partStyle h f name)

/-- A part of a fault among other ones. -/
def innerPart (h : Host) (f : Fault) (name text : String) : Styled :=
  Styled.shownPart text (partStyle h f name)

/-- The name of the program in the header of a fault. -/
def programText (h : Host) (f : Fault) : String :=
  match h.program? with
  | some x => detailText (.object x)
  | none => ((f.option? "prog").map detailText).getD "devconsole"

/-- The label of the code in the header of a fault. -/
def codeText (h : Host) (f : Fault) : Except Problem String :=
  match f.option? "code" with
  | some (.code code) => .ok (h.codeLabel code)
  | some (.object x) =>
      if x.truthy then .error (.noMethod x.className "normalize") else .ok "-"
  | _ => .ok "-"

/-- The title in the header of a fault. -/
def titleText (f : Fault) : Except Problem String :=
  match f.option? "title" with
  | none => .ok (Text.title "fault")
  | some (.object (.text s)) => .ok (Text.title s)
  | some (.object x) => .error (.noMethod x.className "title")
  | some _ => .ok ""

/-- The header of a fault. -/
def header (h : Host) (f : Fault) : Except Problem Styled := do
  let program := programText h f
  let code ← codeText h f
  let title ← titleText f
  return Styled.bare "[ " ++ innerPart h f "prog-name" program ++ Styled.bare " — "
    ++ innerPart h f "code" code ++ Styled.bare " | " ++ innerPart h f "title" title
    ++ Styled.bare " ]"

/-- What stands below the header of a fault. -/
def body (h : Host) (f : Fault) : List Styled :=
  let hint :=
    match f.option? "hint" with
    | some d =>
        if d.truthy then
          [innerPart h f "hint-arrow" " → " ++ innerPart h f "hint" (detailText d)]
        else []
    | none => []
  let docs :=
    match f.option? "docs" with
    | some d => if d.truthy then [part h f "docs" (detailText d)] else []
    | none => []
  part h f "message" (f.message.getD "") :: hint ++ docs

/-- A fault as it is shown on an output. -/
def shown (h : Host) (t : Terminal) (f : Fault) : Except Problem String := do
  let head ← header h f
  if f.holds "fancy" false then t.panel head (body h f)
  else return String.join (← (head :: body h f).mapM t.written)

end Fault

end CommandConsole
