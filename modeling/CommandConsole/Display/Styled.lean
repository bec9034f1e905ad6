/-
Styled text: a row of runs, each of which has one style from end to end.
-/
import CommandConsole.Display.Style

namespace CommandConsole.Display

/-- A run of text, with what names its style: a text, or an object in the
place of one. -/
structure Run where
  text : String
  style : Object

namespace Run

/-- A run without a style. -/
def bare (text : String) : Run := ⟨text, .text ""⟩

/-- A run in the style of the given name. -/
def named (text style : String) : Run := ⟨text, .text style⟩

end Run

/-- A styled text. -/
abbrev Styled := List Run

namespace Styled

/-- A control character that no terminal shows: bell, backspace, the two
feeds and the carriage return. -/
def isHidden (c : Char) : Bool :=
  c.toNat = 7 || c.toNat = 8 || c.toNat = 11 || c.toNat = 12 || c.toNat = 13

/-- A text without the control characters that no terminal shows. -/
def visible (s : String) : String :=
  String.ofList (s.toList.filter fun c => !isHidden c)

/-- A text in a style, which is left out with an empty text. -/
def part (text : String) (style : Object) : Styled :=
  if text = "" then [] else [⟨text, style⟩]

/-- A text in a style, which is left out if nothing of the text shows. -/
def shownPart (text : String) (style : Object) : Styled :=
  if visible text = "" then [] else [⟨text, style⟩]

/-- A text without a style. -/
def bare (text : String) : Styled := [.bare text]

/-- The text of a styled text, as far as it shows. -/
def plain (s : Styled) : String :=
  String.join (s.map fun r => visible r.text)

end Styled

end CommandConsole.Display
