/-
Colours of text: how they are written, and the codes that a terminal knows
them by.

A colour is written by its name in the palette, by its number there, or by
its red, green and blue parts, in hexadecimal digits or as numbers.
-/
import CommandConsole.Display.ColourTable
import CommandConsole.Problem
import CommandConsole.Text.Casing

namespace CommandConsole.Display

/-- A colour. -/
inductive Colour where
  /-- The colour that the terminal uses by itself. -/
  | standard
  /-- A colour of the palette of the terminal. -/
  | palette (number : Nat)
  /-- A colour by its red, green and blue part. -/
  | exact (red green blue : Nat)
deriving DecidableEq

/-- Why a text names no style. -/
inductive StyleRefusal where
  /-- A word is neither an attribute nor a colour. -/
  | unknown
  /-- A part of a colour is no number. -/
  | number (p : Problem)

namespace Colour

-- ================================================================= reading

/-- The colour of six hexadecimal digits. -/
def ofHexadecimal? (cs : List Char) : Option Colour :=
  match cs.mapM (Number.digitOf? 16) with
  | some [a, b, c, d, e, f] => some (.exact (16 * a + b) (16 * c + d) (16 * e + f))
  | _ => none

/-- The colour with the number that one to three digits spell. -/
def ofNumber? (cs : List Char) : Option Colour :=
  match cs.mapM (Number.digitOf? 10) with
  | some digits =>
      let n := Number.ofDigits 10 digits
      if digits.isEmpty || digits.length > 3 || n > 255 then none
      else some (.palette n)
  | none => none

/-- A part of a colour. -/
def part (s : String) : Except StyleRefusal Nat :=
  match Number.readInteger s with
  | .ok n => .ok n.toNat
  | .error .malformed => .error (.number (.notInteger 10 s))
  | .error (.tooLong digits) => .error (.number (.integerTooLong digits))

/-- The colour of three numbers with commas in between. -/
def ofParts (cs : List Char) : Except StyleRefusal Colour := do
  if cs.isEmpty || cs.any fun c => c != ',' && (Number.digit? c).isNone then
    throw .unknown
  match (cs.splitOn ',').map String.ofList with
  | [red, green, blue] =>
      let red ← part red
      let green ← part green
      let blue ← part blue
      if red ≤ 255 ∧ green ≤ 255 ∧ blue ≤ 255 then return .exact red green blue
      else throw .unknown
  | _ => throw .unknown

/-- What a row of characters holds between an opening and a closing one. -/
def between? (opening : String) (cs : List Char) : Option (List Char) :=
  if cs.take opening.length = opening.toList ∧ cs.getLast? = some ')' then
    some (cs.drop opening.length).dropLast
  else none

/-- The colour that a word names. -/
def read (word : String) : Except StyleRefusal Colour :=
  let name := Text.lower word
  let cs := name.toList
  if name = "default" then .ok .standard
  else
    match colourNames.lookup name, cs.head? with
    | some n, _ => .ok (.palette n)
    | none, some '#' => (ofHexadecimal? cs.tail).elim (.error .unknown) .ok
    | none, _ =>
        match between? "color(" cs, between? "rgb(" cs with
        | some inner, _ => (ofNumber? inner).elim (.error .unknown) .ok
        | none, some inner => ofParts inner
        | none, none => .error .unknown

-- =================================================================== codes

/-- The codes of a colour, of the text itself or of the ground behind
it. -/
def codes (ground : Bool) : Colour → List String
  | .standard => [if ground then "49" else "39"]
  | .palette n =>
      if n < 8 then [toString ((if ground then 40 else 30) + n)]
      else if n < 16 then [toString ((if ground then 92 else 82) + n)]
      else [if ground then "48" else "38", "5", toString n]
  | .exact red green blue =>
      [if ground then "48" else "38", "2", toString red, toString green, toString blue]

end Colour

end CommandConsole.Display
