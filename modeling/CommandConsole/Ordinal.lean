/-
Ordinals.

That of a whole number is a word up to ten, and a numeral with its ending from there on. An
object may stand in the place of a number: numbers of all kinds that equal a whole one have
its word, and every other number is written with the ending that belongs to what its
divisions by a hundred and by ten leave.
-/
import CommandConsole.Expression.Directive
import CommandConsole.Expression.Operation

namespace CommandConsole

namespace Text

-- ============================================================ whole numbers

/-- The ordinals that are written as a word. -/
def ordinalWords : List String :=
  ["first", "second", "third", "fourth", "fifth", "sixth", "seventh",
   "eighth", "ninth", "tenth"]

/-- The ending of an ordinal numeral. The numbers from eleven to nineteen
in each hundred take `th`, like all whose last digit is not one, two or
three. -/
def ordinalEnding (n : Int) : String :=
  let lastTwo := n % 100
  if 10 < lastTwo ∧ lastTwo < 20 then "th"
  else if n % 10 = 1 then "st"
  else if n % 10 = 2 then "nd"
  else if n % 10 = 3 then "rd"
  else "th"

/-- The ordinal of a whole number. -/
def ordinal (n : Int) : String :=
  let word? := if n < 1 then none else ordinalWords[n.toNat - 1]?
  word?.getD (toString n ++ ordinalEnding n)

end Text

namespace Object

open Expression

-- ================================================================== objects

/-- What a division of an object by a whole number leaves. A text is filled
with the number instead. -/
def remainderBy (x : Object) (n : Int) : Except Problem Object := do
  let divisor : Meaning := .object (.int n)
  match x.bare with
  | .text s => return (← interpolate s divisor).toObject
  | x => return (← Expression.operate .remainder (.ofObject x) divisor).toObject

/-- The ordinal of an object. -/
def ordinal (x : Object) : Except Problem String := do
  if let some cls := x.unhashable? then throw (.unhashable cls)
  let place? := (List.range Text.ordinalWords.length).find? fun i => x.same (.int (Int.ofNat i + 1))
  match place?.bind fun i => Text.ordinalWords[i]? with
  | some word => return word
  | .none =>
      let lastTwo ← x.remainderBy 100
      let isLater ← relate .less (.int 10) lastTwo
      if isLater && (← relate .less lastTwo (.int 20)) then return x.display ++ "th"
      let last ← x.remainderBy 10
      let endings : List (Int × String) := [(1, "st"), (2, "nd"), (3, "rd")]
      let ending? := endings.find? fun entry => last.same (.int entry.1)
      return x.display ++ (ending?.map (·.2)).getD "th"

end Object

end CommandConsole
