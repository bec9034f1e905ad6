/-
The whole number that an object makes: the number itself, a number without
the part after its point, or what a text spells.
-/
import CommandConsole.Number.Magnitude
import CommandConsole.Problem

namespace CommandConsole

open Number

/-- Why a text that is written as `written` spells no whole number in a
base. -/
def Problem.ofIntegerRefusal (base : Nat) (written : String) : IntegerRefusal → Problem
  | .malformed => .spellsNoInteger base written
  | .tooLong digits => .integerTooLong digits

namespace Object

/-- The whole number that a text of an object spells in a base. -/
def integerOfText (base : Nat) (x : Object) (s : String) : Except Problem Int :=
  match readInBase base s with
  | .ok n => .ok n
  | .error e => .error (.ofIntegerRefusal base x.written e)

/-- The whole number of a magnitude, where `infinite` and `unknown` word
what has none. -/
def integerOfMagnitude (infinite unknown : String) : Magnitude → Except Problem Int
  | .finite n d e => .ok (Magnitude.truncated n d e)
  | .infinity _ =>
      .error (.told .overflowError ("cannot convert " ++ infinite ++ " to integer"))
  | .nan => .error (.told .valueError ("cannot convert " ++ unknown ++ " to integer"))

/-- The whole number that an object makes. -/
def toInteger (x : Object) : Except Problem Int :=
  match x.bare with
  | .bool b => .ok (if b then 1 else 0)
  | .int n => .ok n
  | .float y => integerOfMagnitude "float infinity" "float NaN" (.ofBinary64 y)
  | .decimal y => integerOfMagnitude "Infinity" "NaN" (.ofDecimal y)
  | .fraction q => .ok (Int.tdiv q.num q.den)
  | .text s => integerOfText 10 x s
  | .bytes row => integerOfText 10 x (String.ofList (row.map Char.ofNat))
  | _ => .error (.makesNoInteger x.className)

/-- The whole number that an object spells in the base that another one
tells. -/
def toIntegerIn (x base : Object) : Except Problem Int := do
  match base.integer? with
  | Option.none =>
      throw (.told .typeError
        ("'" ++ Problem.longName base.className
          ++ "' object cannot be interpreted as an integer"))
  | some b =>
      if (b != 0 && b < 2) || b > 36 then
        throw (.told .valueError "int() base must be >= 2 and <= 36, or 0")
      else
        match x.bare with
        | .text s => integerOfText b.toNat x s
        | .bytes row => integerOfText b.toNat x (String.ofList (row.map Char.ofNat))
        | _ =>
            throw (.told .typeError "int() can't convert non-string with explicit base")

end Object

end CommandConsole
