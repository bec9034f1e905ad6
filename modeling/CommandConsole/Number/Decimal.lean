/-
Decimal numbers, which keep the digits they were written with.
-/
import CommandConsole.Number.Real

namespace CommandConsole.Number

/-- A decimal number. A finite one is `coefficient · 10 ^ exponent`; what
is not a number may carry a diagnostic number, and may be signaling. -/
inductive Decimal where
  | finite (negative : Bool) (coefficient : Nat) (exponent : Int)
  | infinity (negative : Bool)
  | nan (negative signaling : Bool) (diagnostic : Option Nat)
deriving DecidableEq

/-- Why a text is no decimal number. -/
inductive DecimalRefusal where
  /-- The text does not spell a decimal number. -/
  | malformed
  /-- The power of ten is out of reach. -/
  | outOfRange

namespace Decimal

/-- The number zero. -/
def zero : Decimal := .finite false 0 0

/-- The largest power of ten of a leading digit. -/
def maxExponent : Int := 999999999999999999

/-- The smallest power of ten of a last digit. -/
def minExponent : Int := -1999999999999999997

/-- A finite number, if its powers of ten are in reach. -/
def ofParts (negative : Bool) (coefficient : Nat) (exponent : Int) :
    Except DecimalRefusal Decimal :=
  let leading := exponent + ((Nat.toDigits 10 coefficient).length : Int) - 1
  if exponent < minExponent ∨ leading > maxExponent then .error .outOfRange
  else .ok (.finite negative coefficient exponent)

/-- The diagnostic number after the word for what is not a number. -/
def readNan (negative signaling : Bool) (cs : List Char) :
    Except DecimalRefusal Decimal :=
  match leadingDigits cs with
  | ([], []) => .ok (.nan negative signaling none)
  | (digits, []) =>
      let n := ofDigits 10 digits
      .ok (.nan negative signaling (if n = 0 then none else some n))
  | _ => .error .malformed

/-- Reads a finite decimal number after its sign. -/
def readFinite (negative : Bool) (cs : List Char) :
    Except DecimalRefusal Decimal :=
  let (whole, afterWhole) := leadingDigits cs
  let (fraction, afterFraction) := fractionAfter whole afterWhole
  if whole.isEmpty && fraction.isEmpty then .error .malformed
  else
    match exponentAfter afterFraction with
    | (power, []) =>
        ofParts negative (ofDigits 10 (whole ++ fraction))
          (power - (fraction.length : Int))
    | _ => .error .malformed

/-- Reads a decimal number. Blanks around it and underscores anywhere in
it do not count. -/
def read (s : String) : Except DecimalRefusal Decimal :=
  let cs := ((Text.dropEnds Text.isBlank s.toList).filter (· != '_')).map plainChar
  let (negative, body) := signed cs
  match afterWord? ['s', 'n', 'a', 'n'] body with
  | some rest => readNan negative true rest
  | none =>
  match afterWord? ['n', 'a', 'n'] body with
  | some rest => readNan negative false rest
  | none =>
  match afterWord? ['i', 'n', 'f'] body with
  | some [] => .ok (.infinity negative)
  | some rest =>
      if afterWord? ['i', 'n', 'i', 't', 'y'] rest = some [] then
        .ok (.infinity negative)
      else .error .malformed
  | none => readFinite negative body

/-- The digits of a finite number laid out: positionally if the exponent
is not positive and the leading digit is at most six places after the
point, with an exponent otherwise. -/
def layOut (digits : List Char) (exponent : Int) : List Char :=
  let leading := exponent + (digits.length : Int) - 1
  if exponent ≤ 0 ∧ -6 ≤ leading then
    let places := (-exponent).toNat
    if places = 0 then digits
    else if places < digits.length then
      digits.take (digits.length - places) ++
        '.' :: digits.drop (digits.length - places)
    else
      '0' :: '.' :: List.replicate (places - digits.length) '0' ++ digits
  else
    let fraction := digits.drop 1
    digits.take 1 ++ (if fraction.isEmpty then [] else '.' :: fraction)
      ++ ['E', if leading < 0 then '-' else '+']
      ++ Nat.toDigits 10 leading.natAbs

/-- The text of a decimal number. -/
def text (x : Decimal) : String :=
  let (negative, body) :=
    match x with
    | .finite negative coefficient exponent =>
        (negative, layOut (Nat.toDigits 10 coefficient) exponent)
    | .infinity negative => (negative, "Infinity".toList)
    | .nan negative signaling diagnostic =>
        (negative, (if signaling then "sNaN" else "NaN").toList ++
          (diagnostic.map (Nat.toDigits 10)).getD [])
  String.ofList (if negative then '-' :: body else body)

end Decimal

end CommandConsole.Number
