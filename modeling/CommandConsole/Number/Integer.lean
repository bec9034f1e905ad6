/-
Reading whole numbers.

A whole number is a sign, if any, and a row of digits; single underscores
may stand between digits, and spaces around the whole. The base is told by
the reader or, where the text may choose it, by the letter after a leading
zero: `x` for sixteen, `o` for eight and `b` for two.
-/
import CommandConsole.Number.Digits

namespace CommandConsole.Number

/-- Why a text is no whole number. -/
inductive IntegerRefusal where
  /-- The text does not spell a whole number. -/
  | malformed
  /-- The text has more decimal digits than are read. -/
  | tooLong (digits : Nat)

/-- The number of digits above which a whole number is not read, unless the
base is a power of two. -/
def maxDigits : Nat := 4300

/-- A whole number with a sign. -/
def withSign (negative : Bool) (n : Nat) : Int :=
  if negative then -(n : Int) else n

/-- The number of some digits of a base, of which there are at most
`maxDigits` unless the base is a power of two. -/
def ofDigitRow (base : Nat) (digits : List Nat) : Except IntegerRefusal Nat :=
  if digits.length > maxDigits && base != 2 ^ base.log2 then
    .error (.tooLong digits.length)
  else .ok (ofDigits base digits)

/-- The number of some decimal digits. -/
def decimalOfDigits (digits : List Nat) : Except IntegerRefusal Nat :=
  ofDigitRow 10 digits

/-- The base that a letter after a leading zero stands for. -/
def baseOf? (letter : Char) : Option Nat :=
  if letter = 'x' ∨ letter = 'X' then some 16
  else if letter = 'o' ∨ letter = 'O' then some 8
  else if letter = 'b' ∨ letter = 'B' then some 2
  else none

/-- The base of a number and the text of its digits. A base of zero is
chosen by the text. -/
def chosenBase (base : Nat) (cs : List Char) : Nat × List Char :=
  match cs with
  | '0' :: letter :: rest =>
      match baseOf? letter with
      | some chosen =>
          if base = 0 ∨ base = chosen then
            (chosen, match rest with | '_' :: digits => digits | digits => digits)
          else (base, cs)
      | none => (if base = 0 then 10 else base, cs)
  | cs => (if base = 0 then 10 else base, cs)

/-- Reads a whole number in a base. Where the text may choose the base, a
decimal number has no leading zeros, but zero itself may have several. -/
def readInBase (base : Nat) (s : String) : Except IntegerRefusal Int :=
  let (negative, cs) := signed (plain s)
  let (chosen, text) := chosenBase base cs
  match digitRow? (digitOf? chosen) text with
  | none => .error .malformed
  | some (digits, rest) =>
      if rest.head? == some '_' then .error .malformed
      else do
        let n ← ofDigitRow chosen digits
        let padded := base = 0 && chosen = 10 && digits.head? == some 0 && n != 0
        if rest.isEmpty && !padded then .ok (withSign negative n)
        else .error .malformed

/-- Reads a whole number in base ten. -/
def readInteger (s : String) : Except IntegerRefusal Int := readInBase 10 s

end CommandConsole.Number
