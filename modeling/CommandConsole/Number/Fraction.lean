/-
Reading fractions: a quotient of two whole numbers, or a decimal with or
without a power of ten, taken exactly.
-/
import CommandConsole.Number.Integer

namespace CommandConsole.Number

/-- Why a text is no fraction. -/
inductive FractionRefusal where
  /-- The text does not spell a fraction. -/
  | malformed
  /-- One of the whole numbers in it has more digits than are read. -/
  | tooLong (digits : Nat)
  /-- The places after the point are letters. -/
  | lettersAfterPoint (letters : String)
  /-- The denominator is zero. -/
  | zeroDenominator (numerator : Int)

/-- The whole number that a row of digits of a fraction spells. -/
def fractionPart (digits : List Nat) : Except FractionRefusal Nat :=
  match decimalOfDigits digits with
  | .ok n => .ok n
  | .error (.tooLong digits) => .error (.tooLong digits)
  | .error .malformed => .error .malformed

/-- The quotient of two whole numbers. -/
def quotient (negative : Bool) (n d : Nat) : Except FractionRefusal Rat :=
  let numerator := withSign negative n
  if d = 0 then .error (.zeroDenominator numerator)
  else .ok (mkRat numerator d)

/-- The power of ten after `e`: its sign and digits, if the text ends
after them. Without an `e` the power is zero. -/
def powerAtEnd? (cs : List Char) : Option (Bool × List Nat) :=
  match cs with
  | [] => some (false, [])
  | e :: rest =>
      if e = 'e' ∨ e = 'E' then
        let (negative, body) := signed rest
        match digitRow? digit? body with
        | some (digits, []) => some (negative, digits)
        | _ => none
      else none

/-- The exact value of a decimal with a power of ten. -/
def scaledFraction (negative : Bool) (whole places : List Nat)
    (power : Bool × List Nat) : Except FractionRefusal Rat := do
  let n ← fractionPart whole
  let f ← fractionPart places
  let p ← fractionPart power.2
  let above := (n * 10 ^ places.length + f) * 10 ^ (if power.1 then 0 else p)
  let below := 10 ^ places.length * 10 ^ (if power.1 then p else 0)
  quotient negative above below

/-- A row of digits, which may be empty, and the rest. -/
def digitsOrNone (cs : List Char) : List Nat × List Char :=
  (digitRow? digit? cs).getD ([], cs)

/-- A point and the digits after it, if there are any, and the rest. -/
def placesAfter (cs : List Char) : List Nat × List Char :=
  match cs with
  | '.' :: rest => digitsOrNone rest
  | _ => ([], cs)

/-- The letters `d` after a point, in either case, where digits are due, and
the rest. -/
def lettersAfter : List Char → List Char × List Char
  | '.' :: rest => (rest.takeWhile isLetter, rest.dropWhile isLetter)
  | cs => ([], cs)
where
  isLetter (c : Char) : Bool := c = 'd' || c = 'D'

/-- Refuses letters after the point. The digits before it are read first. -/
def refuseLetters (whole : List Nat) (letters : List Char) :
    Except FractionRefusal Rat := do
  discard (fractionPart whole)
  throw (.lettersAfterPoint (String.ofList letters))

/-- Reads a fraction. -/
def readFraction (s : String) : Except FractionRefusal Rat :=
  let (negative, cs) := signed (Text.dropEnds Text.isBlank s.toList)
  let (whole, rest) := digitsOrNone cs
  match rest with
  | '/' :: below =>
      match digitRow? digit? below with
      | some (digits, []) =>
          if whole.isEmpty then .error .malformed
          else do
            let n ← fractionPart whole
            let d ← fractionPart digits
            quotient negative n d
      | _ => .error .malformed
  | _ =>
      let (letters, afterLetters) := lettersAfter rest
      if !whole.isEmpty && !letters.isEmpty && (powerAtEnd? afterLetters).isSome then
        refuseLetters whole letters
      else
      let (places, tail) := placesAfter rest
      match powerAtEnd? tail with
      | some power =>
          if whole.isEmpty && places.isEmpty then .error .malformed
          else scaledFraction negative whole places power
      | none => .error .malformed

end CommandConsole.Number
