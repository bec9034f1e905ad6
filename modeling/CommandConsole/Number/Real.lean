/-
Reading floating-point and complex numbers.

A real number is a sign, if any, and either digits with at most one point
among them and perhaps a power of ten, or a word for an infinity or for
what is not a number. A complex number is a real part, an imaginary part
that ends in `j`, or both, and may stand in parentheses.
-/
import CommandConsole.Number.Digits
import CommandConsole.Number.Binary64

namespace CommandConsole.Number

/-- The text without the underscores between its digits; `none` if an
underscore stands elsewhere. `before` is the character read last. -/
def ungroup? (before : Char) : List Char → Option (List Char)
  | [] => if before = '_' then none else some []
  | '_' :: rest => if before.isDigit then ungroup? '_' rest else none
  | c :: rest =>
      if before = '_' ∧ !c.isDigit then none
      else (ungroup? c rest).map (c :: ·)

/-- What follows a word written in letters of either case. -/
def afterWord? : List Char → List Char → Option (List Char)
  | [], cs => some cs
  | _ :: _, [] => none
  | w :: ws, c :: cs => if c.toLower = w then afterWord? ws cs else none

/-- The ASCII digits at the start of a text, by value, and the rest. -/
def leadingDigits (cs : List Char) : List Nat × List Char :=
  ((cs.takeWhile Char.isDigit).map fun c => c.toNat - 48,
    cs.dropWhile Char.isDigit)

/-- A power of ten written after `e`, and the rest; without digits after
the `e` there is none. -/
def exponentAfter (cs : List Char) : Int × List Char :=
  match cs with
  | [] => (0, [])
  | e :: rest =>
      if e.toLower = 'e' then
        let (negative, body) := signed rest
        match leadingDigits body with
        | ([], _) => (0, cs)
        | (digits, tail) =>
            let n := ofDigits 10 digits
            (if negative then -(n : Int) else n, tail)
      else (0, cs)

/-- A point and the digits after it, and the rest; the point stays where
it is if there is no digit on either side of it. -/
def fractionAfter (whole : List Nat) (cs : List Char) :
    List Nat × List Char :=
  match cs with
  | '.' :: rest =>
      let (digits, tail) := leadingDigits rest
      if whole.isEmpty && digits.isEmpty then ([], cs) else (digits, tail)
  | _ => ([], cs)

/-- The number that the start of a text spells, and the rest. -/
def realFrom? (cs : List Char) : Option (Binary64 × List Char) :=
  let (negative, body) := signed cs
  let (whole, afterWhole) := leadingDigits body
  let (fraction, afterFraction) := fractionAfter whole afterWhole
  if whole.isEmpty && fraction.isEmpty then
    match afterWord? ['i', 'n', 'f'] body with
    | some rest =>
        some (.infinity negative,
          (afterWord? ['i', 'n', 'i', 't', 'y'] rest).getD rest)
    | none =>
        (afterWord? ['n', 'a', 'n'] body).map fun rest => (.nan, rest)
  else
    let (power, rest) := exponentAfter afterFraction
    some
      (.ofDecimal negative (ofDigits 10 (whole ++ fraction))
        (power - (fraction.length : Int)), rest)

/-- Reads a floating-point number. -/
def readReal (s : String) : Option Binary64 := do
  let cs ← ungroup? ' ' (plain s)
  match realFrom? cs with
  | some (x, []) => some x
  | _ => none

-- ============================================================ complex ones

/-- Why a text is no complex number. -/
inductive ComplexRefusal where
  /-- An underscore stands elsewhere than between two digits. -/
  | misgrouped
  /-- The text does not spell a complex number. -/
  | malformed

/-- What follows the `j` of an imaginary part. -/
def afterUnit? : List Char → Option (List Char)
  | 'j' :: rest => some rest
  | 'J' :: rest => some rest
  | _ => none

/-- One, with a sign. -/
def unitOf (sign : Char) : Binary64 := .ofInt (if sign = '-' then -1 else 1)

/-- The imaginary part that starts at a sign, and what follows its `j`. -/
def imaginaryFrom? (cs : List Char) : Option (Binary64 × List Char) :=
  match realFrom? cs with
  | some (y, rest) => (afterUnit? rest).map fun tail => (y, tail)
  | none =>
      match cs with
      | [] => none
      | sign :: rest =>
          (afterUnit? rest).map fun tail => (unitOf sign, tail)

/-- The complex number that the start of a text spells, and the rest. -/
def complexFrom? (cs : List Char) : Option ((Binary64 × Binary64) × List Char) :=
  match realFrom? cs with
  | some (x, rest) =>
      match rest with
      | '+' :: _ => (imaginaryFrom? rest).map fun (y, tail) => ((x, y), tail)
      | '-' :: _ => (imaginaryFrom? rest).map fun (y, tail) => ((x, y), tail)
      | _ =>
          match afterUnit? rest with
          | some tail => some ((.zero, x), tail)
          | none => some ((x, .zero), rest)
  | none =>
      match cs with
      | '+' :: _ => (imaginaryFrom? cs).map fun (y, tail) => ((.zero, y), tail)
      | '-' :: _ => (imaginaryFrom? cs).map fun (y, tail) => ((.zero, y), tail)
      | _ => (afterUnit? cs).map fun tail => ((.zero, unitOf '+'), tail)

/-- The complex number that a text without underscores spells. -/
def complexOf? (cs : List Char) : Option (Binary64 × Binary64) :=
  let skip := List.dropWhile isSpace
  match skip cs with
  | '(' :: rest =>
      match complexFrom? (skip rest) with
      | some (z, tail) =>
          match skip tail with
          | ')' :: last => if (skip last).isEmpty then some z else none
          | _ => none
      | none => none
  | start =>
      match complexFrom? start with
      | some (z, tail) => if (skip tail).isEmpty then some z else none
      | none => none

/-- Reads a complex number: its real and its imaginary part. Only the
underscores before the first null character count as misplaced ones, and
with one of them at all there must be no null character. -/
def readComplex (s : String) : Except ComplexRefusal (Binary64 × Binary64) :=
  let cs := plainChars s
  let start := cs.takeWhile fun c => c.toNat != 0
  if !start.contains '_' then
    match complexOf? cs with
    | some z => .ok z
    | none => .error .malformed
  else if start.length < cs.length then .error .misgrouped
  else
    match ungroup? ' ' cs with
    | none => .error .misgrouped
    | some digits =>
        match complexOf? digits with
        | some z => .ok z
        | none => .error .malformed

end CommandConsole.Number
