/-
The shortest decimal text of a floating-point number: the fewest digits
that read back as the number, and of those with as few digits the nearest
to it.

A grid of decimals with `k` digits has a point that reads back only if one
of the number's two neighbours on the grid does, so the search tries both
neighbours for `k = 1, 2, …, 17`.
-/
import CommandConsole.Number.Binary64

namespace CommandConsole.Number

/-- A positive decimal: `coefficient · 10 ^ exponent`. -/
structure Scaled where
  coefficient : Nat
  exponent : Int

/-- The number of decimal digits of a whole number. -/
def digitCount (n : Nat) : Nat := (Nat.toDigits 10 n).length

/-- The distance between a quotient `n / d` and a decimal, as a quotient
over the denominator that belongs to `n`, `d` and the exponent. -/
def Scaled.distance (x : Scaled) (n d : Nat) : Nat :=
  let here := x.coefficient * 10 ^ x.exponent.toNat * d
  let there := n * 10 ^ (-x.exponent).toNat
  if here ≤ there then there - here else here - there

/-- The two neighbours of the quotient `n / d` among the decimals with the
given exponent, the nearer one first; of two that are equally near, the
even one. -/
def Scaled.neighbours (n d : Nat) (exponent : Int) : List Scaled :=
  let below := n * 10 ^ (-exponent).toNat / (d * 10 ^ exponent.toNat)
  let low : Scaled := ⟨below, exponent⟩
  let high : Scaled := ⟨below + 1, exponent⟩
  let a := low.distance n d
  let b := high.distance n d
  if a < b ∨ (a = b ∧ below % 2 = 0) then [low, high] else [high, low]

/-- The shortest decimal that reads back as the positive number
`significand · 2 ^ exponent`. -/
def shortestDecimal (significand : Nat) (exponent : Int) : Scaled :=
  let n := significand * 2 ^ exponent.toNat
  let d := 2 ^ (-exponent).toNat
  let target := Binary64.finite false significand exponent
  let readsBack (x : Scaled) : Bool :=
    Binary64.ofDecimal false x.coefficient x.exponent == target
  let guess : Int :=
    ((n.log2 : Int) - (d.log2 : Int)) * 30103 / 100000
  let leading : Int :=
    if n * 10 ^ (-(guess + 1)).toNat ≥ d * 10 ^ (guess + 1).toNat then guess + 1
    else if n * 10 ^ (-guess).toNat ≥ d * 10 ^ guess.toNat then guess
    else guess - 1
  let candidates :=
    (List.range 17).flatMap fun k : Nat =>
      Scaled.neighbours n d (leading - Int.ofNat k)
  (candidates.find? readsBack).getD ⟨significand, exponent⟩

/-- The digits of a number without the zeros at its end, and how many of
those there are. -/
def significantDigits (n : Nat) : List Char :=
  trimZeros (Nat.toDigits 10 n)
where
  trimZeros (cs : List Char) : List Char :=
    (cs.reverse.dropWhile (· == '0')).reverse

/-- An exponent of ten with its sign and at least two digits. -/
def exponentText (e : Int) : List Char :=
  let digits := Nat.toDigits 10 e.natAbs
  (if e < 0 then '-' else '+') ::
    (if digits.length < 2 then '0' :: digits else digits)

/-- The digits of a decimal below one tenth of a power of ten, laid out
with a point: positionally if the point stands between four places before
the digits and sixteen after the first, with an exponent otherwise. -/
def layOut (digits : List Char) (point : Int) : List Char :=
  if -4 < point ∧ point ≤ 16 then
    if point ≤ 0 then
      '0' :: '.' :: List.replicate (-point).toNat '0' ++ digits
    else
      let whole := point.toNat
      if digits.length ≤ whole then
        digits ++ List.replicate (whole - digits.length) '0' ++ ['.', '0']
      else
        digits.take whole ++ '.' :: digits.drop whole
  else
    let fraction := digits.drop 1
    digits.take 1 ++ (if fraction.isEmpty then [] else '.' :: fraction)
      ++ 'e' :: exponentText (point - 1)

/-- The text of a floating-point number. -/
def Binary64.text : Binary64 → String
  | .nan => "nan"
  | .infinity negative => if negative then "-inf" else "inf"
  | .finite negative m e =>
      let body :=
        if m = 0 then ['0', '.', '0']
        else
          let x := shortestDecimal m e
          layOut (significantDigits x.coefficient)
            (x.exponent + (digitCount x.coefficient : Int))
      String.ofList (if negative then '-' :: body else body)

end CommandConsole.Number
