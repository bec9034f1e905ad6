/-
Binary floating-point numbers of 64 bits.

A finite one is `significand · 2 ^ exponent`. The operations compute with
whole numbers, so each rounding is exact: to the nearest number, and of
two that are equally near to the one with an even significand.
-/
import CommandConsole.Number.Bits

namespace CommandConsole.Number

/-- A floating-point number of 64 bits. A finite one has a significand
below `2 ^ 53` and an exponent of at least `-1074`; the significand is
below `2 ^ 52` only if the exponent is `-1074`. -/
inductive Binary64 where
  | nan
  | infinity (negative : Bool)
  | finite (negative : Bool) (significand : Nat) (exponent : Int)
deriving DecidableEq

namespace Binary64

/-- The number zero. -/
def zero : Binary64 := .finite false 0 (-1074)

/-- The quotient of two whole numbers rounded to the nearest one, an exact
half to the even neighbour. -/
def roundQuotient (n d : Nat) : Nat :=
  let q := n / d
  let twice := 2 * (n % d)
  if twice > d ∨ (twice = d ∧ q % 2 = 1) then q + 1 else q

/-- The number `significand · 2 ^ exponent`, where the significand is at
most `2 ^ 53`; too large a number is infinite. -/
def normalized (negative : Bool) (significand : Nat) (exponent : Int) :
    Binary64 :=
  let (m, e) :=
    if significand = 2 ^ 53 then (2 ^ 52, exponent + 1)
    else (significand, exponent)
  if e > 971 then .infinity negative else .finite negative m e

/-- The number nearest to the quotient `n / d`. -/
def ofQuotient (negative : Bool) (n d : Nat) : Binary64 :=
  if n = 0 then .finite negative 0 (-1074)
  else
    let scaled (e : Int) : Nat × Nat :=
      (n * 2 ^ (-e).toNat, d * 2 ^ e.toNat)
    let guess : Int := (n.log2 : Int) - (d.log2 : Int) - 52
    let fits := (scaled guess).1 ≥ 2 ^ 52 * (scaled guess).2
    let e : Int := max (if fits then guess else guess - 1) (-1074)
    normalized negative (roundQuotient (scaled e).1 (scaled e).2) e

/-- The number nearest to `coefficient · 10 ^ exponent`. Magnitudes that
are infinite or zero at sight are not computed. -/
def ofDecimal (negative : Bool) (coefficient : Nat) (exponent : Int) :
    Binary64 :=
  let magnitude : Int := (coefficient.log2 : Int) * 30103 / 100000 + exponent
  if coefficient = 0 then .finite negative 0 (-1074)
  else if magnitude > 400 then .infinity negative
  else if magnitude < -400 then .finite negative 0 (-1074)
  else
    ofQuotient negative (coefficient * 10 ^ exponent.toNat)
      (10 ^ (-exponent).toNat)

/-- The number nearest to a whole number. -/
def ofInt (n : Int) : Binary64 := ofQuotient (n < 0) n.natAbs 1

/-- The 64 bits of a number, as a whole number. -/
def bits : Binary64 → Nat
  | .nan => 0x7FF8000000000000
  | .infinity negative => sign negative + 0x7FF * 2 ^ 52
  | .finite negative m e =>
      sign negative +
        (if m < 2 ^ 52 then m else (e + 1075).toNat * 2 ^ 52 + (m - 2 ^ 52))
where
  sign (negative : Bool) : Nat := if negative then 2 ^ 63 else 0

/-- The whole number that equals a number, if one does. -/
def toInt? : Binary64 → Option Int
  | .nan => none
  | .infinity _ => none
  | .finite negative m e =>
      let whole? :=
        if e ≥ 0 then some (m * 2 ^ e.toNat)
        else if m % 2 ^ (-e).toNat = 0 then some (m / 2 ^ (-e).toNat)
        else none
      whole?.map fun n => if negative then -(n : Int) else n

/-- A number is below zero. -/
def isNegative : Binary64 → Bool
  | .nan => false
  | .infinity negative => negative
  | .finite negative m _ => negative && m != 0

/-- A number is at least the whole number `n`. -/
def reaches (n : Nat) : Binary64 → Bool
  | .nan => false
  | .infinity negative => !negative
  | .finite negative m e =>
      if negative then m = 0 && n = 0
      else decide (n * 2 ^ (-e).toNat ≤ m * 2 ^ e.toNat)

/-- Two numbers are the same number: zero has one value with two signs,
and what is not a number equals nothing. -/
def same : Binary64 → Binary64 → Bool
  | .nan, _ => false
  | _, .nan => false
  | .infinity a, .infinity b => a == b
  | .finite a m e, .finite b n f =>
      m == n && (m == 0 || (a == b && e == f))
  | _, _ => false

end Binary64

end CommandConsole.Number
