/-
Magnitudes: the places that numbers of every kind take on one line, from
one infinity to the other.

A finite magnitude is kept as a quotient and a power of ten beside it, so
that numbers whose powers of ten are far apart are compared without being
written out.
-/
import CommandConsole.Number.Decimal

namespace CommandConsole.Number

/-- A magnitude. A finite one is `numerator / denominator · 10 ^ power`. -/
inductive Magnitude where
  | finite (numerator : Int) (denominator : Nat) (power : Int)
  | infinity (negative : Bool)
  /-- What is not a number has no place on the line. -/
  | nan

namespace Magnitude

/-- The magnitude of a whole number. -/
def ofInt (n : Int) : Magnitude := .finite n 1 0

/-- The magnitude of a fraction. -/
def ofRat (q : Rat) : Magnitude := .finite q.num q.den 0

/-- The magnitude of a floating-point number. -/
def ofBinary64 : Binary64 → Magnitude
  | .nan => .nan
  | .infinity negative => .infinity negative
  | .finite negative m e =>
      .finite (withSign negative (m * 2 ^ e.toNat)) (2 ^ (-e).toNat) 0
where
  withSign (negative : Bool) (n : Nat) : Int := if negative then -(n : Int) else n

/-- The magnitude of a decimal number. -/
def ofDecimal : Decimal → Magnitude
  | .nan _ _ _ => .nan
  | .infinity negative => .infinity negative
  | .finite negative coefficient exponent =>
      .finite (if negative then -(coefficient : Int) else coefficient) 1 exponent

/-- The order of `m · 10 ^ e` and `n · 10 ^ f`, of which none is zero. The
numbers of their digits decide it unless they reach equally far. -/
def compareScaled (m : Nat) (e : Int) (n : Nat) (f : Int) : Ordering :=
  let reach (k : Nat) (power : Int) : Int := (Nat.toDigits 10 k).length + power
  match compare (reach m e) (reach n f) with
  | .eq => compare (m * 10 ^ (e - f).toNat) (n * 10 ^ (f - e).toNat)
  | order => order

/-- The order of two magnitudes, unless one of them has no place. -/
def order : Magnitude → Magnitude → Option Ordering
  | .nan, _ => none
  | _, .nan => none
  | .infinity a, .infinity b => some (compare b a)
  | .infinity a, _ => some (if a then .lt else .gt)
  | _, .infinity b => some (if b then .gt else .lt)
  | .finite m d e, .finite n c f =>
      let x := m * (c : Int)
      let y := n * (d : Int)
      match compare x.sign y.sign with
      | .eq =>
          if x = 0 then some .eq
          else
            let order := compareScaled x.natAbs e y.natAbs f
            some (if x < 0 then order.swap else order)
      | order => some order

/-- The whole number between a finite magnitude and zero that is nearest to
the magnitude. -/
def truncated (numerator : Int) (denominator : Nat) (power : Int) : Int :=
  Int.tdiv (numerator * 10 ^ power.toNat) (denominator * 10 ^ (-power).toNat)

end Magnitude

end CommandConsole.Number
