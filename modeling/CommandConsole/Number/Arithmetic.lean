/-
Arithmetic of floating-point numbers.

Finite numbers are computed with as fractions, so each result is rounded
once: to the nearest number, and of two that are equally near to the one
with an even significand. A result of zero keeps the sign that the rule for
its operation gives it.
-/
import CommandConsole.Number.Binary64

namespace CommandConsole.Number.Binary64

/-- The fraction that a finite number is. -/
def toRat? : Binary64 → Option Rat
  | .finite negative m e =>
      let q : Rat := mkRat (m * 2 ^ e.toNat) (2 ^ (-e).toNat)
      some (if negative then -q else q)
  | _ => none

/-- The number nearest to a fraction, where a zero is negative if `negative`
says so. -/
def ofRat (negative : Bool) (q : Rat) : Binary64 :=
  if q.num = 0 then .finite negative 0 (-1074)
  else ofQuotient (q.num < 0) q.num.natAbs q.den

/-- A number has a minus sign; zero may have one. -/
def hasMinus : Binary64 → Bool
  | .nan => false
  | .infinity negative => negative
  | .finite negative _ _ => negative

/-- A number is finite. -/
def isFinite : Binary64 → Bool
  | .finite _ _ _ => true
  | _ => false

/-- A number with the other sign. -/
def negated : Binary64 → Binary64
  | .nan => .nan
  | .infinity negative => .infinity !negative
  | .finite negative m e => .finite (!negative) m e

/-- The sum of two numbers. Zeros of both signs make a positive one. -/
def plus (x y : Binary64) : Binary64 :=
  match x, y with
  | .infinity a, .infinity b => if a = b then .infinity a else .nan
  | .infinity a, .finite _ _ _ => .infinity a
  | .finite _ _ _, .infinity b => .infinity b
  | x, y =>
      match x.toRat?, y.toRat? with
      | some p, some q => ofRat (x.hasMinus && y.hasMinus) (p + q)
      | _, _ => .nan

/-- The difference of two numbers. -/
def minus (x y : Binary64) : Binary64 := x.plus y.negated

/-- The product of two numbers. -/
def times (x y : Binary64) : Binary64 :=
  let negative := x.hasMinus != y.hasMinus
  match x.toRat?, y.toRat? with
  | some p, some q => ofRat negative (p * q)
  | some p, none => if y = .nan ∨ p = 0 then .nan else .infinity negative
  | none, some q => if x = .nan ∨ q = 0 then .nan else .infinity negative
  | none, none => if x = .nan ∨ y = .nan then .nan else .infinity negative

/-- The quotient of two numbers. By zero it is infinite, unless the first one
is zero, too. -/
def dividedBy (x y : Binary64) : Binary64 :=
  let negative := x.hasMinus != y.hasMinus
  match x.toRat?, y.toRat? with
  | some p, some q =>
      if q ≠ 0 then ofRat negative (p / q) else if p = 0 then .nan else .infinity negative
  | some _, none => if y = .nan then .nan else ofRat negative 0
  | none, some _ => if x = .nan then .nan else .infinity negative
  | none, none => .nan

/-- What is left of a number after another one is taken away from it as often
as it goes into it. It has the sign of the number, and is exact. -/
def leftOver (x y : Binary64) : Binary64 :=
  match x.toRat?, y.toRat? with
  | some p, some q =>
      if q = 0 then .nan
      else
        let ratio := p / q
        ofRat x.hasMinus (p - Int.tdiv ratio.num ratio.den * q)
  | some _, none => if y = .nan then .nan else x
  | none, _ => .nan

/-- The greatest whole number that is at most a number. -/
def floored (x : Binary64) : Binary64 :=
  match x.toRat? with
  | some q => ofRat x.hasMinus q.floor
  | none => x

/-- A zero with the sign of a number. -/
def zeroLike (x : Binary64) : Binary64 := ofRat x.hasMinus 0

/-- What is left of a number when it is divided by another one, which is not
zero: it has the sign of that one. -/
def remainderBy (x y : Binary64) : Binary64 :=
  let rest := x.leftOver y
  if rest.same .zero then y.zeroLike
  else if rest ≠ .nan && rest.hasMinus != y.hasMinus then rest.plus y
  else rest

/-- The quotient of two numbers rounded down, where the second one is not
zero: what is left over is taken away first, so that the quotient of the rest
is near a whole number. -/
def floorQuotient (x y : Binary64) : Binary64 :=
  let rest := x.leftOver y
  let near := (x.minus rest).dividedBy y
  let isBelow := !rest.same .zero && rest ≠ .nan && rest.hasMinus != y.hasMinus
  let near := if isBelow then near.minus (ofInt 1) else near
  if near.same .zero then (x.dividedBy y).zeroLike
  else
    let whole := near.floored
    match (near.minus whole).toRat? with
    | some q => if q > 1 / 2 then whole.plus (ofInt 1) else whole
    | none => whole

end CommandConsole.Number.Binary64
