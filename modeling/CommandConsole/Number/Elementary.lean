/-
Logarithms, exponentials, sines and angles of floating-point numbers.

They are computed with whole numbers: one stands for a number of which it is
the product with `2 ^ places`. That leaves so many more places than a result
keeps that rounding it to the nearest number is right, and an exact result
is met exactly.
-/
import CommandConsole.Number.Arithmetic

namespace CommandConsole.Number

namespace Scaled

/-- The binary places after the point. -/
def places : Nat := 1216

/-- The number one. -/
def unit : Int := 2 ^ places

/-- The product of two numbers. -/
def times (a b : Int) : Int := (a * b).tdiv unit

/-- The number nearest to a fraction. -/
def ofRat (q : Rat) : Int := (q * unit).floor

/-- The fraction that a number is. -/
def toRat (a : Int) : Rat := mkRat a unit.natAbs

/-- The sum of a row of terms up to the first one that is zero, where each
term is made of the one before it and its position. -/
def sumTerms (next : Nat → Int → Int) : Nat → Nat → Int → Int
  | 0, _, _ => 0
  | fuel + 1, n, term =>
      if term = 0 then 0 else term + sumTerms next fuel (n + 1) (next (n + 1) term)

/-- The sum of a row of powers, each divided by its position among the odd
numbers. -/
def sumOdd (factor : Int) : Nat → Nat → Int → Int
  | 0, _, _ => 0
  | fuel + 1, n, power =>
      if power = 0 then 0
      else power.tdiv (2 * n + 1) + sumOdd factor fuel (n + 1) (times power factor)

/-- The most terms that are summed up. -/
def maxTerms : Nat := 1000

/-- Half the logarithm of `(1 + t) / (1 - t)`, for a small `t`. -/
def halfLog (t : Int) : Int := sumOdd (times t t) maxTerms 0 t

/-- The angle with a small tangent. -/
def angleOf (t : Int) : Int := sumOdd (-(times t t)) maxTerms 0 t

/-- The logarithm of two. -/
def logOfTwo : Int := 2 * halfLog (unit.tdiv 3)

/-- A half turn. -/
def halfTurn : Int := 16 * angleOf (unit.tdiv 5) - 4 * angleOf (unit.tdiv 239)

/-- The logarithm of a positive fraction. -/
def log (q : Rat) : Int :=
  let n := q.num.natAbs
  let shift : Int := (n.log2 : Int) - q.den.log2
  let m : Int := n * 2 ^ (-shift).toNat
  let d : Int := q.den * 2 ^ shift.toNat
  shift * logOfTwo + 2 * halfLog (((m - d) * unit).tdiv (m + d))

/-- The power of the base of the logarithms: a number and the power of two
to multiply it with. -/
def exp (a : Int) : Int × Int :=
  let shift := (2 * a + logOfTwo).fdiv (2 * logOfTwo)
  let rest := a - shift * logOfTwo
  (sumTerms (fun n term => (times term rest).tdiv n) maxTerms 0 unit, shift)

/-- The sine of an angle of at most a quarter turn. -/
def sineNear (a : Int) : Int :=
  sumTerms (fun n term => -(times (times term a) a).tdiv (2 * n * (2 * n + 1))) maxTerms 0 a

/-- The cosine of an angle of at most a quarter turn. -/
def cosineNear (a : Int) : Int :=
  sumTerms (fun n term => -(times (times term a) a).tdiv ((2 * n - 1) * (2 * n))) maxTerms 0 unit

/-- The sine of an angle that is `quarters` quarter turns ahead. -/
def sine (quarters : Int) (a : Int) : Int :=
  let count := (4 * a + halfTurn).fdiv (2 * halfTurn)
  let rest := a - (count * halfTurn).tdiv 2
  match (count + quarters) % 4 with
  | 0 => sineNear rest
  | 1 => cosineNear rest
  | 2 => -sineNear rest
  | _ => -cosineNear rest

/-- The angle with a tangent between zero and one. -/
def angle (q : Rat) : Int :=
  let t := ofRat q
  if 2 * t ≤ unit then angleOf t
  else halfTurn.tdiv 4 + angleOf (((t - unit) * unit).tdiv (t + unit))

end Scaled

namespace Binary64

/-- The floating-point number nearest to what a fraction approximates: the
last of its places are dropped first. -/
def nearest (negative : Bool) (q : Rat) : Binary64 :=
  let kept : Nat := 200
  let shift : Int := (kept : Int) + q.den.log2 - q.num.natAbs.log2
  let n := roundQuotient (q.num.natAbs * 2 ^ shift.toNat) (q.den * 2 ^ (-shift).toNat)
  ofQuotient (if q.num = 0 then negative else q.num < 0) (n * 2 ^ (-shift).toNat)
    (2 ^ shift.toNat)

/-- The number nearest to a power of the base of the logarithms, whose
exponent is scaled. -/
def ofExponent (a : Int) : Binary64 :=
  if a > 800 * Scaled.unit then .infinity false
  else if a < -800 * Scaled.unit then .zero
  else
    let (m, shift) := Scaled.exp a
    nearest false (Scaled.toRat m * (if 0 ≤ shift then 2 ^ shift.toNat
      else mkRat 1 (2 ^ (-shift).toNat)))

/-- A number without a minus sign raised to a power. -/
def raised (x y : Binary64) : Binary64 :=
  if x.same (.ofInt 1) || y.same .zero then .ofInt 1
  else if x.same .zero && y ≠ .nan then if y.hasMinus then .infinity false else .zero
  else
    match x, y, x.toRat?, y.toRat? with
    | .nan, _, _, _ | _, .nan, _, _ => .nan
    | _, _, some p, some q => ofExponent (Scaled.log p * q).floor
    | .infinity _, y, _, _ => if y.hasMinus then .zero else .infinity false
    | x, y, _, _ => if y.hasMinus = x.reaches 1 then .zero else .infinity false

/-- The exponential of a number. -/
def exponential (x : Binary64) : Binary64 :=
  match x, x.toRat? with
  | _, some q =>
      if q > 800 then .infinity false
      else ofExponent (Scaled.ofRat (if q < -801 then -801 else q))
  | .infinity negative, none => if negative then .zero else x
  | _, none => .nan

/-- The logarithm of a positive number. -/
def logarithm (x : Binary64) : Binary64 :=
  match x.toRat? with
  | some q => nearest false (Scaled.toRat (Scaled.log q))
  | none => x

/-- The sine of an angle that is `quarters` quarter turns ahead. A very small
angle is its own sine. -/
def turned (quarters : Int) (x : Binary64) : Binary64 :=
  match x.toRat? with
  | some q =>
      if quarters = 0 && q.abs * (2 ^ 100 : Nat) < 1 then x
      else nearest false (Scaled.toRat (Scaled.sine quarters (Scaled.ofRat q)))
  | none => .nan

/-- The sine of an angle. -/
def sine (x : Binary64) : Binary64 := turned 0 x

/-- The cosine of an angle. -/
def cosine (x : Binary64) : Binary64 := turned 1 x

/-- The length of the diagonal of a rectangle. -/
def diagonal (x y : Binary64) : Binary64 :=
  match x, y, x.toRat?, y.toRat? with
  | .infinity _, _, _, _ | _, .infinity _, _, _ => .infinity false
  | _, _, some p, some q =>
      let square := p * p + q * q
      if square = 0 then .zero else ofExponent ((Scaled.log square).fdiv 2)
  | _, _, _, _ => .nan

/-- The angle between the ray to the right and the one to a point. -/
def direction (x y : Binary64) : Binary64 :=
  let around (a : Int) : Binary64 :=
    nearest y.hasMinus (Scaled.toRat (if y.hasMinus then -a else a))
  let (across, up) : Rat × Rat :=
    match x.toRat?, y.toRat? with
    | some p, some q => (p.abs, q.abs)
    | some _, none => (0, 1)
    | none, some _ => (1, 0)
    | none, none => (1, 1)
  if x = .nan ∨ y = .nan then .nan
  else if across = 0 ∧ up = 0 then around (if x.hasMinus then Scaled.halfTurn else 0)
  else if !x.hasMinus && up * (2 ^ 100 : Nat) < across then
    nearest y.hasMinus (if y.hasMinus then -(up / across) else up / across)
  else
    let steep :=
      if up ≤ across then Scaled.angle (up / across)
      else Scaled.halfTurn.tdiv 2 - Scaled.angle (across / up)
    around (if x.hasMinus then Scaled.halfTurn - steep else steep)

end Binary64

end CommandConsole.Number
