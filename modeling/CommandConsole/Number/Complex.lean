/-
Arithmetic of complex numbers.

A complex number is a pair of floating-point numbers, its real and its
imaginary part. Each operation on a part is rounded.
-/
import CommandConsole.Number.Elementary

namespace CommandConsole.Number

/-- A complex number by its real and its imaginary part. -/
abbrev ComplexNumber := Binary64 × Binary64

namespace ComplexNumber

/-- The number one. -/
def one : ComplexNumber := (.ofInt 1, .zero)

/-- Both parts are zero. -/
def isZero (z : ComplexNumber) : Bool := z.1.same .zero && z.2.same .zero

/-- The sum of two numbers. -/
def plus (z w : ComplexNumber) : ComplexNumber := (z.1.plus w.1, z.2.plus w.2)

/-- The difference of two numbers. -/
def minus (z w : ComplexNumber) : ComplexNumber := (z.1.minus w.1, z.2.minus w.2)

/-- The product of two numbers. -/
def times (z w : ComplexNumber) : ComplexNumber :=
  ((z.1.times w.1).minus (z.2.times w.2), (z.1.times w.2).plus (z.2.times w.1))

/-- The quotient of two numbers, of which the second one is not zero. Both
are divided by the larger part of the second one first. -/
def dividedBy (z w : ComplexNumber) : ComplexNumber :=
  let size (x : Binary64) : Binary64 := if x.hasMinus then x.negated else x
  match (size w.1).minus (size w.2) with
  | .nan =>
      if w.1 = .nan ∨ w.2 = .nan then (.nan, .nan) else byReal w
  | difference => if difference.hasMinus then byImaginary w else byReal w
where
  byReal (w : ComplexNumber) : ComplexNumber :=
    let ratio := w.2.dividedBy w.1
    let whole := w.1.plus (w.2.times ratio)
    ((z.1.plus (z.2.times ratio)).dividedBy whole, (z.2.minus (z.1.times ratio)).dividedBy whole)
  byImaginary (w : ComplexNumber) : ComplexNumber :=
    let ratio := w.1.dividedBy w.2
    let whole := (w.1.times ratio).plus w.2
    (((z.1.times ratio).plus z.2).dividedBy whole, ((z.2.times ratio).minus z.1).dividedBy whole)

/-- The product of `found` and as many times a number as `count` says, by
squares. -/
def timesPower (found z : ComplexNumber) (count : Nat) : ComplexNumber :=
  if _h : count = 0 then found
  else timesPower (if count % 2 = 1 then found.times z else found) (z.times z) (count / 2)
termination_by count
decreasing_by omega

/-- A number raised to a whole power. A negative one divides, and then the
number is not zero. -/
def wholePower (z : ComplexNumber) (n : Int) : ComplexNumber :=
  let power := timesPower one z n.natAbs
  if 0 < n then power else one.dividedBy power

/-- A number other than zero raised to a power, by its distance from zero
and its direction. There is none if its direction is infinite. -/
def power? (z w : ComplexNumber) : Option ComplexNumber :=
  let length := z.1.diagonal z.2
  let angle := z.1.direction z.2
  let raised := length.raised w.1
  let turn := angle.times w.1
  let (length, turn) :=
    if w.2.same .zero then (raised, turn)
    else
      (raised.dividedBy (angle.times w.2).exponential,
        turn.plus (w.2.times length.logarithm))
  match turn with
  | .infinity _ => none
  | turn => some (length.times turn.cosine, length.times turn.sine)

end ComplexNumber

end CommandConsole.Number
