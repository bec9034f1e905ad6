/-
Rounding numbers, and powers that are left over from a division.

A number that lies halfway between two others is rounded to the even one.
-/
import CommandConsole.Expression.Construction
import CommandConsole.Object.Arithmetic

namespace CommandConsole.Expression

open Number

-- ================================================================ rounding

/-- A whole number rounded to a multiple of `10 ^ places`. -/
def roundedToTens (n : Int) (places : Nat) : Int :=
  if 3 * places > bitLength n + 4 then 0
  else
    let size := Binary64.roundQuotient n.natAbs (10 ^ places) * 10 ^ places
    if n < 0 then -size else size

/-- A floating-point number rounded to a whole one. -/
def roundedToWhole (x : Binary64) : Except Problem Object :=
  match x.toRat? with
  | some q =>
      let size := Binary64.roundQuotient q.num.natAbs q.den
      .ok (.int (if q.num < 0 then -size else size))
  | none =>
      if x = .nan then
        .error (.told .valueError "cannot convert float NaN to integer")
      else .error (.told .overflowError "cannot convert float infinity to integer")

/-- A floating-point number rounded to some places after the point, or
before it if there are fewer than none. -/
def roundedToPlaces (x : Binary64) (places : Int) : Except Problem Object :=
  match x.toRat? with
  | none => .ok (.float x)
  | some q =>
      if places > 323 then .ok (.float x)
      else if places < -308 then .ok (.float (.ofRat x.hasMinus 0))
      else
        let (up, down) := (10 ^ places.toNat, 10 ^ (-places).toNat)
        let n := Binary64.roundQuotient (q.num.natAbs * up) (q.den * down)
        match Binary64.ofQuotient x.hasMinus (n * down) up with
        | .infinity _ =>
            .error (.told .overflowError "rounded value too large to represent")
        | y => .ok (.float y)

/-- A number rounded, to some places after the point if they are told. -/
def rounded (m : Meaning) (places : Meaning) : Except Problem Meaning := do
  let x := m.toObject
  match x.bare, x.integer?, places with
  | _, some n, .object .none => return .object (.int n)
  | _, some n, places =>
      let count ← wholeNumber places
      return .object (.int (if count < 0 then roundedToTens n count.natAbs else n))
  | .float y, none, .object .none => return .object (← roundedToWhole y)
  | .float y, none, places => return .object (← roundedToPlaces y (← wholeNumber places))
  | x, none, _ =>
      throw (mistaken
        ("type " ++ Problem.longName x.className ++ " doesn't define __round__ method"))

-- ========================================================== what is left over

/-- What is left of the product of `found` and as many times a number as
`count` says, by squares. -/
def timesPowerOver (modulus found n count : Nat) : Nat :=
  if _h : count = 0 then found % modulus
  else
    timesPowerOver modulus (if count % 2 = 1 then found * n % modulus else found)
      (n * n % modulus) (count / 2)
termination_by count
decreasing_by omega

/-- The factor that makes a number leave as much as one does, if there is
one, where `u` and `v` are the factors that make it leave `a` and `b`. -/
def inverseOver (modulus : Nat) (a : Nat) (u v : Int) : Nat → Option Int
  | 0 => if a = 1 then some (u % modulus) else none
  | b + 1 => inverseOver modulus (b + 1) v (u - (a / (b + 1) : Nat) * v) (a % (b + 1))
termination_by b => b
decreasing_by exact Nat.mod_lt _ (by omega)

/-- What is left of a power of a whole number when it is divided. It has the
sign of what it is divided by. -/
def powerOver (n count modulus : Int) : Except Problem Meaning := do
  if modulus = 0 then throw (.told .valueError "pow() 3rd argument cannot be 0")
  let size := modulus.natAbs
  let start : Int := n % size
  let base ←
    if 0 ≤ count then pure start
    else
      match inverseOver size start.toNat 1 0 size with
      | some base => pure base
      | none =>
          throw (.told .valueError "base is not invertible for the given modulus")
  let left := timesPowerOver size 1 base.toNat count.natAbs
  return .object (.int (Int.fmod left modulus))

/-- A power, or what is left of it when it is divided by a third number. -/
def powerOfAll (arguments : List Meaning) : Except Problem Meaning := do
  match arguments with
  | [] => throw (mistaken "pow() missing required argument 'base' (pos 1)")
  | [_] => throw (mistaken "pow() missing required argument 'exp' (pos 2)")
  | [a, b] => return .ofObject (← Object.operate .power a.toObject b.toObject)
  | [a, b, .object .none] => return .ofObject (← Object.operate .power a.toObject b.toObject)
  | [a, b, c] =>
      match a.toObject.integer?, b.toObject.integer?, c.toObject.integer? with
      | some n, some count, some modulus => powerOver n count modulus
      | _, _, _ =>
          let kinds := [a, b, c].map Meaning.className
          let areNumbers := a.toObject.toComplex?.isSome && b.toObject.toComplex?.isSome
          match kinds.find? fun kind => kind = "float" || kind = "complex" && areNumbers with
          | some "float" =>
              throw (mistaken
                "pow() 3rd argument not allowed unless all arguments are integers")
          | some _ => throw (.told .valueError "complex modulo")
          | none =>
              throw (mistaken ("unsupported operand type(s) for ** or pow(): "
                ++ ", ".intercalate (kinds.map fun kind => "'" ++ kind ++ "'")))
  | arguments =>
      throw (mistaken ("pow() takes at most 3 arguments (" ++ toString arguments.length
        ++ " given)"))

end CommandConsole.Expression
