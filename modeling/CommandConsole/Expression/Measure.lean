/-
Numbers that objects have: their size, their length, the number by which they
are told from others, and what divisions of them leave.
-/
import CommandConsole.Expression.Operation
import CommandConsole.Expression.Signature
import CommandConsole.Object.Hash

namespace CommandConsole.Expression

/-- A number without its sign. -/
def magnitudeOf (m : Meaning) : Except Problem Meaning :=
  match m.toObject.bare, m.integer? with
  | _, some n => .ok (.number n.natAbs)
  | .float y, none => .ok (.object (.float (if y.hasMinus then y.negated else y)))
  | .complex x y, none =>
      let length := x.diagonal y
      if x.isFinite && y.isFinite && !length.isFinite then
        .error (.told .overflowError "absolute value too large")
      else .ok (.object (.float length))
  | x, none =>
      .error (mistaken
        ("bad operand type for abs(): '" ++ Problem.longName x.className ++ "'"))

/-- A quotient rounded down, and what is left. -/
def dividedOf (a b : Meaning) : Except Problem Meaning := do
  let refused : Problem := .unsupported "divmod()" a.className b.className
  let isComplex (m : Meaning) : Bool := m.className = "complex"
  let isNumber (m : Meaning) : Bool := m.toObject.toComplex?.isSome
  if !isNumber a || !isNumber b || isComplex a || isComplex b then throw refused
  match Object.operate .floorDivide a.toObject b.toObject,
      Object.operate .remainder a.toObject b.toObject with
  | .ok q, .ok r => return .tuple [.ofObject q, .ofObject r]
  | .error p, _ =>
      match p with
      | .told .zeroDivisionError "float floor division by zero" =>
          throw (.told .zeroDivisionError "float divmod()")
      | p => throw p
  | _, .error p => throw p

/-- The number of items of an object. -/
def lengthOf (m : Meaning) : Except Problem Meaning :=
  match m.size? with
  | some n =>
      if n < 2 ^ 63 then .ok (.number n)
      else .error (.told .overflowError "Python int too large to convert to C ssize_t")
  | none => .error (.noLength m.className)

/-- The number by which an object is told from others. -/
def hashOf (m : Meaning) : Except Problem Meaning := do
  let m ← m.asKey
  return .number ((Object.hash? m.toObject).getD 0)

end CommandConsole.Expression
