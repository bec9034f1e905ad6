/-
Operators between objects.

Numbers are computed with in the widest of the kinds that meet: truth values
count as whole numbers, whole numbers become floating-point numbers beside
one of these, and complex ones beside a complex one. Texts and rows are
joined and repeated, and sets and dictionaries are united.
-/
import CommandConsole.Number.Bits
import CommandConsole.Number.Complex
import CommandConsole.Object.Construction
import CommandConsole.Object.Places

namespace CommandConsole

open Number

/-- The operators between two objects. -/
inductive Operator where
  | add
  | subtract
  | multiply
  | matrixMultiply
  | divide
  | floorDivide
  | remainder
  | power
  | shiftLeft
  | shiftRight
  | both
  | either
  | oneOf
deriving DecidableEq

/-- The sign of an operator in a message. -/
def Operator.sign : Operator → String
  | .add => "+"
  | .subtract => "-"
  | .multiply => "*"
  | .matrixMultiply => "@"
  | .divide => "/"
  | .floorDivide => "//"
  | .remainder => "%"
  | .power => "** or pow()"
  | .shiftLeft => "<<"
  | .shiftRight => ">>"
  | .both => "&"
  | .either => "|"
  | .oneOf => "^"

/-- The operators before one object. -/
inductive Sign where
  | minus
  | plus
  | complement
deriving DecidableEq

/-- The sign of an operator before one object in a message. -/
def Sign.text : Sign → String
  | .minus => "-"
  | .plus => "+"
  | .complement => "~"

namespace Object

-- ============================================================== refusals

/-- A division by zero, as a message words it. -/
def divisionByZero (message : String) : Problem := .told .zeroDivisionError message

/-- The number of bits above which no whole number is computed. -/
def maxBits : Nat := 1000000

/-- The length above which there is no room for a row. -/
def maxLength : Nat := 20000000

/-- A whole number that would be too large to compute. -/
def tooLarge : Problem := .told .overflowError "too many digits in integer"

-- ======================================================== complex numbers

/-- A complex number raised to a power: by multiplication for a whole power
of at most a hundred. -/
def complexPower (z w : ComplexNumber) : Except Problem Object :=
  let refused : Problem := divisionByZero "0.0 to a negative or complex power"
  let made (z : ComplexNumber) : Except Problem Object :=
    let isInfinite (x : Binary64) : Bool := x ≠ .nan && !x.isFinite
    if isInfinite z.1 || isInfinite z.2 then
      .error (.told .overflowError "complex exponentiation")
    else .ok (.complex z.1 z.2)
  let byLength : Except Problem Object :=
    if w.isZero then made .one
    else if z.isZero then
      if w.2.same .zero && !w.1.isNegative then made (.zero, .zero) else .error refused
    else ((z.power? w).map made).getD (.error refused)
  match w.1.toInt?, w.2.same .zero with
  | some n, true =>
      if n.natAbs > 100 then byLength
      else if z.isZero && n < 0 then .error refused
      else made (z.wholePower n)
  | _, _ => byLength

/-- An operator between two complex numbers, if there is one. -/
def operateComplex (op : Operator) (z w : ComplexNumber) : Option (Except Problem Object) :=
  let made (z : ComplexNumber) : Option (Except Problem Object) := some (.ok (.complex z.1 z.2))
  match op with
  | .add => made (z.plus w)
  | .subtract => made (z.minus w)
  | .multiply => made (z.times w)
  | .divide =>
      if w.isZero then some (.error (divisionByZero "complex division by zero"))
      else made (z.dividedBy w)
  | .power => some (complexPower z w)
  | _ => Option.none

-- ================================================= floating-point numbers

/-- A number is whole and odd. -/
def isOdd (x : Binary64) : Bool :=
  match x.toInt? with
  | some n => n % 2 = 1
  | Option.none => false

/-- A number raised to a power. One that is negative has powers that are not
whole among the complex numbers. -/
def floatPower (x y : Binary64) : Except Problem Object :=
  let size := if x.hasMinus then x.negated else x
  let isFinite := x.isFinite && y.isFinite
  if isFinite && x.same .zero && y.isNegative then
    .error (divisionByZero "0.0 cannot be raised to a negative power")
  else if isFinite && x.isNegative && y.toInt?.isNone then complexPower (x, .zero) (y, .zero)
  else
    let z := if y = .nan then x.raised y else size.raised y
    if isFinite && !z.isFinite then
      .error (.told .overflowError "(34, 'Numerical result out of range')")
    else .ok (.float (if x.hasMinus && isOdd y then z.negated else z))

/-- An operator between two floating-point numbers, if there is one. -/
def operateFloats (op : Operator) (x y : Binary64) : Option (Except Problem Object) :=
  let unlessZero (message : String) (z : Binary64) : Except Problem Object :=
    if y.same .zero then .error (divisionByZero message) else .ok (.float z)
  match op with
  | .add => some (.ok (.float (x.plus y)))
  | .subtract => some (.ok (.float (x.minus y)))
  | .multiply => some (.ok (.float (x.times y)))
  | .divide => some (unlessZero "float division by zero" (x.dividedBy y))
  | .floorDivide => some (unlessZero "float floor division by zero" (x.floorQuotient y))
  | .remainder => some (unlessZero "float modulo" (x.remainderBy y))
  | .power => some (floatPower x y)
  | _ => Option.none

-- ========================================================== whole numbers

/-- The floating-point number nearest to a whole number, unless it is out of
reach. -/
def floatOf (n : Int) : Except Problem Binary64 :=
  match Binary64.ofInt n with
  | .infinity _ => .error (.told .overflowError "int too large to convert to float")
  | x => .ok x

/-- The floating-point number nearest to a quotient of whole numbers. -/
def quotientOf (m n : Int) : Except Problem Object :=
  if n = 0 then .error (divisionByZero "division by zero")
  else
    match Binary64.ofQuotient (decide (m < 0) != decide (n < 0)) m.natAbs n.natAbs with
    | .infinity _ =>
        .error (.told .overflowError "integer division result too large for a float")
    | x => .ok (.float x)

/-- A whole number raised to a power, which is a floating-point number if the
power is negative. -/
def powerOf (m n : Int) : Except Problem Object := do
  if n < 0 then floatPower (← floatOf m) (← floatOf n)
  else if bitLength m > 1 && bitLength m * n.natAbs > maxBits then throw tooLarge
  else if bitLength m ≤ 1 then return .int (m ^ (if n = 0 then 0 else 2 - n.natAbs % 2))
  else return .int (m ^ n.natAbs)

/-- A whole number with its bits moved by a number of places. -/
def shiftedOf (left : Bool) (m n : Int) : Except Problem Object :=
  if n < 0 then .error (.told .valueError "negative shift count")
  else if left then
    if m = 0 then .ok (.int 0)
    else if n.natAbs > maxBits then .error tooLarge
    else .ok (.int (m * 2 ^ n.natAbs))
  else if n.natAbs > bitLength m then .ok (.int (if m < 0 then -1 else 0))
  else .ok (.int (Int.fdiv m (2 ^ n.natAbs)))

/-- An operator between two whole numbers, if there is one. -/
def operateIntegers (op : Operator) (m n : Int) : Option (Except Problem Object) :=
  match op with
  | .add => some (.ok (.int (m + n)))
  | .subtract => some (.ok (.int (m - n)))
  | .multiply => some (.ok (.int (m * n)))
  | .divide => some (quotientOf m n)
  | .floorDivide =>
      some (if n = 0 then .error (divisionByZero "integer division or modulo by zero")
        else .ok (.int (Int.fdiv m n)))
  | .remainder =>
      some (if n = 0 then .error (divisionByZero "integer modulo by zero")
        else .ok (.int (Int.fmod m n)))
  | .power => some (powerOf m n)
  | .shiftLeft => some (shiftedOf true m n)
  | .shiftRight => some (shiftedOf false m n)
  | .both => some (.ok (.int (commonBits m n)))
  | .either => some (.ok (.int (joinedBits m n)))
  | .oneOf => some (.ok (.int (differingBits m n)))
  | .matrixMultiply => Option.none

/-- An operator on bits between two truth values, which makes a truth
value. -/
def operateTruths (op : Operator) (a b : Bool) : Option Object :=
  match op with
  | .both => some (.bool (a && b))
  | .either => some (.bool (a || b))
  | .oneOf => some (.bool (a != b))
  | _ => Option.none

-- ================================================================ numbers

/-- The floating-point number that a number is beside one of these. -/
def toFloat? (x : Object) : Option (Except Problem Binary64) :=
  match x.bare with
  | .float y => some (.ok y)
  | x => x.integer?.map floatOf

/-- The complex number that a number is beside one of these. -/
def toComplex? (x : Object) : Option (Except Problem ComplexNumber) :=
  match x with
  | .complex re im => some (.ok (re, im))
  | x => x.toFloat?.map fun result => result.map fun y => (y, .zero)

/-- An operator between two numbers, if both are numbers and there is
one. -/
def operateNumbers (op : Operator) (a b : Object) : Option (Except Problem Object) :=
  let mixed : Option (Except Problem Object) := do
    let x ← a.toFloat?
    let y ← b.toFloat?
    match x, y with
    | .ok x, .ok y => operateFloats op x y
    | .error p, _ => (operateFloats op .zero (.ofInt 1)).map fun _ => .error p
    | _, .error p => (operateFloats op .zero (.ofInt 1)).map fun _ => .error p
  let wide : Option (Except Problem Object) := do
    let z ← a.toComplex?
    let w ← b.toComplex?
    match z, w with
    | .ok z, .ok w => operateComplex op z w
    | .error p, _ => some (.error p)
    | _, .error p => some (.error p)
  match a.bare, b.bare, a.integer?, b.integer? with
  | .bool p, .bool q, some m, some n =>
      match operateTruths op p q with
      | some x => some (.ok x)
      | Option.none => operateIntegers op m n
  | _, _, some m, some n => operateIntegers op m n
  | .complex _ _, _, _, _ => wide
  | _, .complex _ _, _, _ => wide
  | _, _, _, _ => mixed

-- =================================================================== rows

/-- A row `n` times over. -/
def repeated {α : Type} (n : Int) (row : List α) : List α :=
  (List.replicate n.toNat row).flatten

/-- A row `n` times over, unless that is more than there is room for. -/
def repeatedWithin {α : Type} (n : Int) (row : List α) : Except Problem (List α) :=
  if n ≥ 2 ^ 63 || n < -2 ^ 63 then
    .error (.told .overflowError "cannot fit 'int' into an index-sized integer")
  else if n * row.length > maxLength then .error (.told .memoryError "")
  else .ok (repeated (if row.isEmpty then 0 else n) row)

/-- The row of an object that can be repeated, repeated. -/
def repeated? (n : Int) : Object → Option (Except Problem Object)
  | .text s => some ((repeatedWithin n s.toList).map fun cs => .text (String.ofList cs))
  | .bytes row => some ((repeatedWithin n row).map .bytes)
  | .list items => some ((repeatedWithin n items).map .list)
  | .tuple items => some ((repeatedWithin n items).map .tuple)
  | _ => Option.none

/-- An object that is repeated as often as another one says. -/
def repeatedBy (x count : Object) : Option (Except Problem Object) :=
  match x.repeated? 0, count.integer? with
  | Option.none, _ => Option.none
  | some _, some n => x.repeated? n
  | some _, Option.none =>
      some (.error (.told .typeError
        ("can't multiply sequence by non-int of type '" ++ Problem.longName count.className
          ++ "'")))

/-- Two objects joined, if the first one is a row. -/
def joined (a b : Object) : Option (Except Problem Object) :=
  let other := Problem.longName b.className
  match a.bare with
  | .text s =>
      match b.bare with
      | .text t => some (.ok (.text (s ++ t)))
      | _ => some (.error (.textPlusOther b.className))
  | .bytes s =>
      match b with
      | .bytes t => some (.ok (.bytes (s ++ t)))
      | _ =>
          some (.error (.told .typeError
            ("can't concat " ++ Problem.operandName b.className ++ " to bytes")))
  | .list xs =>
      match b with
      | .list ys => some (.ok (.list (xs ++ ys)))
      | _ =>
          some (.error (.told .typeError
            ("can only concatenate list (not \"" ++ other ++ "\") to list")))
  | a =>
      match a.tupleItems?, b.tupleItems? with
      | some xs, some ys => some (.ok (.tuple (xs ++ ys)))
      | some _, Option.none =>
          some (.error (.told .typeError
            ("can only concatenate tuple (not \"" ++ other ++ "\") to tuple")))
      | Option.none, _ => Option.none

-- =================================================================== sets

/-- The items of an operator between two sets, if there is one. -/
def operateSets (op : Operator) (xs ys : List Object) : Option (List Object) :=
  match op with
  | .either => some (keys.either xs ys)
  | .both => some (keys.both xs ys)
  | .subtract => some (keys.without xs ys)
  | .oneOf => some (keys.oneOf xs ys)
  | _ => Option.none

/-- An operator between two sets, which makes a set of the first one's
kind. -/
def operateSets? (op : Operator) (a b : Object) : Option Object :=
  match a.setItems?, b.setItems? with
  | some xs, some ys =>
      (operateSets op xs ys).map fun items =>
        match a with
        | .frozenSet _ => .frozenSet items
        | _ => .set items
  | _, _ => Option.none

/-- Two dictionaries as one. -/
def united? (a b : Object) : Option Object :=
  match a, b with
  | .dict xs, .dict ys =>
      some (.dict (ys.foldl (fun entries entry => insertEntry entry.1 entry.2 entries) xs))
  | _, _ => Option.none

-- ============================================================== operators

/-- The refusal of an operator that two objects do not have. -/
def noOperator (op : Operator) (a b : Object) : Problem :=
  .unsupported op.sign a.className b.className

/-- An operator between two objects. -/
def operate (op : Operator) (a b : Object) : Except Problem Object :=
  let others : Option (Except Problem Object) :=
    match op with
    | .add => a.joined b
    | .multiply => (a.repeatedBy b).or (b.repeatedBy a)
    | op =>
        ((operateSets? op a b).or (if op = .either then a.united? b else Option.none)).map .ok
  ((operateNumbers op a b).or others).getD (.error (noOperator op a b))

/-- An operator before an object. -/
def operateAlone (sign : Sign) (x : Object) : Except Problem Object :=
  match sign, x.integer?, x with
  | .minus, some n, _ => .ok (.int (-n))
  | .plus, some n, _ => .ok (.int n)
  | .complement, some n, _ => .ok (.int (-n - 1))
  | .minus, _, .float y => .ok (.float y.negated)
  | .plus, _, .float y => .ok (.float y)
  | .minus, _, .complex re im => .ok (.complex re.negated im.negated)
  | .plus, _, .complex re im => .ok (.complex re im)
  | sign, _, x =>
      .error (.told .typeError
        ("bad operand type for unary " ++ sign.text ++ ": '"
          ++ Problem.longName x.className ++ "'"))

end Object

end CommandConsole
