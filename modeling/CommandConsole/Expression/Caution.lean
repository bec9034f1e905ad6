/-
What the reader of an expression is warned about: objects that can never be
called, or have no items, or not at such a position, and constants that are
asked whether they are one and the same object.
-/
import CommandConsole.Expression.Item
import CommandConsole.Expression.Operation
import CommandConsole.Expression.Scope

namespace CommandConsole.Expression

-- =============================================================== constants

/-- The most bits of a whole number that is computed beforehand. -/
def maxFoldedBits : Nat := 128

/-- An object is small enough to be computed beforehand. -/
def isSmall (x : Object) : Bool :=
  match x with
  | .int n => Number.bitLength n ≤ maxFoldedBits
  | .text s => s.length ≤ 4096
  | .bytes row => row.length ≤ 4096
  | .tuple items => items.length ≤ 256
  | _ => true

/-- The operator makes larger objects than it is given. -/
def grows (op : Operator) : Bool := op = .multiply || op = .power || op = .shiftLeft

/-- An operator between two constants, if it is computed beforehand. A text
with directives is not. -/
def foldedOperation? (op : Operator) (x y : Object) : Option Object :=
  match op, x with
  | .remainder, .text _ => none
  | .remainder, .bytes _ => none
  | op, x =>
      match Object.operate op x y with
      | .ok z => if grows op && !isSmall z then none else some z
      | .error _ => none

/-- The constant that an expression is for the one who reads it: it is
written down, or computed from others. -/
def constant? : Nat → Expression → Option Object
  | 0, _ => none
  | fuel + 1, e =>
      match e with
      | .constant x => some x
      | .name "__debug__" => some (.bool true)
      | .tuple items => (items.mapM (constant? fuel)).map .tuple
      | .signed sign e => do (Object.operateAlone sign (← constant? fuel e)).toOption
      | .negation e => do return .bool (!(← constant? fuel e).truthy)
      | .operation op left right => do
          foldedOperation? op (← constant? fuel left) (← constant? fuel right)
      | .item e index => do
          let x ← constant? fuel e
          let i ← constant? fuel index
          let m ← (itemOf (.ofObject x) (.ofObject i)).toOption
          return m.toObject
      | _ => none

/-- The name of the class of what an expression stands for, if it can be
told before it is evaluated. -/
def classBefore? (fuel : Nat) (e : Expression) : Option String :=
  match constant? fuel e, e with
  | some x, _ => some x.className
  | none, .tuple _ => some "tuple"
  | none, .list _ => some "list"
  | none, .comprehension .list _ _ _ => some "list"
  | none, .dict _ => some "dict"
  | none, .comprehension .dict _ _ _ => some "dict"
  | none, .set _ => some "set"
  | none, .comprehension .set _ _ _ => some "set"
  | none, .comprehension .stream _ _ _ => some "generator"
  | none, .function _ _ => some "function"
  | none, .interpolated _ => some "str"
  | none, _ => none

-- ================================================================ cautions

/-- What a caution asks at its end. -/
def commaHint : String := "; perhaps you missed a comma?"

/-- An expression is called whose object can never be called. -/
def callCaution? (fuel : Nat) (callee : Expression) : Option Caution :=
  match classBefore? fuel callee with
  | some "function" => none
  | some cls => some (.doubtful ("'" ++ cls ++ "' object is not callable" ++ commaHint))
  | none => none

/-- The classes of objects that have no items by position or by key. -/
def itemless : List String :=
  ["NoneType", "ellipsis", "bool", "int", "float", "complex", "set", "generator", "function"]

/-- The classes of rows whose items have positions. -/
def positional : List String := ["str", "bytes", "tuple", "list"]

/-- An item is asked for where there is none. -/
def itemCaution? (fuel : Nat) (e index : Expression) : Option Caution :=
  match classBefore? fuel e, classBefore? fuel index with
  | some cls, place? =>
      if itemless.contains cls then
        some (.doubtful ("'" ++ cls ++ "' object is not subscriptable" ++ commaHint))
      else
        match place? with
        | some place =>
            if positional.contains cls && place != "int" && place != "bool" then
              some (.doubtful
                (cls ++ " indices must be integers or slices, not " ++ place ++ commaHint))
            else none
        | none => none
  | none, _ => none

/-- A constant whose identity means nothing. -/
def isLiteral (fuel : Nat) (e : Expression) : Bool :=
  match constant? fuel e with
  | some .none => false
  | some (.bool _) => false
  | some (.sealed _ _ _ _) => false
  | some _ => true
  | none => false

/-- The identity of a constant is asked for. The question may be turned
around by a negation. -/
def comparisonCaution? (fuel : Nat) (negated : Bool) (left : Expression) :
    List (Comparator × Expression) → Option Caution
  | [] => none
  | (c, right) :: rest =>
      let doubtful := isLiteral fuel left || isLiteral fuel right
      let told (isSame : Bool) : Option Caution :=
        some (.doubtful (if isSame != negated
          then "\"is\" with a literal. Did you mean \"==\"?"
          else "\"is not\" with a literal. Did you mean \"!=\"?"))
      match c with
      | .identical => if doubtful then told true else comparisonCaution? fuel negated right rest
      | .distinct => if doubtful then told false else comparisonCaution? fuel negated right rest
      | _ => comparisonCaution? fuel negated right rest

/-- What the reader of an expression is warned about, in the order in which
its parts are made ready. -/
def cautionsAbout : Nat → Expression → List Caution
  | 0, _ => []
  | fuel + 1, e =>
      if (constant? fuel e).isSome then []
      else
        let inner := (parts e).flatMap (cautionsAbout fuel)
        match e with
        | .comparison first others =>
            (comparisonCaution? fuel false first others).toList ++ inner
        | .negation (.comparison first [other]) =>
            (comparisonCaution? fuel true first [other]).toList
              ++ (parts (.comparison first [other])).flatMap (cautionsAbout fuel)
        | .call callee _ => (callCaution? fuel callee).toList ++ inner
        | .item e index => (itemCaution? fuel e index).toList ++ inner
        | .function _ body => inner ++ cautionsAbout fuel body
        | .comprehension _ key element clauses =>
            let conditions := (clauses.take 1).flatMap (fun clause => clause.2.2.2)
            let rest := (clauses.drop 1).flatMap (fun clause => clause.2.2.1 :: clause.2.2.2)
            (conditions ++ rest ++ key.toList ++ [element]).flatMap (cautionsAbout fuel) ++ inner
        | _ => inner

end CommandConsole.Expression
