/-
The order of objects.

Numbers of all kinds have one order among themselves, and so have texts,
rows of bytes, lists and tuples, item by item, and sets by what they hold.
No other two objects are ordered.
-/
import CommandConsole.Number.Magnitude
import CommandConsole.Object.Items
import CommandConsole.Problem

namespace CommandConsole

open Number

/-- The questions about the order of two objects. -/
inductive Relation where
  | less
  | lessOrEqual
  | greater
  | greaterOrEqual
deriving DecidableEq

namespace Relation

/-- The sign of a question. -/
def sign : Relation → String
  | .less => "<"
  | .lessOrEqual => "<="
  | .greater => ">"
  | .greaterOrEqual => ">="

/-- What a question asks, answered by an order. -/
def holds (r : Relation) (order : Ordering) : Bool :=
  match r with
  | .less => order.isLT
  | .lessOrEqual => order.isLE
  | .greater => order.isGT
  | .greaterOrEqual => order.isGE

/-- The same question about two objects of which the first is the second
one. -/
def swap : Relation → Relation
  | .less => .greater
  | .lessOrEqual => .greaterOrEqual
  | .greater => .less
  | .greaterOrEqual => .lessOrEqual

end Relation

namespace Object

/-- The magnitude of an object that is a number with a place among the
others. -/
def magnitude? (x : Object) : Option Magnitude :=
  match x.bare with
  | .bool b => some (.ofInt (if b then 1 else 0))
  | .int n => some (.ofInt n)
  | .float y => some (.ofBinary64 y)
  | .decimal y => some (.ofDecimal y)
  | .fraction q => some (.ofRat q)
  | _ => Option.none

/-- An object is a decimal number. -/
def isDecimal : Object → Bool
  | .decimal _ => true
  | _ => false

/-- A question about two numbers. What is no number answers none of them,
and among decimal numbers it may not be asked. -/
def relateNumbers (r : Relation) (a b : Object) (x y : Magnitude) : Except Problem Bool :=
  match x.order y with
  | some order => .ok (r.holds order)
  | Option.none =>
      if a.isDecimal || b.isDecimal then .error .decimalOutOfRange else .ok false

/-- A question about two rows that are compared item by item: the first
items that differ decide it, and the lengths if there are none. -/
def relateRows {α : Type} (r : Relation) (same : α → α → Bool)
    (relate : α → α → Except Problem Bool) : List α → List α → Except Problem Bool
  | x :: xs, y :: ys =>
      if same x y then relateRows r same relate xs ys else relate x y
  | xs, ys => .ok (r.holds (compare xs.length ys.length))

/-- A question about two sets: one is less than another one if it holds
less. -/
def relateSets (r : Relation) (xs ys : List Object) : Bool :=
  let within := holdsItems xs ys
  let around := holdsItems ys xs
  match r with
  | .less => within && !around
  | .lessOrEqual => within
  | .greater => around && !within
  | .greaterOrEqual => around

/-- The items of a tuple. -/
def tupleItems? : Object → Option (List Object)
  | .tuple items => some items
  | .namedTuple _ fields => some (fields.map (·.2))
  | _ => Option.none

/-- The items of a set. -/
def setItems? : Object → Option (List Object)
  | .set items => some items
  | .frozenSet items => some items
  | _ => Option.none

/-- A question about two objects between which rows stand at most `depth`
levels deep. -/
def relateWithin : Nat → Relation → Object → Object → Except Problem Bool
  | 0, _, _, _ => .error .tooDeep
  | depth + 1, r, a, b =>
      match a.magnitude?, b.magnitude? with
      | some x, some y => relateNumbers r a b x y
      | _, _ =>
          match a.tupleItems?, b.tupleItems? with
          | some xs, some ys => relateRows r same (relateWithin depth r) xs ys
          | _, _ =>
              match a.setItems?, b.setItems? with
              | some xs, some ys => .ok (relateSets r xs ys)
              | _, _ =>
                  match a.bare, b.bare with
                  | .text s, .text t => .ok (r.holds (compare s t))
                  | .bytes s, .bytes t => .ok (r.holds (compare s t))
                  | .list xs, .list ys => relateRows r same (relateWithin depth r) xs ys
                  | _, _ => .error (.noOrder r.sign a.className b.className)

/-- How deep rows may stand inside each other that are compared. -/
def maxRowDepth : Nat := 1000

/-- A question about the order of two objects. -/
def relate (r : Relation) (a b : Object) : Except Problem Bool :=
  relateWithin maxRowDepth r a b

/-- The greatest of an object and some others; the first one of equal
ones. -/
def greatest (best : Object) : List Object → Except Problem Object
  | [] => .ok best
  | x :: rest => do greatest (if ← relate .greater x best then x else best) rest

end Object

end CommandConsole
