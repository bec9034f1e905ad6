/-
Operators between types and objects.

A bar unites types, among which the absent object counts, and rows that hold
types are joined and repeated like others. All other operators are those of
objects, among which a type is one that has none.
-/
import CommandConsole.Expression.Meaning
import CommandConsole.Object.Places

namespace CommandConsole.Expression

-- =============================================================== operators

/-- What a bar may stand beside: a type, or the absent object. -/
def unitable? : Meaning → Option Ty
  | .type t => some t
  | .object .none => some (.value .none)
  | _ => none

/-- Two types as one, of which one at least is not the absent object. -/
def united? (a b : Meaning) : Option Meaning :=
  match a, b with
  | .object .none, .object .none => none
  | a, b => do
      let s ← unitable? a
      let t ← unitable? b
      return .type (Ty.unionOf true [s, t])

/-- A row as often as an object says, if it is one that can be repeated. -/
def repeated? (row count : Meaning) : Option (Except Problem Meaning) := do
  let n ← count.integer?
  match row with
  | .list items => return (Object.repeatedWithin n items).map .list
  | .tuple items => return (Object.repeatedWithin n items).map .tuple
  | .buffer "bytearray" row => return (Object.repeatedWithin n row).map (.buffer "bytearray")
  | _ => none

/-- Two rows joined, two dictionaries united, or a row repeated. The objects
in them stay the same ones. -/
def rowOf? (op : Operator) (a b : Meaning) : Option (Except Problem Meaning) :=
  match op, a, b with
  | .add, .list xs, .list ys => some (.ok (.list (xs ++ ys)))
  | .add, .tuple xs, .tuple ys => some (.ok (.tuple (xs ++ ys)))
  | .add, .buffer "bytearray" xs, b =>
      b.byteRow?.map fun ys => .ok (.buffer "bytearray" (xs ++ ys))
  | .add, .object (.bytes xs), .buffer _ ys => some (.ok (.object (.bytes (xs ++ ys))))
  | .either, .dict xs, .dict ys => some (.ok (.dict (Meaning.unitedEntries xs ys)))
  | .multiply, a, b => (repeated? a b).or (repeated? b a)
  | _, _, _ => none

/-- A view of the keys or the entries of a dictionary, which is like a
set. -/
def isSetView : Meaning → Bool
  | .view cls _ => cls ≠ "dict_values"
  | _ => false

/-- The items that an operator of sets makes of those of two objects, of which one
at least is a view like a set. A set is made of the first object, and changed
by what the second one holds. -/
def itemsWithView (op : Operator) (a b : Meaning) (xs ys : List Object) : List Object :=
  let k := Object.keys
  let isSet (m : Meaning) : Bool := ["set", "frozenset"].contains m.className
  let isTable := isSet b || b.className = "dict"
  let start (row : List (Int × Object)) : Places Object :=
    if isSet a || a.className = "dict_keys" then .atOnce row else .oneByOne row
  let added := k.selected false (if isTable || op = .either then ys else k.oneByOne ys) xs
  let shared := k.selected true xs ys
  let grown (row more : List (Int × Object)) : Places Object :=
    if isTable && op = .either then (start row).merge ys.length more
    else more.foldl Places.add (start row)
  match op with
  | .either => k.placed grown xs added
  | .subtract => k.selected false (k.placed (fun row _ => start row) xs []) ys
  | .oneOf => k.selected false (k.placed grown xs added) shared
  | _ =>
      let (first, second, other) := if isSetView a then (xs, ys, b) else (ys, xs, a)
      let isWalked := if other.className = "set" then first.length ≤ second.length
        else isSetView other && second.length > first.length
      k.oneByOne (if isWalked then k.selected true first second
        else k.selected true second first)

/-- An operator between two rows of which one at least is a view like a set,
if there is one. -/
def viewOperation? (op : Operator) (a b : Meaning) : Option (Except Problem Meaning) :=
  if (isSetView a || isSetView b) && (Object.operateSets op [] []).isSome then
    some do
      let xs ← a.items
      let ys ← b.items
      for m in [Meaning.tuple xs, Meaning.tuple ys] do
        let _ ← m.asKey
      return .set false (Meaning.ofObjects (itemsWithView op a b
        (Object.distinct (Meaning.toObjects xs)) (Object.distinct (Meaning.toObjects ys))))
  else none

/-- The refusal to shift the routine that prints, which is a way to print
that is no more. -/
def noShift (b : Object) : Problem :=
  .told .typeError
    ("unsupported operand type(s) for >>: 'builtin_function_or_method' and '"
      ++ Problem.operandName b.className
      ++ "'. Did you mean \"print(<message>, file=<output_stream>)\"?")

/-- The refusal of an operator, as far as the class of one of the objects
words it. -/
def wordedRefusal? (op : Operator) (a b : Meaning) : Option Problem :=
  match op, a with
  | .add, .buffer "bytearray" _ =>
      some (.told .typeError
        ("can't concat " ++ Problem.operandName b.className ++ " to bytearray"))
  | .multiply, a =>
      let refused (cls : String) : Problem :=
        .told .typeError
          ("can't multiply sequence by non-int of type '" ++ Problem.longName cls ++ "'")
      let isRow (m : Meaning) : Bool :=
        ["str", "bytes", "list", "tuple"].contains m.className
      match a, b with
      | .buffer "bytearray" _, b => some (refused b.className)
      | a, .buffer "bytearray" _ => if isRow a then none else some (refused a.className)
      | _, _ => none
  | _, _ => none

/-- An operator between what two expressions stand for. -/
def operate (op : Operator) (a b : Meaning) : Except Problem Meaning :=
  let x := a.toObject
  let y := b.toObject
  match ((if op = .either then united? a b else none).map .ok).or (rowOf? op a b),
      viewOperation? op a b, wordedRefusal? op a b with
  | some result, _, _ => result
  | none, some result, _ => result
  | none, none, some p => .error p
  | none, none, none =>
      match op, Object.operate op x y with
      | .shiftRight, .error (.unsupported _ _ _) =>
          .error (if x.written = "<built-in function print>" then noShift y
            else Object.noOperator op x y)
      | _, result => result.map .ofObject

-- ============================================================= comparisons

/-- A text stands in another one. -/
def isWithin (part whole : List Char) : Bool :=
  part.isPrefixOf whole ||
    match whole with
    | [] => false
    | _ :: rest => isWithin part rest

/-- A byte, or a row of bytes, stands in a row of bytes. -/
def isInBytes (a : Meaning) (row : List Nat) : Except Problem Bool :=
  match a.byteRow?, a.integer? with
  | some part, _ => .ok (isWithin (part.map Char.ofNat) (row.map Char.ofNat))
  | none, some n =>
      if 0 ≤ n && n < 256 then .ok (row.contains n.toNat)
      else .error (.told .valueError "byte must be in range(0, 256)")
  | none, none =>
      .error (.told .typeError
        ("a bytes-like object is required, not '" ++ Problem.longName a.className ++ "'"))

/-- An object as the key by which it is looked up among the items of a set: a
set stands for the one that cannot be changed and holds the same items. -/
def asMember (m : Meaning) : Except Problem Meaning :=
  match m with
  | .set _ items => .ok (.set true items)
  | m => m.asKey

/-- A whole number is one of those from one up to another one, by steps. -/
def isInRange (first last pace n : Int) : Bool :=
  let isBetween := if 0 < pace then first ≤ n && n < last else last < n && n ≤ first
  isBetween && (n - first) % pace = 0

/-- An object is among some others: it is one of them, or equals one. -/
def isAmong (m : Meaning) (items : List Meaning) : Bool :=
  items.any fun other => other.identical m || other.same m

/-- What one expression stands for is in what another one stands for. -/
def isIn (a b : Meaning) : Except Problem Bool :=
  match b with
  | .object (.text whole) =>
      match a.toObject with
      | .text part => .ok (isWithin part.toList whole.toList)
      | x =>
          .error (.told .typeError
            ("'in <string>' requires string as left operand, not "
              ++ Problem.longName x.className))
  | .object (.bytes row) => isInBytes a row
  | .buffer "bytearray" row => isInBytes a row
  | .object (.range first last pace) =>
      match a.integer? with
      | some n => .ok (isInRange first last pace n)
      | none => return isAmong a (← b.items)
  | .dict _ | .view "dict_keys" _ => do
      let key ← a.asKey
      return isAmong key (← b.items)
  | .set _ items => do return isAmong (← asMember a) items
  | b =>
      match b.items? with
      | some items => .ok (isAmong a items)
      | none =>
          .error (.told .typeError
            ("argument of type '" ++ Problem.longName b.className ++ "' is not iterable"))

/-- What an expression stands for as an object that has an order: bytes that
can be changed are ordered like others, and views like sets. -/
def ordered (m : Meaning) : Object :=
  match m with
  | .buffer "bytearray" row => .bytes row
  | .view cls whole =>
      if cls = "dict_values" then m.toObject
      else .set (Meaning.toObjects ((Meaning.view cls whole).items?.getD []))
  | m => m.toObject

/-- A question about the order of what two expressions stand for. -/
def relate (r : Relation) (a b : Meaning) : Except Problem Bool :=
  let isPlain (m : Meaning) : Bool := (ordered m).className = m.className
  match a, b, Object.relate r (ordered a) (ordered b) with
  | .buffer "bytearray" row, .buffer _ other, _ | .buffer _ row, .buffer "bytearray" other, _ =>
      Object.relate r (.bytes row) (.bytes other)
  | .slice low high step, .slice otherLow otherHigh otherStep, _ =>
      Object.relate r (Meaning.tuple [low, high, step]).toObject
        (Meaning.tuple [otherLow, otherHigh, otherStep]).toObject
  | _, _, .error (.noOrder sign left right) =>
      .error (if isPlain a && isPlain b then .noOrder sign left right
        else .noOrder sign a.className b.className)
  | _, _, result => result

/-- A comparison of what two expressions stand for. -/
def compare (c : Comparator) (a b : Meaning) : Except Problem Bool :=
  match c with
  | .relation r => relate r a b
  | .equal => .ok (a.same b)
  | .unequal => .ok (!a.same b)
  | .inside => isIn a b
  | .outside => (isIn a b).map (!·)
  | .identical => .ok (a.identical b)
  | .distinct => .ok (!a.identical b)

end CommandConsole.Expression
