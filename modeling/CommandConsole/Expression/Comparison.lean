/-
Rows in ascending order, and the greatest and the smallest item of a row.

Items are compared by themselves or by what a function makes of them. Items
that are compared by equal objects keep their order.
-/
import CommandConsole.Expression.Operation
import CommandConsole.Expression.Signature

namespace CommandConsole.Expression

/-- An item behind the object that it is compared by. -/
abbrev Compared := Meaning × Meaning

/-- Puts an item in front of the first of some that is greater, among items
in ascending order. -/
def insertInOrder (one : Compared) : List Compared → Except Problem (List Compared)
  | [] => .ok [one]
  | other :: rest => do
      if ← relate .less one.1 other.1 then return one :: other :: rest
      else return other :: (← insertInOrder one rest)

/-- Some items in ascending order. -/
def inOrder (items : List Compared) : Except Problem (List Compared) :=
  items.foldlM (fun sorted one => insertInOrder one sorted) []

/-- Some items in ascending or in descending order. -/
def sortedItems (isDescending : Bool) (items : List Compared) : Except Problem (List Meaning) := do
  if isDescending then return (← inOrder items.reverse).reverse.map (·.2)
  else return (← inOrder items).map (·.2)

/-- The first of some items to which no other one has a relation. -/
def bestItem (r : Relation) (best : Compared) : List Compared → Except Problem Meaning
  | [] => .ok best.2
  | other :: rest => do
      bestItem r (if ← relate r other.1 best.1 then other else best) rest

/-- Refuses arguments with names that a routine which compares items does not
take. -/
def requireOptions (key : String) (entries : List (String × Meaning)) : Except Problem Unit :=
  let isSorting := key = "sort"
  let options := ["key", if isSorting then "reverse" else "default"]
  match entries.find? fun entry => !options.contains entry.1 with
  | some (option, _) =>
      .error (mistaken ("'" ++ option ++ "' is an invalid keyword argument for " ++ key ++ "()"))
  | none => .ok ()

/-- Refuses arguments of a routine that looks for the best of some items. -/
def requireCompared (key : String) (given : Nat) (entries : List (String × Meaning)) :
    Except Problem Unit := do
  if given = 0 then throw (.atLeast key 1 0)
  requireOptions key entries
  if 1 < given && (entries.lookup "default").isSome then
    throw (mistaken
      ("Cannot specify a default for " ++ key ++ "() with multiple positional arguments"))

/-- The greatest or the smallest of some items, or a spare object if there
are none. -/
def bestOf (key : String) (items : List Compared) (spare? : Option Meaning) :
    Except Problem Meaning :=
  match items, spare? with
  | first :: rest, _ => bestItem (if key = "max" then .greater else .less) first rest
  | [], some m => .ok m
  | [], none => .error (.told .valueError (key ++ "() arg is an empty sequence"))

end CommandConsole.Expression
