/-
The operations of sets that are called by their names.
-/
import CommandConsole.Expression.Construction
import CommandConsole.Expression.RowOperation

namespace CommandConsole.Expression

/-- A row that is given to an operation of a set, each item of which could be
in a set. -/
structure GivenKeys where
  items : List Meaning
  /-- The row is a set itself. -/
  isSet : Bool
  /-- The row is a set or a dictionary, which can be asked for its keys. -/
  isLookedUp : Bool

/-- The row that an argument of an operation of a set gives. -/
def givenKeys (m : Shared) : Except Problem GivenKeys := do
  match m.whole with
  | .set _ items => return ⟨items, true, true⟩
  | .dict entries => return ⟨entries.map (·.1), false, true⟩
  | whole => return ⟨← keysOf (← whole.items), false, false⟩

/-- The items of a set with those of a row. -/
def withKeys (items : List Meaning) (g : GivenKeys) : List Meaning :=
  if g.isLookedUp then keys.either items g.items else keys.extended items g.items

/-- The items of a set that are in a row. -/
def sharedKeys (items : List Meaning) (g : GivenKeys) : List Meaning :=
  if g.isSet then keys.both items g.items
  else keys.oneByOne (keys.selected true g.items items)

/-- The items of a set that are in none of some rows. -/
def withoutKeys (items : List Meaning) : List GivenKeys → List Meaning
  | [] => keys.atOnce items
  | g :: rest =>
      let first :=
        if g.isLookedUp then keys.without items g.items
        else keys.selected false (keys.atOnce items) g.items
      rest.foldl (fun left g => keys.selected false left g.items) first

/-- The items of a set that has lost what it shares with a row, and gained the
rest of the row. -/
def changedByKeys (items : List Meaning) (g : GivenKeys) : List Meaning :=
  keys.selected false (keys.extended items g.items) (keys.selected true g.items items)

/-- What an operation of a set makes of its items and of some rows. -/
def madeOfKeys? (key : String) (items : List Meaning) (given : List GivenKeys) :
    Option (List Meaning) :=
  match key with
  | "union" => some (given.foldl withKeys (keys.atOnce items))
  | "intersection" => some (given.foldl sharedKeys (keys.atOnce items))
  | "difference" => some (withoutKeys items given)
  | _ => none

/-- What an operation that changes a set leaves of its items, where some rows
are given. -/
def leftByKeys? (key : String) (items : List Meaning) (given : List GivenKeys) :
    Option (List Meaning) :=
  match key with
  | "update" => some (given.foldl withKeys items)
  | "intersection_update" => some (given.foldl sharedKeys (keys.atOnce items))
  | "difference_update" =>
      some (given.foldl (fun left g => keys.selected false left g.items) items)
  | _ => none

/-- An operation of a set. -/
def setOperation (isFrozen : Bool) (items : List Meaning) (key : String)
    (arguments : List Shared) : Except Problem Effect := do
  let cls := if isFrozen then "frozenset" else "set"
  let one : Except Problem Shared :=
    match arguments with
    | [m] => .ok m
    | arguments => .error (takesOne cls key arguments.length)
  let noArguments : Except Problem Unit :=
    if arguments.isEmpty then .ok () else .error (takesNone cls key arguments.length)
  let other : Except Problem GivenKeys := do givenKeys (← one)
  let holds (xs ys : List Meaning) : Bool := (keys.selected false xs ys).isEmpty
  match key with
  | "symmetric_difference" =>
      let g ← other
      let row := if g.isSet then g.items else keys.oneByOne g.items
      return .making (.set isFrozen (keys.oneOf items row))
  | "symmetric_difference_update" =>
      return .leaving (.set isFrozen (changedByKeys items (← other)))
  | "issubset" => return .making (.flag (holds items (← other).items))
  | "issuperset" => return .making (.flag (holds (← other).items items))
  | "isdisjoint" =>
      return .making (.flag (keys.selected true items (← other).items).isEmpty)
  | "copy" =>
      noArguments
      return .making (.set isFrozen (if isFrozen then items else keys.atOnce items))
  | "clear" =>
      noArguments
      return .leaving (.set false [])
  | "pop" =>
      noArguments
      match items with
      | m :: rest => return { result := m, left? := some (.set false rest) }
      | [] => throw (.told .keyError "'pop from an empty set'")
  | "add" =>
      let added ← keysOf [← (← one).whole.asKey]
      return .leaving (.set isFrozen (keys.extended items added))
  | "discard" | "remove" =>
      let m ← asMember (← one).whole
      if items.any fun x => x.same m then
        return .leaving (.set false (items.filter fun x => !x.same m))
      else if key = "discard" then return .making .absent
      else throw (.noSuchKey (← one).whole.toObject)
  | key =>
      let given ← arguments.mapM givenKeys
      match madeOfKeys? key items given, leftByKeys? key items given with
      | some found, _ => return .making (.set isFrozen found)
      | none, some left => return .leaving (.set isFrozen left)
      | none, none => return .making .absent

end CommandConsole.Expression
