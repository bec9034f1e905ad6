/-
The operations of lists, tuples and ranges that are called by their names.

Operations that change a list make nothing, or what they take out of it, and
leave the list as it is then.
-/
import CommandConsole.Expression.Operation
import CommandConsole.Expression.Shared
import CommandConsole.Expression.TextOperation

namespace CommandConsole.Expression

/-- A list of some objects. -/
def listOf (items : List Shared) : Meaning := .list (items.map Shared.self)

/-- The position of the first item that equals an object. -/
def placeOf? (items : List Shared) (m : Shared) : Option Nat :=
  items.findIdx? fun x => x.self.identical m.self || x.whole.same m.whole

/-- The number of items that equal an object. -/
def occurrences (items : List Shared) (m : Shared) : Nat :=
  (items.filter fun x => x.self.identical m.self || x.whole.same m.whole).length

/-- A row without the item at a position. -/
def withoutPlace {α : Type} (row : List α) (n : Nat) : List α := row.take n ++ row.drop (n + 1)

/-- A position counted from the start, where one below zero is counted from
the end of a row of some length. -/
def fromStart (length : Nat) (n : Int) : Int := if n < 0 then n + length else n

/-- Takes an item out of a row. -/
def takenOut (noun : String) (row : List Meaning) (arguments : List Shared) :
    Except Problem (Meaning × List Meaning) := do
  requireBetween "pop" 0 1 arguments.length
  let place ←
    match arguments with
    | m :: _ => sizeNumber m.whole
    | [] => pure (-1)
  if row.isEmpty then throw (.told .indexError ("pop from empty " ++ noun))
  let n := fromStart row.length place
  match if n < 0 then none else row[n.toNat]? with
  | some m => return (m, withoutPlace row n.toNat)
  | none => throw (.told .indexError "pop index out of range")

/-- A row with an item at a position. -/
def withItemAt {α : Type} (row : List α) (place : Int) (x : α) : List α :=
  let n := (max 0 (min (fromStart row.length place) row.length)).toNat
  row.take n ++ x :: row.drop n

/-- The position of an item of a row, or of a part of it. -/
def positionIn (cls : String) (items : List Shared) (arguments : List Shared) :
    Except Problem Meaning := do
  requireBetween "index" 1 3 arguments.length
  let some m := arguments.head? | return .absent
  let bounds := (arguments.drop 1).map Shared.whole
  if bounds.any fun bound => bound.integer?.isNone then
    throw (mistaken "slice indices must be integers or have an __index__ method")
  let found? :=
    match ← boundsOf items.length bounds with
    | none => none
    | some (low, high) => (placeOf? ((items.take high).drop low) m).map (low + ·)
  match found? with
  | some i => return .number i
  | none =>
      if cls = "tuple" then throw (.told .valueError "tuple.index(x): x not in tuple")
      else throw (.told .valueError ((← m.whole.spelled) ++ " is not in list"))

/-- An operation of a range. -/
def rangeOperation (first last pace : Int) (key : String) (arguments : List Shared) :
    Except Problem Effect := do
  let [m] := arguments | throw (takesOne "range" key arguments.length)
  let items := (Number.progression first last pace).map Meaning.number
  match key, m.whole.integer? with
  | "count", some n => return .making (.number (if isInRange first last pace n then 1 else 0))
  | "count", none =>
      return .making (.number (items.filter fun x => x.same m.whole).length)
  | _, some n =>
      if isInRange first last pace n then return .making (.number ((n - first) / pace))
      else throw (.told .valueError ((← m.whole.spelled) ++ " is not in range"))
  | _, none =>
      match items.findIdx? fun x => x.same m.whole with
      | some i => return .making (.number i)
      | none => throw (.told .valueError "sequence.index(x): x not in sequence")

/-- An operation of a row. -/
def rowOperation (cls : String) (items : List Shared) (key : String)
    (arguments : List Shared) : Except Problem Effect := do
  let row := items.map Shared.self
  let one : Except Problem Shared :=
    match arguments with
    | [m] => .ok m
    | arguments => .error (takesOne cls key arguments.length)
  let noArguments : Except Problem Unit :=
    if arguments.isEmpty then .ok () else .error (takesNone cls key arguments.length)
  match key with
  | "copy" =>
      noArguments
      return .making (.list row)
  | "reverse" =>
      noArguments
      return .leaving (.list row.reverse)
  | "clear" =>
      noArguments
      return .leaving (.list [])
  | "count" => return .making (.number (occurrences items (← one)))
  | "index" => return .making (← positionIn cls items arguments)
  | "pop" =>
      let (m, rest) ← takenOut cls row arguments
      return { result := m, left? := some (.list rest) }
  | "remove" =>
      match placeOf? items (← one) with
      | some i => return .leaving (.list (withoutPlace row i))
      | none => throw (.told .valueError "list.remove(x): x not in list")
  | "extend" => return .leaving (.list (row ++ (← (← one).content.items)))
  | "append" => return .leaving (.list (row ++ [(← one).self]))
  | "insert" =>
      match arguments with
      | [place, m] =>
          return .leaving (.list (withItemAt row (← sizeNumber place.whole) m.self))
      | arguments =>
          throw (mistaken ("insert expected 2 arguments, got " ++ toString arguments.length))
  | _ => return .making .absent

end CommandConsole.Expression
