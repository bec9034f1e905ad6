/-
What stands between brackets after an expression: the arguments of a type,
the position or the key of an item, or the bounds of a part of a row.
-/
import CommandConsole.Expression.Meaning

namespace CommandConsole.Expression

-- =================================================================== types

/-- What an expression stands for as an argument of a type. -/
def typeArgument : Meaning → Ty
  | .type t => t
  | m => .value m.toObject

/-- The arguments that are given between brackets. -/
def typeArguments : Meaning → List Ty
  | .tuple items => items.map typeArgument
  | m => [typeArgument m]

/-- A type with arguments, if it takes some. -/
def withArguments (t : Ty) (index : Meaning) : Except Problem Ty :=
  match t with
  | .generic _ _ | .unpacked _ _ | .union _ _ => .error (.argumentsGiven t.written)
  | .builtin origin =>
      if origin.takesArguments then .ok (.generic origin (typeArguments index))
      else .error (.takesNoArguments origin.label)
  | t => .error (.takesNoArguments t.label)

-- ==================================================================== rows

/-- A position is told by a number that no row reaches. -/
def farPosition (n : Int) : Bool := n ≥ 2 ^ 63 || n < -2 ^ 63

/-- The item at a position of a row, which is counted from the end if it is
negative. -/
def itemAt {α : Type} (row : List α) (n : Int) : Option α :=
  if 0 ≤ n then row[n.toNat]?
  else if (-n).toNat ≤ row.length then row[row.length - (-n).toNat]?
  else none

/-- A bound of a part of a row, as a number if it is told. -/
def boundOf? (m : Meaning) : Except Problem (Option Int) :=
  match m, m.integer? with
  | .object .none, _ => .ok none
  | _, some n => .ok (some n)
  | _, none => .error .notSliceIndex

/-- A bound between two others. -/
def clamped (low high n : Int) : Int := max low (min high n)

/-- The positions from one up to another one, by steps, that three points
between brackets tell about a row of some length. -/
def positions (length : Int) (low high step : Meaning) : Except Problem (Int × Int × Int) := do
  let pace := (← boundOf? step).getD 1
  if pace = 0 then throw (.told .valueError "slice step cannot be zero")
  let place (n : Int) : Int := if n < 0 then n + length else n
  let first ← boundOf? low
  let last ← boundOf? high
  if 0 < pace then
    return (clamped 0 length (place (first.getD 0)),
      clamped 0 length ((last.map place).getD length), pace)
  else
    return (clamped (-1) (length - 1) ((first.map place).getD (length - 1)),
      clamped (-1) (length - 1) ((last.map place).getD (-1)), pace)

/-- The places from one up to another one, by steps. -/
def placesOf (start stop pace : Int) : List Nat :=
  (Number.progression start stop pace).map Int.toNat

/-- The part of a row from a position to another one, by steps. -/
def part {α : Type} (row : List α) (low high step : Meaning) : Except Problem (List α) := do
  let (start, stop, pace) ← positions row.length low high step
  if pace = 1 then return (row.take stop.toNat).drop start.toNat
  let whole := row.toArray
  return (placesOf start stop pace).filterMap fun i => whole[i]?

/-- What the messages about the items of a row say. -/
structure RowWords where
  /-- The position is out of reach. -/
  outOfRange : String
  /-- The position is told by an object of a class that tells none. -/
  badIndex : String → String

/-- The words about lists, tuples and ranges. -/
def RowWords.ofKind (kind : String) : RowWords :=
  ⟨kind ++ (if kind = "range" then " object" else "") ++ " index out of range",
    fun cls => kind ++ " indices must be integers or slices, not " ++ cls⟩

/-- The words about texts. -/
def RowWords.ofText : RowWords :=
  ⟨"string index out of range",
    fun cls => "string indices must be integers, not '" ++ cls ++ "'"⟩

/-- The words about rows of bytes. -/
def RowWords.ofBytes : RowWords :=
  ⟨"index out of range", fun cls => "byte indices must be integers or slices, not " ++ cls⟩

/-- The words about rows of bytes that can be changed. -/
def RowWords.ofByteArray : RowWords :=
  ⟨"bytearray index out of range",
    fun cls => "bytearray indices must be integers or slices, not " ++ cls⟩

/-- The words about windows on bytes. -/
def RowWords.ofWindow : RowWords :=
  ⟨"index out of bounds on dimension 1", fun _ => "memoryview: invalid slice key"⟩

/-- The position that an object tells. -/
def positionOf (words : RowWords) (index : Meaning) : Except Problem Int :=
  match index.integer? with
  | none => .error (.told .typeError (words.badIndex (Problem.longName index.className)))
  | some n => if farPosition n then .error .historyIndexTooLarge else .ok n

/-- An item of a row, or a part of it. -/
def itemOfRow {α : Type} (words : RowWords) (one : α → Meaning) (whole : List α → Meaning)
    (row : List α) (index : Meaning) : Except Problem Meaning := do
  match index with
  | .slice low high step => return whole (← part row low high step)
  | index =>
      match itemAt row (← positionOf words index) with
      | some x => return one x
      | none => throw (.told .indexError words.outOfRange)

/-- The value under a key of a dictionary. -/
def valueUnder (entries : List (Meaning × Meaning)) (index : Meaning) :
    Except Problem Meaning := do
  match Meaning.valueAt? entries (← index.asKey) with
  | some m => return m
  | none => throw (.noSuchKey index.toObject)

/-- A number of a range, or a part of it. -/
def itemOfRange (first last pace : Int) (index : Meaning) : Except Problem Meaning := do
  let size : Int := Number.progressionSize first last pace
  match index with
  | .slice low high step =>
      let (start, stop, step) ← positions size low high step
      return .object (.range (first + start * pace) (first + stop * pace) (pace * step))
  | index =>
      let words := RowWords.ofKind "range"
      let some n := index.integer?
        | throw (.told .typeError (words.badIndex (Problem.longName index.className)))
      let place := if n < 0 then n + size else n
      if 0 ≤ place && place < size then return .number (first + place * pace)
      else throw (.told .indexError words.outOfRange)

/-- The place that a row of places tells in a window on one row of bytes. -/
def placeInWindow (places : List Meaning) : Except Problem Meaning :=
  let isSlice (m : Meaning) : Bool := m.className = "slice"
  match places with
  | [] => .error (.told (.named "NotImplementedError") "sub-views are not implemented")
  | place :: others =>
      if places.all fun m => m.integer?.isSome then
        if others.isEmpty then .ok place
        else
          .error (.told .typeError ("cannot index 1-dimension view with "
            ++ toString places.length ++ "-element tuple"))
      else if places.all isSlice then
        .error (.told (.named "NotImplementedError")
          "multi-dimensional slicing is not implemented")
      else .error (.told .typeError "memoryview: invalid slice key")

/-- What stands at an index of what an expression stands for. -/
def itemOf (m index : Meaning) : Except Problem Meaning :=
  let byte (n : Nat) : Meaning := .number n
  match m with
  | .type t => (withArguments t index).map .type
  | .list items => itemOfRow (.ofKind "list") id .list items index
  | .tuple items => itemOfRow (.ofKind "tuple") id .tuple items index
  | .object (.text s) =>
      itemOfRow .ofText (fun c => .text (String.ofList [c]))
        (fun cs => .text (String.ofList cs)) s.toList index
  | .object (.bytes row) =>
      itemOfRow .ofBytes byte (fun row => .object (.bytes row)) row index
  | .buffer "bytearray" row => itemOfRow .ofByteArray byte (.buffer "bytearray") row index
  | .buffer cls row => do
      match index with
      | .tuple places =>
          itemOfRow .ofWindow byte (.buffer cls) row (← placeInWindow places)
      | index => itemOfRow .ofWindow byte (.buffer cls) row index
  | .object (.range first last pace) => itemOfRange first last pace index
  | .dict entries => valueUnder entries index
  | .object (.view entries) => valueUnder (Meaning.ofEntries entries) index
  | m => .error (.argumentsOfObject (Problem.longName m.className))

end CommandConsole.Expression
