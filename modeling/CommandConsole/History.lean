/-
The history of a console: the lines it was given, newest first, and the
names of the last two commands.

A walk through the history starts outside the entries, at the empty input
line. A step to an older entry enters at the newest one, a step to a newer
entry from there leaves again, and a step past either end stays where it
is. Recording a line ends the walk.
-/
import CommandConsole.Problem

namespace CommandConsole

/-- The two directions of a walk through the history. -/
inductive Direction where
  | older
  | newer
deriving DecidableEq

/-- The largest length a history can have. -/
def maxHistoryLength : Int := 2 ^ 63 - 1

/-- The direction that an object stands for: one is older, minus one is
newer. -/
def Direction.ofObject (x : Object) : Except Problem Direction :=
  if x.whole? = some 1 then .ok .older
  else if x.whole? = some (-1) then .ok .newer
  else .error (.invalidDirection x)

/-- A history. -/
structure History where
  /-- The number of lines that are kept. -/
  limit : Nat
  /-- The lines, newest first. -/
  entries : List String
  /-- The name recorded last. -/
  current : String
  /-- The name recorded before that. -/
  previous : String
  /-- The entry that is shown, if a walk is inside the entries. -/
  shown : Option Nat

namespace History

/-- A history that keeps up to `limit` lines and holds none. -/
def empty (limit : Nat) : History := ⟨limit, [], "", "", none⟩

/-- An empty history of the length that a console was asked for. -/
def ofLength (length : Object) : Except Problem History :=
  match length with
  | .int n =>
      if n < 1 then .error .historyLengthNotPositive
      else if n > maxHistoryLength then .error .historyLengthTooLarge
      else .ok (empty n.toNat)
  | _ => .error .historyLengthNotInteger

/-- The index of the entry that is shown, or minus one. -/
def cursor (h : History) : Int :=
  match h.shown with
  | some index => index
  | none => -1

/-- The entry that is shown, or the empty line. -/
def line (h : History) : String :=
  match h.shown with
  | some index => (h.entries[index]?).getD ""
  | none => ""

/-- Records a line and the name of its command. The oldest line goes if
there are too many. -/
def record (h : History) (name raw : String) : History :=
  { h with
    entries := (raw :: h.entries).take h.limit
    current := name
    previous := h.current
    shown := none }

/-- The entry that is shown after a step, among `count` entries. -/
def stepped (count : Nat) (shown : Option Nat) : Direction → Option Nat
  | .older =>
      match shown with
      | none => if count = 0 then none else some 0
      | some index => if index + 1 < count then some (index + 1) else some index
  | .newer =>
      match shown with
      | none => none
      | some 0 => none
      | some (index + 1) => some index

/-- Takes one step of a walk. -/
def step (h : History) (direction : Direction) : History :=
  { h with shown := stepped h.entries.length h.shown direction }

/-- Forgets all lines and names. -/
def clear (h : History) : History := empty h.limit

/-- Takes one step in the direction that an object stands for, and answers
the line that is shown then. -/
def cycle (h : History) (direction : Object) :
    Except Problem (String × History) := do
  let after := h.step (← Direction.ofObject direction)
  return (after.line, after)

/-- The entry at an index, which counts from the newest one, or from the
oldest one if it is negative. -/
def entryAt (h : History) (index : Int) : Except Problem String :=
  let position := if index < 0 then index + h.entries.length else index
  if index > maxHistoryLength || index < -maxHistoryLength - 1 then
    .error .historyIndexTooLarge
  else if position < 0 then .error .historyIndexRange
  else
    match h.entries[position.toNat]? with
    | some entry => .ok entry
    | none => .error .historyIndexRange

/-- The entry at the index that an object stands for. -/
def entryOf (h : History) (index : Object) : Except Problem String :=
  match index with
  | .int n => h.entryAt n
  | .bool b => h.entryAt (if b then 1 else 0)
  | _ => .error (.historyIndexNotInteger index.className)

end History

end CommandConsole
