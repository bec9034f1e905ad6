/-
What is known while expressions are evaluated: the names that have objects,
the cells in which objects are kept that can be changed or that are told
apart from equal ones, and the cautions so far.

What an expression stands for is handed on as a cell where there is one. It
is opened to look at it, and settled to look at all that is in it.
-/
import CommandConsole.Expression.Scope
import CommandConsole.Expression.Signature

namespace CommandConsole.Expression

/-- Names with what they stand for, the latest first. -/
abbrev Names := List (String × Meaning)

/-- The names of a call of a function, or of a comprehension. A name that
gets its object later has none before. -/
structure Frame where
  label : String
  isFunction : Bool
  bindings : List (String × Option Meaning)

/-- What is known while expressions are evaluated. -/
structure Known where
  /-- The names that parts of them gave to objects outside of all frames. -/
  names : Names
  /-- What is in the cells, by their numbers. No cell has the number zero. -/
  cells : Array Meaning
  frames : Array Frame
  /-- What the function that is being evaluated gave away so far. -/
  given : List Meaning
  /-- The cautions so far. -/
  cautions : List Caution

/-- What is known before anything is evaluated. -/
def Known.atFirst : Known := ⟨[], #[.absent], #[], [], []⟩

/-- An evaluation, which may fail. What was known stays known if it does. -/
abbrev Evaluation := ExceptT Problem (StateM Known)

/-- What an evaluation leads to before anything is known, and the cautions
about it. -/
def outcome {α : Type} (found : Evaluation α) : Except Problem α × List Caution :=
  let (result, known) := found.run.run Known.atFirst
  (result, known.cautions)

/-- Adds cautions to those so far. -/
def warn (cautions : List Caution) : Evaluation Unit :=
  modify fun known => { known with cautions := known.cautions ++ cautions }

-- =================================================================== cells

/-- What is in a cell. -/
def Known.inCell (known : Known) (id : Nat) : Meaning := known.cells.getD id .absent

/-- An object without the cell that it is in, and a view without that of the
dictionary that it shows. What is in it may be in cells. -/
def opened (m : Meaning) : Evaluation Meaning := do
  let known ← get
  let contentOf (m : Meaning) : Meaning :=
    match m with
    | .cell id => known.inCell id
    | m => m
  match contentOf m with
  | .view cls whole => return .view cls (contentOf whole)
  | m => return m

/-- What an object that equals no other one knows. -/
def fieldsOf (m : Meaning) : Evaluation Names := do
  match ← opened m with
  | .lone _ _ fields => return fields
  | _ => return []

/-- Puts something else into the cell of an object. -/
def change (m content : Meaning) : Evaluation Unit := do
  match m with
  | .cell id => modify fun known => { known with cells := known.cells.setIfInBounds id content }
  | _ => return

/-- How deep objects stand inside each other at most. -/
def maxNesting : Nat := 1000

/-- An object that is inside itself, as it is written there. -/
def withinItself (m : Meaning) : Meaning :=
  let written :=
    match m with
    | .list _ => "[...]"
    | .dict _ => "\x7b...\x7d"
    | _ => "..."
  .object (Meaning.named m.className none written)

mutual

/-- An object without any cells, where some cells are around it. -/
def settledIn (known : Known) : Nat → List Nat → Meaning → Meaning
  | 0, _, _ => .absent
  | nesting + 1, around, m =>
      match m with
      | .cell id =>
          let content := known.inCell id
          if around.contains id then withinItself content
          else settledIn known nesting (id :: around) content
      | .tuple items => .tuple (settledRowIn known nesting around items)
      | .list items => .list (settledRowIn known nesting around items)
      | .dict entries => .dict (settledEntriesIn known nesting around entries)
      | .view cls whole => .view cls (settledIn known nesting around whole)
      | .slice low high step =>
          .slice (settledIn known nesting around low) (settledIn known nesting around high)
            (settledIn known nesting around step)
      | .method owner cls key kind => .method (settledIn known nesting around owner) cls key kind
      | .raised id cls arguments fields =>
          .raised id cls (settledRowIn known nesting around arguments)
            (fields.map fun (key, m) => (key, settledIn known nesting around m))
      | m => m

/-- A row of objects without any cells. -/
def settledRowIn (known : Known) : Nat → List Nat → List Meaning → List Meaning
  | 0, _, _ => []
  | nesting + 1, around, items => items.map (settledIn known nesting around)

/-- Entries of a dictionary without any cells. -/
def settledEntriesIn (known : Known) :
    Nat → List Nat → List (Meaning × Meaning) → List (Meaning × Meaning)
  | 0, _, _ => []
  | nesting + 1, around, entries =>
      entries.map fun (key, m) => (key, settledIn known nesting around m)

end

/-- An object without any cells in it. -/
def settled (m : Meaning) : Evaluation Meaning := do
  return settledIn (← get) maxNesting [] m

/-- A row of objects without any cells in them. -/
def settledRow (items : List Meaning) : Evaluation (List Meaning) := do
  let known ← get
  return items.map (settledIn known maxNesting [])

/-- Named objects without any cells in them. -/
def settledNames (entries : Names) : Evaluation Names := do
  let known ← get
  return entries.map fun (key, m) => (key, settledIn known maxNesting [] m)

/-- A new cell with something in it that knows the number of the cell. -/
def kept (make : Nat → Meaning) : Evaluation Meaning :=
  modifyGet fun known =>
    let id := known.cells.size
    (.cell id, { known with cells := known.cells.push (make id) })

mutual

/-- An object as it is handed on: in a new cell, unless it has one or is
never changed nor told apart from equal ones. -/
def new (m : Meaning) : Evaluation Meaning := do
  match m with
  | .tuple items => return .tuple (← newRow items)
  | .list items =>
      let items ← newRow items
      kept fun _ => .list items
  | .dict entries =>
      let entries ← newEntries entries
      kept fun _ => .dict entries
  | .set isFrozen items => kept fun _ => .set isFrozen items
  | .view cls whole =>
      let whole ← new whole
      kept fun _ => .view cls whole
  | .buffer cls row => kept fun _ => .buffer cls row
  | .slice low high step => kept fun _ => .slice low high step
  | .function 0 label scope formals body => kept fun id => .function id label scope formals body
  | .function id _ _ _ _ => return .cell id
  | .method owner cls key kind => kept fun _ => .method owner cls key kind
  | .raised 0 cls arguments fields =>
      let arguments ← newRow arguments
      kept fun id => .raised id cls arguments fields
  | .raised id _ _ _ => return .cell id
  | .lone 0 x fields => kept fun id => .lone id x fields
  | .lone id _ _ => return .cell id
  | .walk 0 cls label? walker => kept fun id => .walk id cls label? walker
  | .walk id _ _ _ => return .cell id
  | m => return m

/-- A row of objects as they are handed on. -/
def newRow : List Meaning → Evaluation (List Meaning)
  | [] => return []
  | m :: rest => do
      let m ← new m
      return m :: (← newRow rest)

/-- Entries of a dictionary as they are handed on. -/
def newEntries : List (Meaning × Meaning) → Evaluation (List (Meaning × Meaning))
  | [] => return []
  | (key, m) :: rest => do
      let m ← new m
      return (key, m) :: (← newEntries rest)

end

/-- A walk through some objects as it is handed on. -/
def newWalk (cls : String) (walker : Walker) : Evaluation Meaning := new (.walk 0 cls none walker)

/-- Makes a walk go on in another way. -/
def goOn (m : Meaning) (walker : Walker) : Evaluation Unit := do
  match ← opened m with
  | .walk id cls label? _ => change m (.walk id cls label? walker)
  | _ => return

-- ================================================================== frames

/-- The name of something that is made inside of some frames. -/
def labelIn (scope : List Nat) (label : String) : Evaluation String := do
  let known ← get
  match scope.head?.bind fun id => known.frames[id]? with
  | some frame => return frame.label ++ (if frame.isFunction then ".<locals>." else ".") ++ label
  | none => return label

/-- Some frames with a new one inside of them. -/
def enter (scope : List Nat) (frame : Frame) : Evaluation (List Nat) :=
  modifyGet fun known =>
    (known.frames.size :: scope, { known with frames := known.frames.push frame })

/-- Gives a name of a frame an object. -/
def assignIn (id : Nat) (key : String) (m : Meaning) : Evaluation Unit :=
  modify fun known =>
    { known with
      frames := known.frames.modify id fun frame =>
        { frame with
          bindings := (key, some m) :: frame.bindings.filter fun entry => entry.1 ≠ key } }

/-- Gives a name an object, in the call of a function around it or outside
of all frames. -/
def bind (scope : List Nat) (key : String) (m : Meaning) : Evaluation Unit := do
  let known ← get
  let isFunction (id : Nat) : Bool := (known.frames[id]?.map Frame.isFunction).getD false
  match scope.find? isFunction with
  | some id => assignIn id key m
  | none =>
      modify fun known =>
        { known with names := (key, m) :: known.names.filter fun entry => entry.1 ≠ key }

/-- The refusal of a name that gets its object later. -/
def unassigned (isInner : Bool) (key : String) : Problem :=
  .told .nameError
    (if isInner then
      "cannot access local variable '" ++ key ++ "' where it is not associated with a value"
    else
      "cannot access free variable '" ++ key
        ++ "' where it is not associated with a value in enclosing scope")

/-- What a name stands for in some frames, the innermost first, if it is a
name of one of them. -/
def lookUpIn (known : Known) (isInner : Bool) (scope : List Nat) (key : String) :
    Option (Except Problem Meaning) :=
  match scope with
  | [] => none
  | id :: outer =>
      match (known.frames[id]?.bind fun frame => frame.bindings.lookup key) with
      | some (some m) => some (.ok m)
      | some none => some (.error (unassigned isInner key))
      | none => lookUpIn known false outer key

-- =================================================================== loops

/-- What a step of something that goes on leads to. -/
inductive Stride where
  /-- There is nothing more. -/
  | done
  | skip
  | found (m : Meaning)

/-- How often something is repeated at most. -/
def maxRepetitions : Nat := 200000

/-- What is found first when steps are taken, unless they end before. -/
def firstFound (step : Evaluation Stride) : Nat → Evaluation (Option Meaning)
  | 0 => throw .tooDeep
  | repetitions + 1 => do
      match ← step with
      | .done => return none
      | .skip => firstFound step repetitions
      | .found m => return some m

/-- All that is found when steps are taken until they end. -/
def allFound (step : Evaluation (Option Meaning)) (found : List Meaning) :
    Nat → Evaluation (List Meaning)
  | 0 => throw .tooDeep
  | repetitions + 1 => do
      match ← step with
      | none => return found.reverse
      | some m => allFound step (m :: found) repetitions

/-- Steps lead to something that meets a condition before they end. -/
def anyFound (step : Evaluation (Option Meaning)) (meets : Meaning → Evaluation Bool) :
    Nat → Evaluation Bool
  | 0 => throw .tooDeep
  | repetitions + 1 => do
      match ← step with
      | none => return false
      | some m => if ← meets m then return true else anyFound step meets repetitions

end CommandConsole.Expression
