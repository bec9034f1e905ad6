/-
The types that expressions stand for.

A reference is a text in the place of a type: an expression that is read and
evaluated when the type is asked for. What it stands for may hold references
in its turn. An expression that stands for no type stands for the object
itself, in the place of a type.
-/
import CommandConsole.Expression.Caution
import CommandConsole.Expression.Evaluation
import CommandConsole.Expression.Reader

namespace CommandConsole

open Expression (Evaluation)

-- ================================================================= reading

/-- The text of an expression in the place of a type. One with a star stands
for the only item of a row. -/
def Expression.sourceOf (s : String) : String :=
  if s.startsWith "*" then "(" ++ s ++ ",)[0]" else s

/-- The expression in the place of a type that a text spells, and the
cautions about it. -/
def Expression.ofReference (s : String) : Except Problem Expression × List Caution :=
  if s = "" then (.error (.told .indexError "string index out of range"), [])
  else
    let source := sourceOf s
    match Expression.ofText source with
    | .ok (e, cautions) =>
        (.ok e, cautions ++ Expression.cautionsAbout (40 * (source.length + 2)) e)
    | .error .zeroCharacter =>
        (.error (.told .valueError "source code string cannot contain null bytes"), [])
    | .error .tooDeep => (.error Expression.tooDeepToRead, [])
    | .error (.malformed cautions) => (.error (.notExpression s), cautions)

-- ================================================================== unions

/-- An argument of a union: a text is an expression that is read later. -/
def Ty.asMember : Ty → Except Problem Ty
  | .value (.text s) => (Expression.ofReference s).1.map fun _ => .reference s
  | type => .ok type

/-- The union of some types, none of which is written with bars. -/
def Ty.uniting (types : List Ty) : Except Problem Ty := do
  if types.isEmpty then throw (.told .typeError "Cannot take a Union of no types.")
  let members ← types.mapM Ty.asMember
  match Ty.unhashableIn? (Ty.flattened members) with
  | some cls => throw (.unhashable cls)
  | none => return Ty.unionOf false members

-- ============================================================== references

namespace Reference

/-- How deep references may stand inside each other. -/
def maxDepth : Nat := 1000

/-- How deep calls may stand inside each other while an expression is
evaluated, beside its own parts. -/
def maxCallDepth : Nat := 1000

/-- Reads a reference. -/
def read (s : String) : Evaluation Expression := do
  let (e, cautions) := Expression.ofReference s
  Expression.warn cautions
  e

/-- Evaluates the expression that a text spells. -/
def evaluate (s : String) (e : Expression) : Evaluation Meaning := do
  Expression.settled (← Expression.evaluate (40 * (s.length + 2) + maxCallDepth) [] e)

/-- A row as the row that is kept in the place of a type: windows on bytes are
rows of numbers, and views of dictionaries that are like sets are sets. -/
def keptRow (m : Meaning) : Meaning :=
  match m with
  | .buffer "memoryview" row => .list (row.map fun n => .number (Int.ofNat n))
  | .view cls whole =>
      if Expression.isSetView m then .set false ((m.items?).getD []) else .view cls whole
  | m => m

/-- The type that a meaning stands for in the place of a type. A row is no
type, and an object that cannot be written would have no name as one. -/
def typeOf (m : Meaning) : Except Problem Ty :=
  match keptRow m with
  | .type t => .ok t
  | .object .none => .ok .absent
  | .object (.text s) => .ok (.reference s)
  | .tuple _ =>
      .error (.told .typeError
        ("Forward references must evaluate to types. Got "
          ++ String.ofList (m.written.toList.take 100) ++ "."))
  | m => if m.toObject.isSpellable then .ok (.value m.toObject) else .error .unspellable

/-- An argument of a type before it is resolved: a text spells an
expression, which is read at once. -/
def prepared (t : Ty) : Evaluation (Option (String × Expression) × Ty) := do
  match t with
  | .value (.text s) => return (some (s, ← read s), t)
  | t => return (none, t)

mutual

/-- The type that an expression stands for. One that stands inside itself
stays a reference. -/
def follow : Nat → List String → String → Expression → Evaluation Ty
  | 0, _, _, _ => throw .tooDeep
  | depth + 1, around, s, e => do
      if around.contains s then return .reference s
      let t ← typeOf (← evaluate s e)
      resolve depth (s :: around) t

/-- A type with the types that references in it stand for, where some texts
stand around it. -/
def resolve : Nat → List String → Ty → Evaluation Ty
  | 0, _, _ => throw .tooDeep
  | depth + 1, around, t => do
      match t with
      | .reference s => follow depth around s (← read s)
      | .generic origin arguments =>
          return .generic origin (← resolveAll depth around arguments)
      | .unpacked origin arguments =>
          return .unpacked origin (← resolveAll depth around arguments)
      | .union withBars members =>
          let found ← members.mapM (resolve depth around)
          if withBars then return Ty.unionOf true found else Ty.uniting found
      | t => return t

/-- The arguments of a type with the types that references in them stand
for. -/
def resolveAll : Nat → List String → List Ty → Evaluation (List Ty)
  | 0, _, _ => throw .tooDeep
  | depth + 1, around, arguments => do
      (← arguments.mapM prepared).mapM fun (reference?, t) =>
        match reference? with
        | some (s, e) => follow depth around s e
        | none => resolve depth around t

end

/-- The type that a text stands for in the place of a type. -/
def typeOfText (s : String) : Evaluation Ty := do follow maxDepth [] s (← read s)

/-- A type with the types that references in it stand for. -/
def typeIn (t : Ty) : Evaluation Ty := resolve maxDepth [] t

end Reference

/-- The type that a text stands for as an expression. -/
def Ty.ofReference (s : String) : Except Problem Ty :=
  (Expression.outcome (Reference.typeOfText s)).1

end CommandConsole
