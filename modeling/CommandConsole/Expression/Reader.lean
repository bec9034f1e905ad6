/-
Reading expressions from texts.
-/
import CommandConsole.Expression.Scope

namespace CommandConsole

/-- Why a text is no expression. -/
inductive Expression.Refusal where
  /-- The text holds a character of code zero. -/
  | zeroCharacter
  /-- The text does not follow the rules of expressions. There are cautions
  about what was read of it. -/
  | malformed (cautions : List Caution)
  /-- Too many expressions stand inside each other. -/
  | tooDeep

/-- A caution about a number, which is read before the rules of expressions
are looked at. -/
def Caution.isEarly (c : Caution) : Bool := c = .doubtful c.message

/-- How many expressions may stand inside each other. -/
def Expression.maxDepth : Nat := 2930

/-- The refusal of an expression in which too many others stand inside each
other. -/
def Expression.tooDeepToRead : Problem :=
  .told .recursionError "maximum recursion depth exceeded during compilation"

/-- The expression that a text spells, and the cautions about it. -/
def Expression.ofText (s : String) : Except Expression.Refusal (Expression × List Caution) :=
  let cs := s.toList
  if cs.contains (Char.ofNat 0) then .error .zeroCharacter
  else
    let (tokens?, cautions) := Expression.Token.listOf cs
    let fuel := 40 * (cs.length + 2)
    match tokens?.bind fun tokens => (Expression.Grammar.whole fuel).run ⟨tokens, cautions⟩ with
    | none => .error (.malformed (cautions.filter Caution.isEarly))
    | some (e, pending) =>
        if Expression.isDeeperThan Expression.maxDepth e then .error .tooDeep
        else if Expression.isSound fuel .outermost e then .ok (e, pending.cautions)
        else .error (.malformed pending.cautions)

end CommandConsole
