/-
How the arguments of a call become the names in the body of a function.

Arguments fill the formals in order, named ones those of their names. What
is left over goes to the formals that take the rest, and a formal without an
argument takes its default.
-/
import CommandConsole.Expression.Attribute
import CommandConsole.Expression.Signature

namespace CommandConsole.Expression

/-- A formal of a function: how it takes its argument, its name and its
default. -/
abbrev FormalOf := Taking × String × Option Meaning

/-- A formal takes one argument by its position. -/
def takesPosition (f : FormalOf) : Bool :=
  f.1 = .positional || f.1 = .positionalOnly

/-- The formals that a named argument may be meant for. -/
def takesName (f : FormalOf) : Bool := f.1 = .positional || f.1 = .named

/-- A refusal of the arguments of a function with a name. -/
def unfit (label message : String) : Problem := mistaken (label ++ "() " ++ message)

/-- The names that some named arguments give their objects, beside what is
left over for a formal that takes the rest. -/
def placeNamed (label : String) (formals : List FormalOf) :
    List (String × Meaning) → List (String × Meaning) → List (String × Meaning) →
    Except Problem (List (String × Meaning) × List (String × Meaning))
  | [], filled, spare => .ok (filled, spare)
  | (key, m) :: rest, filled, spare =>
      if formals.any fun f => takesName f && f.2.1 = key then
        if filled.any fun entry => entry.1 = key then
          .error (unfit label ("got multiple values for argument '" ++ key ++ "'"))
        else placeNamed label formals rest ((key, m) :: filled) spare
      else if formals.any fun f => f.1 = .namedRest then
        placeNamed label formals rest filled (spare ++ [(key, m)])
      else if formals.any fun f => f.1 = .positionalOnly && f.2.1 = key then
        .error (unfit label
          ("got some positional-only arguments passed as keyword arguments: '" ++ key ++ "'"))
      else .error (unfit label ("got an unexpected keyword argument '" ++ key ++ "'"))

/-- The refusal of more arguments than there are positions. -/
def tooManyPositions (label : String) (formals : List FormalOf) (given : Nat) : Problem :=
  let positions := formals.filter takesPosition
  let due := (positions.filter fun f => f.2.2.isNone).length
  let most := positions.length
  let count :=
    if due = most then toString most else "from " ++ toString due ++ " to " ++ toString most
  unfit label ("takes " ++ count ++ " positional argument"
    ++ (if due = most && most = 1 then "" else "s")
    ++ " but " ++ toString given ++ (if given = 1 then " was" else " were") ++ " given")

/-- The refusal of a call without some arguments. -/
def lacking (label kind : String) (names : List String) : Problem :=
  unfit label ("missing " ++ toString names.length ++ " required " ++ kind ++ " argument"
    ++ (if names.length = 1 then "" else "s") ++ ": " ++ Problem.namesPhrase names)

/-- The names in the body of a function that is called with some
arguments. -/
def bindArguments (label : String) (formals : List FormalOf) (arguments : List Meaning)
    (entries : List (String × Meaning)) : Except Problem (List (String × Meaning)) := do
  let positions := formals.filter takesPosition
  let first := (positions.map (·.2.1)).zip arguments
  let (filled, spare) ← placeNamed label formals entries first []
  let restName? := (formals.find? fun f => f.1 = .rest).map (·.2.1)
  if arguments.length > positions.length && restName?.isNone then
    throw (tooManyPositions label formals arguments.length)
  let isMissing (f : FormalOf) : Bool :=
    f.2.2.isNone && !(filled.any fun entry => entry.1 = f.2.1)
  let missing := (positions.filter isMissing).map (·.2.1)
  if !missing.isEmpty then throw (lacking label "positional" missing)
  let missing := (formals.filter fun f => f.1 = .named && isMissing f).map (·.2.1)
  if !missing.isEmpty then throw (lacking label "keyword-only" missing)
  let rest := restName?.map fun key => (key, Meaning.tuple (arguments.drop positions.length))
  let others := ((formals.find? fun f => f.1 = .namedRest).map (·.2.1)).map fun key =>
    (key, Meaning.dict (spare.map fun (k, m) => (.text k, m)))
  let defaults := formals.filterMap fun f => f.2.2.map fun m => (f.2.1, m)
  return filled ++ rest.toList ++ others.toList ++ defaults

/-- What is called, in a message about its arguments: by its name if it has
one. -/
def calledName (m : Meaning) : String :=
  match m with
  | .method (.type t) _ key .ofClass => (t.name?).getD "" ++ "." ++ key ++ "()"
  | .method owner _ key _ => plainName owner.className ++ "." ++ key ++ "()"
  | .descriptor cls key _ => cls ++ "." ++ key ++ "()"
  | .function _ label _ _ _ => label ++ "()"
  | .type (.generic origin _) => origin.label ++ "()"
  | m =>
      match m.toObject.label? with
      | some label => label ++ "()"
      | none => m.display

end CommandConsole.Expression
