/-
What the grammar alone does not say about expressions: where a function may
give objects away, where the result of something that goes on is awaited,
and which names may be given to an object.
-/
import CommandConsole.Expression.Grammar

namespace CommandConsole.Expression

/-- The parts of an expression that are evaluated where it is: all of them,
but for the body of a function and for what a comprehension makes of each
item. -/
def parts : Expression → List Expression
  | .constant _ => []
  | .name _ => []
  | .interpolated parts => parts
  | .formatted e _ format => e :: format
  | .tuple items => items
  | .list items => items
  | .set items => items
  | .dict entries => entries.flatMap fun (key, value) => key.toList ++ [value]
  | .starred e => [e]
  | .signed _ e => [e]
  | .negation e => [e]
  | .operation _ left right => [left, right]
  | .conjunction parts => parts
  | .disjunction parts => parts
  | .comparison first others => first :: others.map (·.2)
  | .conditional test yes no => [test, yes, no]
  | .attribute e _ => [e]
  | .item e index => [e, index]
  | .slice low high step => low.toList ++ high.toList ++ step.toList
  | .call callee arguments => callee :: arguments.map (·.2)
  | .function formals _ => formals.filterMap (·.2.2)
  | .comprehension _ _ _ clauses => (clauses.head?.map fun (_, _, row, _) => row).toList
  | .binding _ value => [value]
  | .awaited e => [e]
  | .yielded _ value => value.toList

/-- The body of a function. -/
def bodyOf : Expression → List Expression
  | .function _ body => [body]
  | _ => []

/-- What a comprehension evaluates for each item. -/
def innerParts : Expression → List Expression
  | .comprehension _ key element clauses =>
      key.toList ++ element :: (clauses.flatMap fun clause => clause.2.1 :: clause.2.2.2)
        ++ (clauses.drop 1).map (fun clause => clause.2.2.1)
  | _ => []

/-- Expressions stand inside each other in an expression more than some times. -/
def isDeeperThan : Nat → Expression → Bool
  | 0, _ => true
  | n + 1, e => (parts e ++ innerParts e ++ bodyOf e).any (isDeeperThan n)

/-- The names in an expression, as far as they are looked up where it
is. -/
def namesIn : Nat → Expression → List String
  | 0, _ => []
  | fuel + 1, e =>
      match e with
      | .name s => [s]
      | e => (parts e).flatMap (namesIn fuel)

/-- The targets of a comprehension. -/
def targetsOf : Expression → List Expression
  | .comprehension _ _ _ clauses => clauses.map fun (_, target, _, _) => target
  | _ => []

/-- The names that parts of an expression give to objects where it is. -/
def namesBound : Nat → Expression → List String
  | 0, _ => []
  | fuel + 1, e =>
      let inner := (parts e ++ innerParts e).flatMap (namesBound fuel)
      match e with
      | .binding s _ => s :: inner
      | _ => inner

/-- A function gives away objects before it is done. -/
def givesAway : Nat → Expression → Bool
  | 0, _ => false
  | fuel + 1, e =>
      match e with
      | .yielded _ _ => true
      | e => (parts e ++ innerParts e).any (givesAway fuel)

/-- A comprehension waits for something: for the items of a row, for a
result, or for a comprehension in it that does and makes its collection at
once. -/
def waits : Nat → Expression → Bool
  | 0, _ => false
  | fuel + 1, e =>
      match e with
      | .comprehension _ _ _ clauses =>
          clauses.any (·.1) || (innerParts e).any (waitsInside fuel)
      | _ => false
where
  /-- Something in a part of a comprehension is waited for. -/
  waitsInside : Nat → Expression → Bool
    | 0, _ => false
    | fuel + 1, e =>
        match e with
        | .awaited _ => true
        | .comprehension .stream _ _ _ => (parts e).any (waitsInside fuel)
        | .comprehension _ _ _ _ => waits fuel e || (parts e).any (waitsInside fuel)
        | e => (parts e).any (waitsInside fuel)

/-- Where an expression stands. -/
structure Scope where
  /-- It is the body of a function, or a part of it. -/
  inFunction : Bool
  /-- It is evaluated for each item of a comprehension. -/
  inComprehension : Bool
  /-- It is a part of what a comprehension gets its items from or gives them
  to. -/
  inLoop : Bool
  /-- The names in the targets of the comprehensions around it. -/
  loops : List String

/-- Where an expression stands that is a part of nothing. -/
def Scope.outermost : Scope := ⟨false, false, false, []⟩

/-- No text stands in a row twice. -/
def allDistinct (texts : List String) : Bool :=
  match texts with
  | [] => true
  | s :: rest => !rest.contains s && allDistinct rest

/-- An expression may stand where it does. -/
def isSound : Nat → Scope → Expression → Bool
  | 0, _, _ => false
  | fuel + 1, scope, e =>
      match e with
      | .yielded _ _ => scope.inFunction && !scope.inComprehension && inPlace fuel scope e
      | .awaited _ => scope.inComprehension && inPlace fuel scope e
      | .binding s _ => !scope.inLoop && !scope.loops.contains s && inPlace fuel scope e
      | .call _ arguments =>
          let names := arguments.filterMap fun (passing, _) =>
            match passing with
            | .named s => some s
            | _ => none
          allDistinct names && inPlace fuel scope e
      | .function formals body =>
          let names := formals.map fun formal => formal.2.1
          allDistinct names && !names.contains "__debug__" && inPlace fuel scope e
            && isSound fuel { scope with inFunction := true, inComprehension := false, loops := [] }
              body
      | .comprehension collection key element clauses =>
          let targets := targetsOf e
          let inside : Scope :=
            { scope with
              inComprehension := true
              loops := targets.flatMap (namesIn fuel) ++ scope.loops }
          let looping : Scope := { inside with inLoop := true }
          (collection = .stream || scope.inComprehension || !waits fuel e)
            && (parts e).all (isSound fuel { scope with inLoop := true })
            && (targets ++ (clauses.drop 1).map (fun clause => clause.2.2.1)).all
              (isSound fuel looping)
            && (key.toList ++ element :: clauses.flatMap (fun clause => clause.2.2.2)).all
              (isSound fuel inside)
      | e => inPlace fuel scope e
where
  /-- The parts of an expression that are evaluated where it is may stand
  there. -/
  inPlace (fuel : Nat) (scope : Scope) (e : Expression) : Bool :=
    (parts e).all (isSound fuel scope)

end CommandConsole.Expression
