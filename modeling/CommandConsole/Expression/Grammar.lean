/-
The grammar of expressions.

Each reader takes the tokens that it accounts for from the front of those
that are left, or fails. What binds tightly is read by a reader that those
of looser forms call: comparisons consist of operations, operations of signed
parts, these of powers, and powers of atoms with calls, brackets and points
after them. Every reader has one unit of fuel less than the one that calls
it.
-/
import CommandConsole.Expression.Template

namespace CommandConsole.Expression

/-- What is left to read, and the cautions about what was read. -/
structure Pending where
  tokens : List Token
  cautions : List Caution

/-- A reader of tokens. -/
abbrev Grammar := StateT Pending Option

namespace Grammar

-- ================================================================== tokens

/-- The next token, which stays. -/
def next? : Grammar (Option Token) := do return (← get).tokens.head?

/-- Takes the next token. -/
def skip : Grammar Unit := modify fun p => { p with tokens := p.tokens.drop 1 }

/-- The next token is a sign. -/
def isSign (s : String) (token? : Option Token) : Bool :=
  match token? with
  | some (.sign t) => s == t
  | _ => false

/-- The next token is a keyword. -/
def isKeyword (s : String) (token? : Option Token) : Bool :=
  match token? with
  | some (.keyword t) => s == t
  | _ => false

/-- Takes a sign if it comes next, and answers whether it did. -/
def sign? (s : String) : Grammar Bool := do
  if isSign s (← next?) then
    skip
    return true
  else return false

/-- Takes a keyword if it comes next, and answers whether it did. -/
def keyword? (s : String) : Grammar Bool := do
  if isKeyword s (← next?) then
    skip
    return true
  else return false

/-- Takes a sign, which comes next. -/
def sign (s : String) : Grammar Unit := do guard (← sign? s)

/-- Takes a keyword, which comes next. -/
def keyword (s : String) : Grammar Unit := do guard (← keyword? s)

/-- Takes a name, which comes next. -/
def name : Grammar String := do
  let some (.name s) ← next? | failure
  skip
  return s

/-- The name that comes next, if a certain sign comes after it. -/
def nameBefore? (s : String) : Grammar (Option String) := do
  match (← get).tokens with
  | .name n :: after :: _ => return if isSign s (some after) then some n else none
  | _ => return none

/-- Nothing of a row comes next, but what may follow it. -/
def atRowEnd : Grammar Bool := do
  match ← next? with
  | none => return true
  | some .lineEnd => return true
  | some (.sign s) => return [")", "]", "\x7d", "=", ":"].contains s
  | _ => return false

/-- A clause of a comprehension comes next. -/
def atClause : Grammar Bool := do
  let token ← next?
  return isKeyword "for" token || isKeyword "async" token

-- =============================================================== operators

/-- The operators by how loosely they bind, the loosest first. -/
def operatorAt? (level : Nat) (s : String) : Option Operator :=
  match level, s with
  | 0, "|" => some .either
  | 1, "^" => some .oneOf
  | 2, "&" => some .both
  | 3, "<<" => some .shiftLeft
  | 3, ">>" => some .shiftRight
  | 4, "+" => some .add
  | 4, "-" => some .subtract
  | 5, "*" => some .multiply
  | 5, "/" => some .divide
  | 5, "//" => some .floorDivide
  | 5, "%" => some .remainder
  | 5, "@" => some .matrixMultiply
  | _, _ => none

/-- The number of levels of operators. -/
def operatorLevels : Nat := 6

/-- Takes an operator of a level if one comes next. -/
def operator? (level : Nat) : Grammar (Option Operator) := do
  let some (.sign s) ← next? | return none
  match operatorAt? level s with
  | some op =>
      skip
      return some op
  | none => return none

/-- Takes a comparator if one comes next. -/
def comparator? : Grammar (Option Comparator) := do
  let signs : List (String × Comparator) :=
    [("==", .equal), ("!=", .unequal), ("<", .relation .less),
     ("<=", .relation .lessOrEqual), (">", .relation .greater),
     (">=", .relation .greaterOrEqual)]
  match (← get).tokens with
  | .sign s :: _ =>
      match signs.lookup s with
      | some c =>
          skip
          return some c
      | none => return none
  | .keyword "in" :: _ =>
      skip
      return some .inside
  | .keyword "not" :: .keyword "in" :: _ =>
      skip
      skip
      return some .outside
  | .keyword "is" :: .keyword "not" :: _ =>
      skip
      skip
      return some .distinct
  | .keyword "is" :: _ =>
      skip
      return some .identical
  | _ => return none

/-- Takes a sign before a part if one comes next. -/
def prefixSign? : Grammar (Option Sign) := do
  let signs : List (String × Sign) := [("-", .minus), ("+", .plus), ("~", .complement)]
  let some (.sign s) ← next? | return none
  match signs.lookup s with
  | some found =>
      skip
      return some found
  | none => return none

-- ================================================================= targets

/-- An expression can be given an object, and if it is a row, its parts can:
one of them at most takes all items that are left. -/
def isTarget : Nat → Expression → Bool
  | 0, _ => false
  | fuel + 1, e =>
      let areTargets (items : List Expression) : Bool :=
        (items.filter fun item => match item with | .starred _ => true | _ => false).length ≤ 1
          && items.all fun item =>
            match item with
            | .starred (.starred _) => false
            | .starred inner => isTarget fuel inner
            | item => isTarget fuel item
      match e with
      | .name s => s != "__debug__"
      | .attribute _ s => s != "__debug__"
      | .item _ _ => true
      | .tuple items => areTargets items
      | .list items => areTargets items
      | _ => false

/-- A row of parts as one expression: a single part stands for itself unless
a comma follows it. -/
def rowOf (parts : List Expression) (endsWithComma : Bool) : Expression :=
  match parts, endsWithComma with
  | [part], false => part
  | parts, _ => .tuple parts

/-- The formals of a function, of which those so far are by position only. -/
def positionalOnly (formals : List (Taking × String × Option Expression)) :
    List (Taking × String × Option Expression) :=
  formals.map fun (_, rest) => (.positionalOnly, rest)

/-- Where a reader stands in the formals of a function. -/
inductive Stage where
  | start
  /-- After the mark that the formals before it are by position only. -/
  | marked
  /-- After the mark that the formals behind it are by name only, one of
  which is due. -/
  | nameDue
  | named
  | done
deriving DecidableEq

/-- Texts that stand side by side, as one part of an expression. -/
def joinedTexts (parts : List Expression) : Option Expression :=
  let row? (part : Expression) : Option (List Nat) :=
    match part with
    | .constant (.bytes row) => some row
    | _ => none
  match parts.mapM row? with
  | some rows => some (.constant (.bytes rows.flatten))
  | none =>
      let text? (part : Expression) : Option String :=
        match part with
        | .constant (.text s) => some s
        | _ => none
      match parts.mapM text? with
      | some texts => some (.constant (.text (String.join texts)))
      | none =>
          if parts.any fun part => (row? part).isSome then none
          else
            some (.interpolated (parts.flatMap fun part =>
              match part with
              | .interpolated inner => inner
              | part => [part]))

mutual

-- ============================================================= loose forms

/-- Reads an expression that is no row. -/
def expression : Nat → Grammar Expression
  | 0 => failure
  | fuel + 1 => do
      if ← keyword? "lambda" then
        let formals ← formals fuel .start false []
        sign ":"
        return .function formals (← expression fuel)
      else
        let yes ← disjunction fuel
        if ← keyword? "if" then
          let test ← disjunction fuel
          keyword "else"
          return .conditional test yes (← expression fuel)
        else return yes

/-- Reads an expression that may give its object a name. -/
def namedExpression : Nat → Grammar Expression
  | 0 => failure
  | fuel + 1 => do
      match ← nameBefore? ":=" with
      | some s =>
          skip
          skip
          guard (s != "__debug__")
          return .binding s (← expression fuel)
      | none => expression fuel

/-- Reads a part of a row, which may be a row itself whose items are meant,
and may give its object a name if `canBind` says so. -/
def rowPart : Nat → Bool → Grammar Expression
  | 0, _ => failure
  | fuel + 1, canBind => do
      if ← sign? "*" then return .starred (← operation fuel 0)
      else if canBind then namedExpression fuel
      else expression fuel

/-- Reads the parts of a row after the first one, and answers whether a comma
ends it. -/
def moreParts : Nat → Bool → Grammar (List Expression × Bool)
  | 0, _ => failure
  | fuel + 1, canBind => do
      if ← sign? "," then
        if ← atRowEnd then return ([], true)
        let part ← rowPart fuel canBind
        let (parts, comma) ← moreParts fuel canBind
        return (part :: parts, comma)
      else return ([], false)

/-- Reads a row without brackets around it. -/
def openRow : Nat → Grammar Expression
  | 0 => failure
  | fuel + 1 => do
      let part ← rowPart fuel false
      let (parts, comma) ← moreParts fuel false
      return rowOf (part :: parts) comma

/-- Reads what a function gives away, after the keyword. -/
def yielded : Nat → Grammar Expression
  | 0 => failure
  | fuel + 1 => do
      if ← keyword? "from" then return .yielded true (← expression fuel)
      else if ← atRowEnd then return .yielded false none
      else return .yielded false (← openRow fuel)

/-- Reads parts with `or` in between. -/
def disjunction : Nat → Grammar Expression
  | 0 => failure
  | fuel + 1 => do
      let first ← conjunction fuel
      match ← moreOr fuel with
      | [] => return first
      | others => return .disjunction (first :: others)

/-- Reads the parts after `or`. -/
def moreOr : Nat → Grammar (List Expression)
  | 0 => failure
  | fuel + 1 => do
      if ← keyword? "or" then
        let part ← conjunction fuel
        return part :: (← moreOr fuel)
      else return []

/-- Reads parts with `and` in between. -/
def conjunction : Nat → Grammar Expression
  | 0 => failure
  | fuel + 1 => do
      let first ← inversion fuel
      match ← moreAnd fuel with
      | [] => return first
      | others => return .conjunction (first :: others)

/-- Reads the parts after `and`. -/
def moreAnd : Nat → Grammar (List Expression)
  | 0 => failure
  | fuel + 1 => do
      if ← keyword? "and" then
        let part ← inversion fuel
        return part :: (← moreAnd fuel)
      else return []

/-- Reads a part with `not` before it, or without. -/
def inversion : Nat → Grammar Expression
  | 0 => failure
  | fuel + 1 => do
      if ← keyword? "not" then return .negation (← inversion fuel)
      else
        let first ← operation fuel 0
        match ← moreComparisons fuel with
        | [] => return first
        | others => return .comparison first others

/-- Reads comparators with a part after each. -/
def moreComparisons : Nat → Grammar (List (Comparator × Expression))
  | 0 => failure
  | fuel + 1 => do
      match ← comparator? with
      | none => return []
      | some c =>
          let part ← operation fuel 0
          return (c, part) :: (← moreComparisons fuel)

-- ============================================================= tight forms

/-- Reads parts with operators of a level in between. -/
def operation : Nat → Nat → Grammar Expression
  | 0, _ => failure
  | fuel + 1, level => do
      if level = operatorLevels then signed fuel
      else
        let first ← operation fuel (level + 1)
        moreOperations fuel level first

/-- Reads operators of a level with a part after each. -/
def moreOperations : Nat → Nat → Expression → Grammar Expression
  | 0, _, _ => failure
  | fuel + 1, level, left => do
      match ← operator? level with
      | none => return left
      | some op =>
          let right ← operation fuel (level + 1)
          moreOperations fuel level (.operation op left right)

/-- Reads a part with a sign before it, or without. -/
def signed : Nat → Grammar Expression
  | 0 => failure
  | fuel + 1 => do
      match ← prefixSign? with
      | some sign => return .signed sign (← signed fuel)
      | none =>
          let base ← if ← keyword? "await" then (.awaited <$> primary fuel) else primary fuel
          if ← sign? "**" then return .operation .power base (← signed fuel)
          else return base

/-- Reads an atom with what follows it. -/
def primary : Nat → Grammar Expression
  | 0 => failure
  | fuel + 1 => do
      let e ← atom fuel
      trailers fuel e

/-- Reads points with a name, calls and brackets. -/
def trailers : Nat → Expression → Grammar Expression
  | 0, _ => failure
  | fuel + 1, e => do
      if ← sign? "." then trailers fuel (.attribute e (← name))
      else if ← sign? "(" then
        let arguments ← arguments fuel .plain []
        trailers fuel (.call e arguments)
      else if ← sign? "[" then
        let first ← index fuel
        let (parts, comma) ← moreIndices fuel
        sign "]"
        let isRow := match first with | .starred _ => true | _ => false
        trailers fuel (.item e (rowOf (first :: parts) (comma || isRow)))
      else return e

/-- Reads an object between brackets, or a range of positions. -/
def index : Nat → Grammar Expression
  | 0 => failure
  | fuel + 1 => do
      if ← sign? "*" then return .starred (← expression fuel)
      else if ← sign? ":" then slice fuel none
      else
        let isBinding := (← nameBefore? ":=").isSome
        let e ← namedExpression fuel
        if !isBinding && (← sign? ":") then slice fuel (some e) else return e

/-- Reads a range of positions after its first colon. -/
def slice : Nat → Option Expression → Grammar Expression
  | 0, _ => failure
  | fuel + 1, low => do
      let isEnd : Grammar Bool := do
        let token ← next?
        return isSign ":" token || isSign "," token || isSign "]" token
      let high ← if ← isEnd then pure none else some <$> expression fuel
      if ← sign? ":" then
        let step ← if ← isEnd then pure none else some <$> expression fuel
        return .slice low high step
      else return .slice low high none

/-- Reads the objects between brackets after the first one. -/
def moreIndices : Nat → Grammar (List Expression × Bool)
  | 0 => failure
  | fuel + 1 => do
      if ← sign? "," then
        if isSign "]" (← next?) then return ([], true)
        let part ← index fuel
        let (parts, comma) ← moreIndices fuel
        return (part :: parts, comma)
      else return ([], false)

/-- Reads the arguments of a call and the bracket after them. The latest one
was given in the way of `latest`: after a named argument none is plain, and
after the entries of a dictionary all are named. -/
def arguments : Nat → Passing → List (Passing × Expression) →
    Grammar (List (Passing × Expression))
  | 0, _, _ => failure
  | fuel + 1, latest, read => do
      if ← sign? ")" then return read
      let (passing, e) ← argument fuel latest
      if isKeyword "for" (← next?) || isKeyword "async" (← next?) then
        guard (read.isEmpty && passing = .plain)
        let clauses ← clauses fuel
        sign ")"
        return [(.plain, .comprehension .stream none e clauses)]
      else
        let all := read ++ [(passing, e)]
        if ← sign? "," then
          let kept := match latest, passing with
            | .spreadNamed, _ => Passing.spreadNamed
            | .named s, .spread => .named s
            | _, passing => passing
          arguments fuel kept all
        else
          sign ")"
          return all

/-- Reads one argument. -/
def argument : Nat → Passing → Grammar (Passing × Expression)
  | 0, _ => failure
  | fuel + 1, latest => do
      if ← sign? "**" then return (.spreadNamed, ← expression fuel)
      else if ← sign? "*" then
        guard (latest != .spreadNamed)
        return (.spread, ← expression fuel)
      else
        match ← nameBefore? "=" with
        | some s =>
            skip
            skip
            guard (s != "__debug__")
            return (.named s, ← expression fuel)
        | none =>
            guard (latest = .plain || latest = .spread)
            return (.plain, ← namedExpression fuel)

-- =================================================================== atoms

/-- Reads an atom. -/
def atom : Nat → Grammar Expression
  | 0 => failure
  | fuel + 1 => do
      match ← next? with
      | some (.name s) =>
          skip
          return .name s
      | some (.keyword "None") =>
          skip
          return .constant .none
      | some (.keyword "True") =>
          skip
          return .constant (.bool true)
      | some (.keyword "False") =>
          skip
          return .constant (.bool false)
      | some (.sign "...") =>
          skip
          return .constant .ellipsis
      | some (.sign "(") =>
          skip
          group fuel
      | some (.sign "[") =>
          skip
          listDisplay fuel
      | some (.sign "\x7b") =>
          skip
          braceDisplay fuel
      | some (.literal (.text _)) => texts fuel
      | some (.literal (.bytes _)) => texts fuel
      | some (.template _ _) => texts fuel
      | some (.literal x) =>
          skip
          return .constant x
      | _ => failure

/-- Reads texts that stand side by side. -/
def texts : Nat → Grammar Expression
  | 0 => failure
  | fuel + 1 => do
      let parts ← moreTexts fuel
      let some whole := joinedTexts parts | failure
      return whole

/-- Reads the texts that come next, one by one. -/
def moreTexts : Nat → Grammar (List Expression)
  | 0 => failure
  | fuel + 1 => do
      match ← next? with
      | some (.literal (.text s)) =>
          skip
          return .constant (.text s) :: (← moreTexts fuel)
      | some (.literal (.bytes row)) =>
          skip
          return .constant (.bytes row) :: (← moreTexts fuel)
      | some (.template isRaw body) =>
          skip
          let some (pieces, cautions) := Template.pieces isRaw body | failure
          modify fun p => { p with cautions := p.cautions ++ cautions }
          return .interpolated (← fields fuel pieces) :: (← moreTexts fuel)
      | _ => return []

/-- Reads what stands between parentheses, and the closing one. -/
def group : Nat → Grammar Expression
  | 0 => failure
  | fuel + 1 => do
      if ← sign? ")" then return .tuple []
      else if ← keyword? "yield" then
        let e ← yielded fuel
        sign ")"
        return e
      else
        let first ← rowPart fuel true
        if ← atClause then
          let e ← comprehension fuel .stream none first
          sign ")"
          return e
        let (parts, comma) ← moreParts fuel true
        sign ")"
        match first, parts, comma with
        | .starred _, [], false => failure
        | first, parts, comma => return rowOf (first :: parts) comma

/-- Reads what stands between brackets, and the closing one. -/
def listDisplay : Nat → Grammar Expression
  | 0 => failure
  | fuel + 1 => do
      if ← sign? "]" then return .list []
      else
        let first ← rowPart fuel true
        if ← atClause then
          let e ← comprehension fuel .list none first
          sign "]"
          return e
        let (parts, _) ← moreParts fuel true
        sign "]"
        return .list (first :: parts)

/-- Reads what stands between braces, and the closing one. -/
def braceDisplay : Nat → Grammar Expression
  | 0 => failure
  | fuel + 1 => do
      if ← sign? "\x7d" then return .dict []
      else if isSign "**" (← next?) then
        let entries ← entries fuel
        return .dict entries
      else
        let isItem := (← nameBefore? ":=").isSome || isSign "*" (← next?)
        let first ← rowPart fuel true
        if !isItem && (← sign? ":") then
          let value ← expression fuel
          if ← atClause then
            let e ← comprehension fuel .dict (some first) value
            sign "\x7d"
            return e
          else if ← sign? "," then return .dict ((some first, value) :: (← entries fuel))
          else
            sign "\x7d"
            return .dict [(some first, value)]
        else setDisplay fuel first

/-- Reads a set after its first item. -/
def setDisplay : Nat → Expression → Grammar Expression
  | 0, _ => failure
  | fuel + 1, first => do
      if ← atClause then
        let e ← comprehension fuel .set none first
        sign "\x7d"
        return e
      let (parts, _) ← moreParts fuel true
      sign "\x7d"
      return .set (first :: parts)

/-- Reads entries of a dictionary and the closing brace. -/
def entries : Nat → Grammar (List (Option Expression × Expression))
  | 0 => failure
  | fuel + 1 => do
      if ← sign? "\x7d" then return []
      let entry ←
        if ← sign? "**" then (fun e => (none, e)) <$> operation fuel 0
        else
          let key ← expression fuel
          sign ":"
          let value ← expression fuel
          pure (some key, value)
      if ← sign? "," then return entry :: (← entries fuel)
      else
        sign "\x7d"
        return [entry]

-- ========================================================== comprehensions

/-- Reads the clauses of a comprehension with a certain element. -/
def comprehension : Nat → Collection → Option Expression → Expression → Grammar Expression
  | 0, _, _, _ => failure
  | fuel + 1, collection, key, element => do
      match element with
      | .starred _ => failure
      | element => return .comprehension collection key element (← clauses fuel)

/-- Reads clauses of a comprehension. -/
def clauses : Nat → Grammar (List (Bool × Expression × Expression × List Expression))
  | 0 => failure
  | fuel + 1 => do
      let isLater ← keyword? "async"
      keyword "for"
      let target ← targets fuel
      keyword "in"
      let row ← disjunction fuel
      let conditions ← conditions fuel
      let clause := (isLater, target, row, conditions)
      if ← atClause then return clause :: (← clauses fuel) else return [clause]

/-- Reads the conditions of a clause. -/
def conditions : Nat → Grammar (List Expression)
  | 0 => failure
  | fuel + 1 => do
      if ← keyword? "if" then
        let condition ← disjunction fuel
        return condition :: (← conditions fuel)
      else return []

/-- Reads what a clause gives objects to. -/
def targets : Nat → Grammar Expression
  | 0 => failure
  | fuel + 1 => do
      let first ← target fuel
      let (parts, comma) ← moreTargets fuel
      let whole := rowOf (first :: parts) comma
      guard (isTarget fuel whole)
      return whole

/-- Reads one target. -/
def target : Nat → Grammar Expression
  | 0 => failure
  | fuel + 1 => do
      if ← sign? "*" then return .starred (← primary fuel) else primary fuel

/-- Reads targets after the first one. -/
def moreTargets : Nat → Grammar (List Expression × Bool)
  | 0 => failure
  | fuel + 1 => do
      if ← sign? "," then
        if isKeyword "in" (← next?) then return ([], true)
        let part ← target fuel
        let (parts, comma) ← moreTargets fuel
        return (part :: parts, comma)
      else return ([], false)

-- =============================================================== functions

/-- Reads the formals of a function up to the colon. One with a default has
been read if `hasDefault` says so. -/
def formals : Nat → Stage → Bool → List (Taking × String × Option Expression) →
    Grammar (List (Taking × String × Option Expression))
  | 0, _, _, _ => failure
  | fuel + 1, stage, hasDefault, read => do
      if isSign ":" (← next?) then
        guard (stage != .nameDue)
        return read
      else if ← sign? "/" then
        guard (stage = .start && !read.isEmpty)
        moreFormals fuel .marked hasDefault (positionalOnly read)
      else if ← sign? "**" then
        guard (stage != .nameDue && stage != .done)
        let s ← name
        moreFormals fuel .done hasDefault (read ++ [(.namedRest, s, none)])
      else if ← sign? "*" then
        guard (stage = .start || stage = .marked)
        if isSign "," (← next?) then moreFormals fuel .nameDue hasDefault read
        else
          let s ← name
          moreFormals fuel .named hasDefault (read ++ [(.rest, s, none)])
      else
        guard (stage != .done)
        let s ← name
        let standard ← if ← sign? "=" then some <$> expression fuel else pure none
        if stage = .start || stage = .marked then
          guard (standard.isSome || !hasDefault)
          moreFormals fuel stage standard.isSome (read ++ [(.positional, s, standard)])
        else moreFormals fuel .named hasDefault (read ++ [(.named, s, standard)])

/-- Reads the formals of a function after one of them. -/
def moreFormals : Nat → Stage → Bool → List (Taking × String × Option Expression) →
    Grammar (List (Taking × String × Option Expression))
  | 0, _, _, _ => failure
  | fuel + 1, stage, hasDefault, read => do
      if ← sign? "," then formals fuel stage hasDefault read
      else
        guard (isSign ":" (← next?) && stage != .nameDue)
        return read

-- =============================================================== templates

/-- Reads the expressions in the pieces of a text. -/
def fields : Nat → List Template.Piece → Grammar (List Expression)
  | 0, _ => failure
  | _ + 1, [] => return []
  | fuel + 1, .text s :: rest => do
      return .constant (.text s) :: (← fields fuel rest)
  | fuel + 1, .field source shown conversion format :: rest => do
      let (some tokens, cautions) := Token.listOf ('(' :: source ++ [')']) | failure
      let outer ← get
      modify fun _ => ⟨tokens, outer.cautions ++ cautions⟩
      let e ← openRow fuel
      guard (← next?).isNone
      modify fun p => { p with tokens := outer.tokens }
      let layout ← fields fuel format
      let others ← fields fuel rest
      let whole := Expression.formatted e conversion layout :: others
      return match shown with
        | some s => .constant (.text s) :: whole
        | none => whole

end

/-- Reads an expression and the line ends after it. -/
def whole (fuel : Nat) : Grammar Expression := do
  let first ← expression fuel
  let (parts, comma) ← plainParts fuel
  guard ((← get).tokens.all fun token => match token with | .lineEnd => true | _ => false)
  return rowOf (first :: parts) comma
where
  /-- Reads the parts of a row after the first one, of which none is a row
  whose items are meant. -/
  plainParts : Nat → Grammar (List Expression × Bool)
    | 0 => failure
    | fuel + 1 => do
        if ← sign? "," then
          if ← atRowEnd then return ([], true)
          let part ← expression fuel
          let (parts, comma) ← plainParts fuel
          return (part :: parts, comma)
        else return ([], false)

end Grammar

end CommandConsole.Expression
