/-
Finding what an expression stands for.

Parts are evaluated from left to right. A name stands for what a function or
a comprehension around it gives it, for what a part of the expression gave
it before, or for what it stands for everywhere.

What walks through objects goes on step by step, when somebody asks for the
next object.
-/
import CommandConsole.Expression.Argument
import CommandConsole.Expression.Caution
import CommandConsole.Expression.Comparison
import CommandConsole.Expression.Method
import CommandConsole.Expression.Reader
import CommandConsole.Expression.Walking

namespace CommandConsole.Expression

-- =================================================================== names

/-- What a name stands for. -/
def lookUp (scope : List Nat) (key : String) : Evaluation Meaning := do
  let known ← get
  match lookUpIn known true scope key, known.names.lookup key, builtin? key with
  | some result, _, _ => result
  | none, some m, _ => return m
  | none, none, some m => return m
  | none, none, none => throw (.undefinedName key)

/-- Whether an object counts as true. One that only tells that an operation
is missing is asked in vain. -/
def countsAsTrue (m : Meaning) : Evaluation Bool := do
  let m ← settled m
  if m.className = "NotImplementedType" then
    warn [.deprecated "NotImplemented should not be used in a boolean context"]
  return m.truthy

/-- An entry of a row of arguments with names, unless the name is taken. -/
def addNamed (callee : Meaning) (entries : Names) (key : String) (m : Meaning) :
    Except Problem Names :=
  if entries.any fun entry => entry.1 = key then
    .error (mistaken
      (calledName callee ++ " got multiple values for keyword argument '" ++ key ++ "'"))
  else .ok (entries ++ [(key, m)])

/-- The named arguments that the entries of a dictionary are. -/
def addEntries (callee m : Meaning) (entries : Names) : Except Problem Names :=
  match m.entries? with
  | some found =>
      found.foldlM (fun entries (key, m) =>
        match key with
        | .object (.text s) => addNamed callee entries s m
        | _ => .error (mistaken "keywords must be strings")) entries
  | none =>
      .error (mistaken
        (calledName callee ++ " argument after ** must be a mapping, not "
          ++ Problem.longName m.className))

-- ============================================================== operations

/-- An operator between two objects. -/
def operateOn (op : Operator) (left right : Meaning) : Evaluation Meaning := do
  let a ← opened left
  let b ← opened right
  match rowOf? op a b with
  | some row => new (← row)
  | none =>
      let a ← settled left
      let b ← settled right
      match op, a with
      | .remainder, .object (.text s) => interpolate s b
      | .remainder, .object (.bytes row) => return .object (.bytes (← interpolateBytes row b))
      | .remainder, .buffer "bytearray" row =>
          new (.buffer "bytearray" (← interpolateBytes row b))
      | op, a => new (← operate op a b)

/-- An attribute of an object. -/
def attributeIn (owner : Meaning) (key : String) : Evaluation Meaning := do
  let m ←
    match ← opened owner with
    | .raised id cls arguments fields => pure (Meaning.raised id cls arguments fields)
    | .slice low high step => pure (.slice low high step)
    | .function id label scope formals body => pure (.function id label scope formals body)
    | _ => settled owner
  new (← attributeOf owner m key)

/-- What stands at an index of an object. -/
def itemIn (owner index : Meaning) : Evaluation Meaning := do
  new (← itemOf (← opened owner) (← settled index))

/-- Adds entries to a dictionary. -/
def addAll (entries : Entries) (more : List (Meaning × Meaning)) : Evaluation Entries :=
  more.foldlM (fun entries (key, m) => do
    return Meaning.withEntry (← (← settled key).asKey) m entries) entries

/-- The expression that a text in a file spells. Blanks before it do not
count. -/
def readSource (file s : String) : Evaluation Expression := do
  let cs := s.toList.dropWhile fun c => c = ' ' || c = '\t'
  match ofText (String.ofList cs) with
  | .ok (e, cautions) => do
      warn cautions
      return e
  | .error .zeroCharacter =>
      throw (.told .valueError "source code string cannot contain null bytes")
  | .error .tooDeep => throw tooDeepToRead
  | .error (.malformed cautions) => do
      warn cautions
      throw (.told .syntaxError
        ("invalid syntax (" ++ file ++ ", line " ++ (if cs.isEmpty then "0" else "1") ++ ")"))

/-- The expression that an argument of a routine spells or keeps. -/
def readArgument (routine : String) (m : Meaning) : Evaluation Expression := do
  match m, m.byteRow?, sourceKept? m with
  | .object (.text s), _, _ | _, _, some s => readSource "<string>" s
  | _, some row, _ => readSource "<string>" (String.ofList (row.map Char.ofNat))
  | _, none, none =>
      throw (mistaken (routine ++ "() arg 1 must be a string, bytes or code object"))

/-- The names outside of all frames that an argument of a routine gives. -/
def namesFrom (m : Meaning) : Names :=
  ((m.entries?).getD []).filterMap fun (key, m) =>
    match key with
    | .object (.text s) => some (s, m)
    | _ => none

/-- An object is asked for items between brackets. -/
def isSubscripted (m : Meaning) : Bool :=
  match m with
  | .type t => !t.isClass
  | m =>
      ["str", "bytes", "bytearray", "memoryview", "list", "tuple", "dict", "mappingproxy",
        "range"].contains m.className

/-- Refuses what cannot tell what names stand for: `globals`, and `locals`. -/
def requireSpaces (spaces : List Meaning) : Except Problem Unit := do
  let isAbsent (m : Meaning) : Bool := m.className = "NoneType"
  if let some m := spaces[1]? then
    if !isAbsent m && !isSubscripted m then throw (mistaken "locals must be a mapping")
  if let some m := spaces[0]? then
    if !isAbsent m && m.className ≠ "dict" then
      throw (mistaken (if isSubscripted m
        then "globals must be a real dict; try eval(expr, {}, mapping)"
        else "globals must be a dict"))

/-- Evaluates where names outside of all frames stand for something else. -/
def withNames {α : Type} (names : Names) (found : Evaluation α) : Evaluation α := do
  let before := (← get).names
  let restore : Evaluation Unit := modify fun known => { known with names := before }
  modify fun known => { known with names := names }
  let result ← tryCatch found fun p => do
    restore
    throw p
  restore
  return result

/-- Evaluates so that what happens after the end of a walk is its end. -/
def untilEnd (found : Evaluation (Option Meaning)) : Evaluation (Option Meaning) :=
  tryCatch found fun p => if p.kind = .stopIteration then return none else throw p

/-- Evaluates so that the end of another walk is no end of this one. -/
def withoutEnd (found : Evaluation (Option Meaning)) : Evaluation (Option Meaning) :=
  tryCatch found fun p =>
    if p.kind = .stopIteration then
      throw (.told .runtimeError "generator raised StopIteration")
    else throw p

mutual

/-- What an expression stands for inside of some frames. -/
def evaluate : Nat → List Nat → Expression → Evaluation Meaning
  | 0, _, _ => throw .tooDeep
  | fuel + 1, scope, e => do
      match e with
      | .constant x => return .object x
      | .name s => lookUp scope s
      | .interpolated parts =>
          let texts ← settledRow (← parts.mapM (evaluate fuel scope))
          return .text (String.join (texts.map Meaning.display))
      | .formatted e conversion format =>
          let m ← evaluate fuel scope e
          let layout ← settledRow (← format.mapM (evaluate fuel scope))
          return .text (← laidOut (← converted conversion (← settled m))
            (String.join (layout.map Meaning.display)))
      | .tuple items => return .tuple (← evaluateRow fuel false scope items)
      | .list items => new (.list (← evaluateRow fuel false scope items))
      | .set items =>
          let found ← setOf (← settledRow (← evaluateRow fuel true scope items))
          let isWritten := items.length > 2 && items.all fun e => (constant? fuel e).isSome
          new (.set false (if isWritten then writtenKeys found else found))
      | .dict entries => new (.dict (← evaluateEntries fuel scope [] [] entries))
      | .starred e => evaluate fuel scope e
      | .signed sign e =>
          let m ← settled (← evaluate fuel scope e)
          new (.ofObject (← Object.operateAlone sign m.toObject))
      | .negation e => return .flag (!(← countsAsTrue (← evaluate fuel scope e)))
      | .operation op left right =>
          let a ← evaluate fuel scope left
          let b ← evaluate fuel scope right
          operateOn op (← besideView fuel op a b) (← besideView fuel op b a)
      | .conjunction parts => evaluateUntil fuel scope false parts
      | .disjunction parts => evaluateUntil fuel scope true parts
      | .comparison first others =>
          evaluateChain fuel scope (← evaluate fuel scope first) others
      | .conditional test yes no =>
          if ← countsAsTrue (← evaluate fuel scope test) then evaluate fuel scope yes
          else evaluate fuel scope no
      | .attribute e key => attributeIn (← evaluate fuel scope e) key
      | .item e index =>
          let m ← evaluate fuel scope e
          itemIn m (← evaluate fuel scope index)
      | .slice low high step =>
          let low ← low.mapM (evaluate fuel scope)
          let high ← high.mapM (evaluate fuel scope)
          let step ← step.mapM (evaluate fuel scope)
          new (.slice (low.getD .absent) (high.getD .absent) (step.getD .absent))
      | .call callee arguments =>
          let m ← evaluate fuel scope callee
          let whole ← settled m
          let positional := arguments.filter fun (passing, _) =>
            passing = .plain || passing = .spread
          let items ← evaluateArguments fuel scope whole positional
          let entries ← evaluateNamed fuel scope whole [] arguments
          callWith fuel scope m items entries
      | .function formals body =>
          let label ← labelIn scope "<lambda>"
          let formals ← formals.mapM fun (taking, key, standard) => do
            match standard with
            | some e => return (taking, key, some (← evaluate fuel scope e))
            | none => return (taking, key, none)
          new (.function 0 label scope formals body)
      | .comprehension collection key element clauses =>
          comprehend fuel scope collection key element clauses
      | .binding key e =>
          let m ← evaluate fuel scope e
          bind scope key m
          return m
      | .awaited e => evaluate fuel scope e
      | .yielded whole value =>
          let m ← value.mapM (evaluate fuel scope)
          let gifts ← if whole then meet fuel (m.getD .absent) else pure [m.getD .absent]
          modify fun known => { known with given := gifts.reverse ++ known.given }
          return .absent

/-- What the items of a row stand for, or of a set. -/
def evaluateRow : Nat → Bool → List Nat → List Expression → Evaluation (List Meaning)
  | 0, _, _, _ => throw .tooDeep
  | fuel + 1, isSet, scope, items => do
      let rows ← items.mapM fun e =>
        match e with
        | .starred e => do
            let m ← evaluate fuel scope e
            let cls := (← opened m).className
            if isSet || (← isWalkable m) then meet fuel m
            else
              throw (mistaken ("Value after * must be an iterable, not " ++ Problem.longName cls))
        | e => do return [← evaluate fuel scope e]
      return rows.flatten

/-- The entries of a dictionary. Those side by side are evaluated before any
of them is added. -/
def evaluateEntries : Nat → List Nat → Entries → List (Meaning × Meaning) →
    List (Option Expression × Expression) → Evaluation Entries
  | 0, _, _, _, _ => throw .tooDeep
  | _ + 1, _, entries, pending, [] => addAll entries pending
  | fuel + 1, scope, entries, pending, (some key, e) :: rest => do
      let k ← evaluate fuel scope key
      let m ← evaluate fuel scope e
      evaluateEntries fuel scope entries (pending ++ [(k, m)]) rest
  | fuel + 1, scope, entries, pending, (none, e) :: rest => do
      let entries ← addAll entries pending
      let m ← opened (← evaluate fuel scope e)
      match m.entries? with
      | some more => evaluateEntries fuel scope (Meaning.unitedEntries entries more) [] rest
      | none =>
          throw (mistaken ("'" ++ Problem.longName m.className ++ "' object is not a mapping"))

/-- The first of some parts that counts as true or as false, or the last
one. -/
def evaluateUntil : Nat → List Nat → Bool → List Expression → Evaluation Meaning
  | 0, _, _, _ => throw .tooDeep
  | _ + 1, _, _, [] => return .absent
  | fuel + 1, scope, _, [e] => evaluate fuel scope e
  | fuel + 1, scope, wanted, e :: rest => do
      let m ← evaluate fuel scope e
      if (← countsAsTrue m) = wanted then return m else evaluateUntil fuel scope wanted rest

/-- Whether all comparisons of a row hold, each between two neighbours. -/
def evaluateChain : Nat → List Nat → Meaning → List (Comparator × Expression) →
    Evaluation Meaning
  | 0, _, _, _ => throw .tooDeep
  | _ + 1, _, _, [] => return .flag true
  | fuel + 1, scope, left, (c, e) :: rest => do
      let right ← evaluate fuel scope e
      if ← compareWith fuel c left right then evaluateChain fuel scope right rest
      else return .flag false

/-- A comparison of two objects. -/
def compareWith : Nat → Comparator → Meaning → Meaning → Evaluation Bool
  | 0, _, _, _ => throw .tooDeep
  | fuel + 1, c, left, right => do
      match c, ← opened right with
      | .identical, _ => return left.identical right
      | .distinct, _ => return !left.identical right
      | .inside, .walk _ _ _ _ => isMet fuel left right
      | .outside, .walk _ _ _ _ => return !(← isMet fuel left right)
      | c, _ => compare c (← settled left) (← settled right)

/-- A walk meets an object, or one that equals it. -/
def isMet : Nat → Meaning → Meaning → Evaluation Bool
  | 0, _, _ => throw .tooDeep
  | fuel + 1, m, walk => do
      let walk ← begin fuel walk
      let isMeant (other : Meaning) : Evaluation Bool := do
        return m.identical other || (← settled m).same (← settled other)
      anyFound (step fuel walk) isMeant maxRepetitions

/-- What the arguments of a call without names stand for. -/
def evaluateArguments : Nat → List Nat → Meaning → List (Passing × Expression) →
    Evaluation (List Meaning)
  | 0, _, _, _ => throw .tooDeep
  | fuel + 1, scope, callee, [(.spread, e)] => do
      let m ← evaluate fuel scope e
      if ← isWalkable m then meet fuel m
      else
        throw (mistaken (calledName callee ++ " argument after * must be an iterable, not "
          ++ Problem.longName (← opened m).className))
  | fuel + 1, scope, _, arguments =>
      evaluateRow fuel false scope (arguments.map fun (passing, e) =>
        if passing = .spread then .starred e else e)

/-- What the named arguments of a call stand for. -/
def evaluateNamed : Nat → List Nat → Meaning → Names → List (Passing × Expression) →
    Evaluation Names
  | 0, _, _, _, _ => throw .tooDeep
  | _ + 1, _, _, entries, [] => return entries
  | fuel + 1, scope, callee, entries, (passing, e) :: rest => do
      match passing with
      | .named key =>
          let m ← evaluate fuel scope e
          evaluateNamed fuel scope callee (← addNamed callee entries key m) rest
      | .spreadNamed =>
          let m ← opened (← evaluate fuel scope e)
          evaluateNamed fuel scope callee (← addEntries callee m entries) rest
      | _ => evaluateNamed fuel scope callee entries rest

/-- Gives the names in a target the parts of an object. -/
def assign : Nat → List Nat → Expression → Meaning → Evaluation Unit
  | 0, _, _, _ => throw .tooDeep
  | fuel + 1, scope, target, m => do
      match target with
      | .name s =>
          match scope with
          | id :: _ => assignIn id s m
          | [] => bind scope s m
      | .starred t => assign fuel scope t m
      | .tuple targets | .list targets =>
          if !(← isWalkable m) then
            throw (mistaken
              ("cannot unpack non-iterable " ++ Problem.longName (← opened m).className
                ++ " object"))
          for (t, m) in ← distributed targets (← meet fuel m) do
            assign fuel scope t (← new m)
      | _ => return

/-- A new walk through an object, or the object itself if it is a walk. -/
def begin : Nat → Meaning → Evaluation Meaning
  | 0, _ => throw .tooDeep
  | _ + 1, m => do
      match walkThrough m (← opened m) with
      | .ok (some (cls, walker)) => newWalk cls walker
      | .ok none => return m
      | .error p => throw p

/-- The next object that a walk meets. -/
def step : Nat → Meaning → Evaluation (Option Meaning)
  | 0, _ => throw .tooDeep
  | fuel + 1, m => do
      let .walk _ cls _ walker ← opened m | return none
      match walker with
      | .over [] ending =>
          goOn m (.over [] none)
          match ending with
          | some p => throw p
          | none => return none
      | .over (first :: rest) ending =>
          goOn m (.over rest ending)
          return some (← new first)
      | .along row place size? =>
          match ← itemAlong (← opened row) place size? with
          | some other =>
              goOn m (.along row (place + 1) size?)
              return some (← new other)
          | none =>
              goOn m (.over [] none)
              return none
      | .counting next last pace =>
          if (0 < pace && next < last) || (pace < 0 && last < next) then
            goOn m (.counting (next + pace) last pace)
            return some (.number next)
          else return none
      | .mapped f sources =>
          untilEnd do
            match ← stepBeside fuel false 0 sources with
            | some items => return some (← callWith fuel [] f items [])
            | none => return none
      | .filtered f source => untilEnd (firstFound (sift fuel f source) maxRepetitions)
      | .beside sources isStrict =>
          match sources, ← stepBeside fuel isStrict 0 sources with
          | _ :: _, some items => return some (.tuple items)
          | _, _ => return none
      | .numbered next source =>
          match ← step fuel source with
          | some other =>
              goOn m (.numbered (next + 1) source)
              return some (.tuple [.number next, other])
          | none => return none
      | .asked f stop =>
          untilEnd do
            let made ← callWith fuel [] f [] []
            if (← settled made).same (← settled stop) then
              goOn m (.over [] none)
              return none
            else return some made
      | .made _ _ _ _ _ =>
          let found := firstFound (advance fuel m) maxRepetitions
          if cls = "generator" then withoutEnd found else found
      | .given scope body =>
          let before := (← get).given
          modify fun known => { known with given := [] }
          let ending ← tryCatch (do
            let _ ← withoutEnd (do return some (← evaluate fuel scope body))
            return none) fun p => return some p
          let gifts := (← get).given.reverse
          modify fun known => { known with given := before }
          goOn m (.over gifts ending)
          step fuel m

/-- The next objects that some walks meet side by side, unless one of them
ends. -/
def stepBeside : Nat → Bool → Nat → List Meaning → Evaluation (Option (List Meaning))
  | 0, _, _, _ => throw .tooDeep
  | _ + 1, _, _, [] => return some []
  | fuel + 1, isStrict, index, source :: rest => do
      match ← step fuel source with
      | some other =>
          let others? ← stepBeside fuel isStrict (index + 1) rest
          return others?.map (other :: ·)
      | none =>
          if isStrict then
            if 0 < index then throw (unequalLengths "shorter" index)
            for (other, i) in rest.zipIdx do
              if (← step fuel other).isSome then throw (unequalLengths "longer" (i + 1))
          return none

/-- A step of a walk that meets the objects of another one that a function
accepts. -/
def sift : Nat → Meaning → Meaning → Evaluation Stride
  | 0, _, _ => throw .tooDeep
  | fuel + 1, f, source => do
      match ← step fuel source with
      | none => return .done
      | some other =>
          let test ←
            match f with
            | .object .none => pure other
            | f => callWith fuel [] f [other] []
          return if ← countsAsTrue test then .found other else .skip

/-- A step of a walk that meets the elements of a comprehension. -/
def advance : Nat → Meaning → Evaluation Stride
  | 0, _ => throw .tooDeep
  | fuel + 1, m => do
      match ← opened m with
      | .walk _ _ _ (.made scope key element clauses ((i, walk) :: outer)) =>
          match ← step fuel walk, clauses[i]? with
          | some other, some (_, target, _, conditions) =>
              assign fuel scope target other
              let isMeant ← conditions.allM fun e => do countsAsTrue (← evaluate fuel scope e)
              if !isMeant then return .skip
              match clauses[i + 1]?, key with
              | some (_, _, row, _), _ =>
                  let walk' ← begin fuel (← evaluate fuel scope row)
                  goOn m (.made scope key element clauses ((i + 1, walk') :: (i, walk) :: outer))
                  return .skip
              | none, some key =>
                  let k ← evaluate fuel scope key
                  return .found (.tuple [k, ← evaluate fuel scope element])
              | none, none => return .found (← evaluate fuel scope element)
          | _, _ =>
              goOn m (.made scope key element clauses outer)
              return .skip
      | _ => return .done

/-- All objects that a walk through something meets. -/
def meet : Nat → Meaning → Evaluation (List Meaning)
  | 0, _ => throw .tooDeep
  | fuel + 1, m => do
      match ← opened m with
      | .walk _ _ _ _ =>
          let walk ← begin fuel m
          allFound (step fuel walk) [] maxRepetitions
      | content => newRow (← content.items)

/-- An operand beside a view that is like a set, which walks through it. -/
def besideView : Nat → Operator → Meaning → Meaning → Evaluation Meaning
  | 0, _, _, _ => throw .tooDeep
  | fuel + 1, op, m, other => do
      match ← opened m, isSetView (← opened other) && (Object.operateSets op [] []).isSome with
      | .walk _ _ _ _, true => return .tuple (← meet fuel m)
      | _, _ => return m

/-- What a comprehension makes. -/
def comprehend : Nat → List Nat → Collection → Option Expression → Expression →
    List (Bool × Expression × Expression × List Expression) → Evaluation Meaning
  | 0, _, _, _, _, _ => throw .tooDeep
  | fuel + 1, scope, collection, key, element, clauses => do
      match clauses with
      | [] => return .absent
      | (isLater, _, row, _) :: _ =>
          let m ← evaluate fuel scope row
          if isLater then
            let cls := (← opened m).className
            if cls ≠ "async_generator" then throw (notLater row cls)
          let walk ← if isLater then pure m else begin fuel m
          let label ← labelIn scope collection.label
          let names := (targetsOf (.comprehension collection key element clauses)).flatMap
            (namesIn (fuel + 1))
          let inner ← enter scope ⟨label, false, names.map fun key => (key, none)⟩
          let walker : Walker := .made inner key element clauses [(0, walk)]
          let waits := waits (fuel + 1) (.comprehension collection key element clauses)
          let cls :=
            match collection with
            | .stream => if waits then "async_generator" else "generator"
            | _ => ""
          let found ← new (.walk 0 cls (some label) walker)
          let next := step fuel found
          match collection with
          | .stream => return found
          | .list => new (.list (← allFound next [] maxRepetitions))
          | .set =>
              let key : Evaluation (Option Meaning) := do
                match ← next with
                | some m => return some (← (← settled m).asKey)
                | none => return none
              new (.set false (← setOf (← allFound key [] maxRepetitions)))
          | .dict =>
              let entry : Evaluation (Option Meaning) := do
                match ← next with
                | some (.tuple [k, m]) => return some (.tuple [← (← settled k).asKey, m])
                | _ => return none
              let rows ← allFound entry [] maxRepetitions
              new (.dict (Meaning.unitedEntries [] (rows.filterMap Meaning.pair?)))

/-- What a call makes of some arguments. -/
def callWith : Nat → List Nat → Meaning → List Meaning → Names → Evaluation Meaning
  | 0, _, _, _, _ => throw .tooDeep
  | fuel + 1, scope, callee, arguments, entries => do
      match ← opened callee with
      | .type (.generic origin _) => construction fuel (.builtin origin) arguments entries
      | .type t =>
          if t.isClass then construction fuel t arguments entries
          else throw (.notCallable callee.className)
      | .function _ label outer formals body =>
          let names ← bindArguments label formals arguments entries
          let later := (namesBound fuel body).filter fun key =>
            !(names.any fun entry => entry.1 = key)
          let bindings := names.map (fun (key, m) => (key, some m))
            ++ later.map fun key => (key, none)
          let inner ← enter outer ⟨label, true, bindings⟩
          if givesAway fuel body then new (.walk 0 "generator" (some label) (.given inner body))
          else evaluate fuel inner body
      | .method owner home key kind => callMethod fuel scope owner home key kind arguments entries
      | .descriptor home key kind =>
          let (owner, rest) ← ownerIn home key kind arguments (← settledRow (arguments.take 1))
          callMethod fuel scope owner home key kind rest entries
      | .object (.sealed "builtin_function_or_method" (some key) _ _) =>
          callRoutine fuel scope key arguments entries
      | .lone _ (.sealed "staticmethod" _ _ _) fields =>
          callWith fuel scope ((fields.lookup "__func__").getD .absent) arguments entries
      | .lone _ (.sealed "method" _ _ _) fields =>
          let self := (fields.lookup "__self__").getD .absent
          callWith fuel scope ((fields.lookup "__func__").getD .absent) (self :: arguments) entries
      | m => throw (.notCallable m.className)

/-- What a routine that is built in makes of some arguments. -/
def callRoutine : Nat → List Nat → String → List Meaning → Names → Evaluation Meaning
  | 0, _, _, _, _ => throw .tooDeep
  | fuel + 1, scope, key, arguments, entries => do
      let first := arguments.headD .absent
      match key with
      | "eval" =>
          refuseNames key entries
          requireBetween key 1 3 arguments.length
          let spaces ← (arguments.drop 1).mapM opened
          requireSpaces spaces
          let e ← readArgument key (← settled first)
          match spaces with
          | [] | [.object .none] => evaluate fuel (scope.take 1) e
          | globals :: others =>
              let names := namesFrom globals
              let more := ((others.head?).map namesFrom).getD []
              withNames (more ++ names) (evaluate fuel [] e)
      | "exec" =>
          let signature : Signature :=
            { name := key, formals := ["", "", "", "closure"], required := 1, positions := 3 }
          let places ← signature.fill arguments entries
          for (place, wanted) in (places.drop 1).zip
              ["exec() globals must be a dict, not ", "locals must be a mapping or None, not "] do
            let m ← opened (place.getD .absent)
            if m.className ≠ "NoneType" && m.entries?.isNone then
              throw (mistaken (wanted ++ Problem.longName m.className))
          let source ← settled first
          let found? ← tryCatch (do return some (← readArgument key source)) fun p =>
            if p.kind = .syntaxError then return none else throw p
          match found? with
          | some e =>
              let _ ← evaluate fuel (scope.take 1) e
              return .absent
          | none => return .absent
      | "compile" =>
          let m ← routine key (← settledRow arguments) (← settledNames entries)
          match sourceKept? m, ← (arguments[2]?).mapM settled with
          | some s, some (.object (.text "eval")) =>
              let _ ← readSource (← settled (arguments.getD 1 .absent)).display s
              return m
          | _, _ => return m
      | "all" | "any" =>
          refuseNames key entries
          let walk ← begin fuel (← onlyOne key arguments)
          let isMeant (m : Meaning) : Evaluation Bool := do
            return (← countsAsTrue m) = (key = "any")
          let found ← anyFound (step fuel walk) isMeant maxRepetitions
          return .flag (found = (key = "any"))
      | "iter" =>
          refuseNames key entries
          requireBetween key 1 2 arguments.length
          match arguments with
          | [f, stop] =>
              if isCallable (← settled f) then newWalk "callable_iterator" (.asked f stop)
              else throw (mistaken "iter(v, w): v must be callable")
          | _ => begin fuel first
      | "next" =>
          refuseNames key entries
          requireBetween key 1 2 arguments.length
          requireWalk (← opened first)
          match ← step fuel first, arguments[1]? with
          | some m, _ => return m
          | none, some spare => return spare
          | none, none => throw (.told .stopIteration "")
      | "sorted" =>
          requireBetween key 1 1 arguments.length
          let items ← meet fuel first
          sorted fuel items entries
      | "max" | "min" =>
          requireCompared key arguments.length entries
          let items ←
            match arguments with
            | [m] => meet fuel m
            | arguments => pure arguments
          bestOf key (← compared fuel items (entries.lookup "key")) (entries.lookup "default")
      | "getattr" | "hasattr" =>
          refuseNames key entries
          requireBetween key 2 (if key = "getattr" then 3 else 2) arguments.length
          let name ← attributeName (← settled (arguments.getD 1 .absent))
          let found? ← tryCatch (do return Except.ok (← attributeIn first name)) fun p =>
            if p.kind = .attributeError then return .error p else throw p
          match found?, key, arguments[2]? with
          | found?, "hasattr", _ => return .flag found?.toOption.isSome
          | .ok m, _, _ => return m
          | .error _, _, some spare => return spare
          | .error p, _, none => throw p
      | key =>
          let wholes ← shares fuel (key = "sum") arguments
          new (← routine key (wholes.map Shared.whole) (← settledNames entries))

/-- Some objects as they are given to an operation. The first of them is
walked through if the operation does so, and the others too if they are
walks. -/
def shares : Nat → Bool → List Meaning → Evaluation (List Shared)
  | 0, _, _ => throw .tooDeep
  | fuel + 1, isWalking, arguments =>
      arguments.mapM fun m => do
        match ← opened m, isWalking with
        | .walk _ "async_generator" _ _, _ => return ⟨m, ← opened m, ← settled m⟩
        | .walk id cls label? _, true =>
            let items ← meet fuel m
            return ⟨m, .walk id cls label? (.over items none),
              .walk id cls label? (.over (← settledRow items) none)⟩
        | content, _ => return ⟨m, content, ← settled m⟩

/-- Some items behind what they are compared by. -/
def compared : Nat → List Meaning → Option Meaning → Evaluation (List Compared)
  | 0, _, _ => throw .tooDeep
  | fuel + 1, items, f? => do
      let keys ←
        match f? with
        | none | some (.object .none) => pure items
        | some f => items.mapM fun m => callWith fuel [] f [m] []
      return (← settledRow keys).zip items

/-- A list of some items in order. -/
def sorted : Nat → List Meaning → Names → Evaluation Meaning
  | 0, _, _ => throw .tooDeep
  | fuel + 1, items, entries => do
      requireOptions "sort" entries
      let isDescending ←
        match entries.lookup "reverse" with
        | some m => do pure ((← wholeNumber (← settled m)) != 0)
        | none => pure false
      new (.list (← sortedItems isDescending (← compared fuel items (entries.lookup "key"))))

/-- The entries of a dictionary that an argument gives: those of another one,
or pairs. -/
def entriesIn : Nat → Meaning → Evaluation Entries
  | 0, _ => throw .tooDeep
  | fuel + 1, m => do
      match (← opened m).entries? with
      | some entries => return entries
      | none =>
          let rows ← (← meet fuel m).zipIdx.mapM fun (row, i) => do
            if !(← isWalkable row) then
              throw (mistaken ("cannot convert dictionary update sequence element #" ++ toString i
                ++ " to a sequence"))
            match ← meet fuel row with
            | [k, m] => return (← (← settled k).asKey, m)
            | items =>
                throw (.told .valueError
                  ("dictionary update sequence element #" ++ toString i ++ " has length "
                    ++ toString items.length ++ "; 2 is required"))
          return Meaning.unitedEntries [] rows

/-- Entries of a dictionary with those that some arguments give. -/
def updated : Nat → Entries → String → List Meaning → Names → Evaluation Entries
  | 0, _, _, _, _ => throw .tooDeep
  | fuel + 1, entries, key, arguments, named => do
      requireBetween key 0 1 arguments.length
      let more ←
        match arguments with
        | [] => pure []
        | m :: _ => entriesIn fuel m
      let others := named.map fun (key, m) => (Meaning.text key, m)
      return Meaning.unitedEntries (Meaning.unitedEntries entries more) others

/-- What a class makes of some arguments. -/
def construction : Nat → Ty → List Meaning → Names → Evaluation Meaning
  | 0, _, _, _ => throw .tooDeep
  | fuel + 1, t, arguments, entries => do
      let name :=
        match t with
        | .host _ _ => ""
        | t => (t.name?).getD ""
      let items : Evaluation (List Meaning) := do
        refuseNames name entries
        match ← oneOrNone name arguments with
        | some m => meet fuel m
        | none => return []
      match name with
      | "list" => new (.list (← items))
      | "tuple" => return .tuple (← items)
      | "set" | "frozenset" =>
          let isFrozen : Bool := name = "frozenset"
          let row ← settledRow (← items)
          let whole ← settled (arguments.headD .absent)
          new (.set isFrozen (← setOfItems isFrozen whole row))
      | "dict" => new (.dict (← updated fuel [] name arguments entries))
      | "bool" =>
          refuseNames name entries
          match ← oneOrNone name arguments with
          | some m => return .flag (← countsAsTrue m)
          | none => return .flag false
      | "enumerate" =>
          let (m, start) ← enumerated arguments entries
          let start ← wholeNumber (← settled start)
          newWalk name (.numbered start (← begin fuel m))
      | "zip" =>
          let signature : Signature := { name, formals := ["strict"] }
          let isStrict ←
            match (← signature.fill [] entries).head?.join with
            | some m => countsAsTrue m
            | none => pure false
          newWalk name (.beside (← arguments.mapM (begin fuel)) isStrict)
      | "map" =>
          refuseNames name entries
          match arguments with
          | f :: row :: rows => newWalk name (.mapped f (← (row :: rows).mapM (begin fuel)))
          | _ => throw (mistaken "map() must have at least two arguments.")
      | "filter" =>
          refuseNames name entries
          requireBetween name 2 2 arguments.length
          newWalk name
            (.filtered (arguments.headD .absent) (← begin fuel (arguments.getD 1 .absent)))
      | "reversed" =>
          refuseNames name entries
          requireBetween name 1 1 arguments.length
          let (cls, walker) ← backwards (← opened (arguments.headD .absent))
          newWalk cls walker
      | _ =>
          let wholes ← shares fuel (name = "bytes" || name = "bytearray") arguments
          new (← construct t (wholes.map Shared.whole) (← settledNames entries))

/-- What an operation of an object makes of some arguments. -/
def callMethod : Nat → List Nat → Meaning → String → String → AttributeKind → List Meaning →
    Names → Evaluation Meaning
  | 0, _, _, _, _, _, _, _ => throw .tooDeep
  | fuel + 1, scope, owner, home, key, kind, arguments, entries => do
      let first := arguments.headD .absent
      let noArguments : Except Problem Unit :=
        if kind = .slot then requireSlotCount home key arguments.length
        else if arguments.isEmpty then .ok () else .error (takesNone home key arguments.length)
      match home, key with
      | _, "__call__" => callWith fuel scope owner arguments entries
      | _, "__bool__" =>
          noArguments
          return .flag (← countsAsTrue owner)
      | "property", "__get__" =>
          requireBetween "" 1 2 arguments.length
          let fields ← fieldsOf owner
          match fields.lookup "fget", ← opened first with
          | _, .object .none => throw (mistaken "__get__(None, None) is invalid")
          | some (.object .none), m =>
              throw (.told .attributeError ("property of '" ++ Problem.longName m.className
                ++ "' object has no getter"))
          | f?, _ => callWith fuel scope (f?.getD .absent) [first] []
      | _, "__iter__" =>
          noArguments
          begin fuel owner
      | _, "__next__" =>
          noArguments
          match ← step fuel owner with
          | some m => return m
          | none => throw (.told .stopIteration "")
      | _, "__reversed__" =>
          noArguments
          let (cls, walker) ← backwards (← opened owner)
          newWalk cls walker
      | _, "__length_hint__" =>
          noArguments
          return .number (← lengthLeft owner)
      | "generator", "send" =>
          if arguments.length ≠ 1 then throw (takesOne home key arguments.length)
          requireSendable (← opened owner) (← settled first)
          match ← step fuel owner with
          | some m => return m
          | none => throw (.told .stopIteration "")
      | "generator", "close" =>
          noArguments
          goOn owner (.over [] none)
          return .absent
      | "generator", "throw" =>
          requireBetween key 1 3 arguments.length
          throw (thrown (← settledRow arguments))
      | "list", "sort" =>
          if arguments.length + entries.length > 2 then
            throw (mistaken ("sort() takes at most 2 "
              ++ (if arguments.isEmpty then "keyword " else "") ++ "arguments ("
              ++ toString (arguments.length + entries.length) ++ " given)"))
          if !arguments.isEmpty then throw (mistaken "sort() takes no positional arguments")
          let items ← meet fuel owner
          change owner (← opened (← sorted fuel items entries))
          return .absent
      | "dict", "update" =>
          let own := ((← opened owner).entries?).getD []
          change owner (.dict (← updated fuel own key arguments entries))
          return .absent
      | "dict", "__ior__" =>
          noArguments
          let own := ((← opened owner).entries?).getD []
          change owner (.dict (Meaning.unitedEntries own (← entriesIn fuel first)))
          return owner
      | "list", "__init__" | "dict", "__init__" | "set", "__init__" | "bytearray", "__init__" =>
          let made ← construction fuel (classOf (← settled owner)) arguments entries
          change owner (← opened made)
          return .absent
      | home, key =>
          let whole ← settled owner
          let shared : Shared := ⟨owner, ← opened owner, whole⟩
          let isOfView := isSetView (← opened owner) && (operatorOf? key).isSome
          let isWalking := kind ≠ .slot && walksThrough key || key = "__iadd__" || isOfView
          let given ← shares fuel isWalking arguments
          let entries ← settledNames entries
          let effect ←
            match kind, whole with
            | .ofClass, .type t => do
                pure (Effect.making (← classMethod t home key given entries))
            | .slot, _ => slot shared home key given entries
            | _, _ => method shared home key given entries
          if let some content := effect.left? then change owner content
          new effect.result

end

end CommandConsole.Expression
