/-
Walks through objects: how they begin, and what is asked of them.

A walk through a list follows the list as it changes. A walk through a
dictionary or a set refuses to go on when its size has changed.
-/
import CommandConsole.Expression.State

namespace CommandConsole.Expression

-- =============================================================== beginning

/-- The class of a walk through an object. -/
def walkClass (m : Meaning) : String :=
  match m with
  | .object (.text s) =>
      if s.toList.all fun c => c.toNat < 128 then "str_ascii_iterator" else "str_iterator"
  | .dict _ => "dict_keyiterator"
  | .view cls _ => String.ofList (cls.toList.take (cls.length - 1)) ++ "iterator"
  | .set _ _ => "set_iterator"
  | .object (.view _) => "dict_keyiterator"
  | .buffer "memoryview" _ => "memory_iterator"
  | .type _ => "generic_alias_iterator"
  | .object (.range first last pace) =>
      let isSmall (n : Int) : Bool := -2 ^ 63 ≤ n && n < 2 ^ 63
      if isSmall first && isSmall last && isSmall pace then "range_iterator"
      else "longrange_iterator"
  | m => m.className ++ "_iterator"

/-- A walk through an object, where `m` is in the cell that `owner` is; none if
the object is a walk itself. -/
def walkThrough (owner m : Meaning) : Except Problem (Option (String × Walker)) :=
  let cls := walkClass m
  match m with
  | .walk _ "async_generator" _ _ => .error (.notIterable "async_generator")
  | .walk _ _ _ _ => .ok none
  | .list _ | .buffer _ _ => .ok (some (cls, .along owner 0 none))
  | .dict _ | .set false _ | .view _ _ => .ok (some (cls, .along owner 0 m.size?))
  | .object (.range first last pace) => .ok (some (cls, .counting first last pace))
  | m => m.items.map fun items => some (cls, .over items none)

/-- The class of a walk through an object from its end. -/
def backwardsClass (m : Meaning) : String :=
  match m with
  | .list _ => "list_reverseiterator"
  | .dict _ => "dict_reversekeyiterator"
  | .view "dict_keys" _ => "dict_reversekeyiterator"
  | .view "dict_values" _ => "dict_reversevalueiterator"
  | .view _ _ => "dict_reverseitemiterator"
  | .object (.view _) => "dict_reversekeyiterator"
  | _ => "reversed"

/-- A walk through an object from its end. -/
def backwards (m : Meaning) : Except Problem (String × Walker) :=
  let refused : Problem :=
    mistaken ("'" ++ Problem.longName m.className ++ "' object is not reversible")
  match m with
  | .object (.range first last pace) =>
      let size := Number.progressionSize first last pace
      .ok (walkClass m, .counting (first + (size - 1) * pace) (first - pace) (-pace))
  | .walk _ _ _ _ | .set _ _ | .type _ => .error refused
  | m =>
      match m.items? with
      | some items => .ok (backwardsClass m, .over items.reverse none)
      | none => .error refused

/-- An object can be walked through. -/
def isWalkable (m : Meaning) : Evaluation Bool := do
  return (walkThrough m (← opened m)).toOption.isSome

/-- Refuses what is no walk. -/
def requireWalk (m : Meaning) : Except Problem Unit :=
  let refused : Except Problem Unit :=
    .error (mistaken ("'" ++ Problem.longName m.className ++ "' object is not an iterator"))
  match m with
  | .walk _ cls _ _ => if cls = "async_generator" then refused else .ok ()
  | _ => refused

/-- The refusal to wait for the objects of a row that gives them at once. A
list of constants is a row of another class. -/
def notLater (row : Expression) (cls : String) : Problem :=
  let isConstant (e : Expression) : Bool :=
    match e with
    | .constant _ => true
    | _ => false
  let cls :=
    match row with
    | .list items => if items.all isConstant then "tuple" else cls
    | _ => cls
  mistaken ("'async for' requires an object with __aiter__ method, got " ++ Problem.longName cls)

-- ================================================================ going on

/-- What a walk along an object meets at a place of it. -/
def itemAlong (m : Meaning) (place : Nat) (size? : Option Nat) :
    Except Problem (Option Meaning) :=
  if size?.isSome && size? ≠ m.size? then
    .error (.told .runtimeError
      (match m with
        | .set _ _ => "Set changed size during iteration"
        | _ => "dictionary changed size during iteration"))
  else .ok (m.items?.bind fun items => items[place]?)

/-- The number of objects that a walk still meets, as far as it is told. -/
def lengthLeft (m : Meaning) : Evaluation Int := do
  match ← opened m with
  | .walk _ _ _ (.over items _) => return items.length
  | .walk _ _ _ (.along row place _) => return (((← opened row).size?).getD 0) - place
  | .walk _ _ _ (.counting next last pace) => return Number.progressionSize next last pace
  | _ => return 0

/-- The refusal of walks side by side of which one is shorter or longer than
those before it. -/
def unequalLengths (relation : String) (index : Nat) : Problem :=
  .told .valueError
    ("zip() argument " ++ toString (index + 1) ++ " is " ++ relation ++ " than argument"
      ++ (if index = 1 then " 1" else "s 1-" ++ toString index))

/-- Refuses to send an object into a function that has not given anything
away yet. -/
def requireSendable (walk m : Meaning) : Except Problem Unit :=
  match walk, m with
  | _, .object .none => .ok ()
  | .walk _ _ _ (.given _ _), _ | .walk _ _ _ (.made _ _ _ _ [(0, _)]), _ =>
      .error (mistaken "can't send non-None value to a just-started generator")
  | _, _ => .ok ()

/-- What is thrown into a function that gives objects away. -/
def thrown (arguments : List Meaning) : Problem :=
  let told (cls message : String) : Problem :=
    if cls = "StopIteration" then .told .runtimeError "generator raised StopIteration"
    else .told (.named cls) message
  let isMeant (t : Ty) : Bool := BuiltinClass.comesFrom ((t.name?).getD "") "BaseException"
  let isTold (m : Meaning) : Bool := m.className ≠ "NoneType"
  match arguments with
  | [] => .atLeast "throw" 1 0
  | first :: rest =>
      if ((rest[1]?).map isTold).getD false then
        mistaken "throw() third argument must be a traceback object"
      else
        match first with
        | .raised _ cls found fields =>
            if ((rest.head?).map isTold).getD false then
              mistaken "instance exception may not have a separate value"
            else told cls (Meaning.raised 0 cls found fields).display
        | .type t =>
            if isMeant t then told ((t.name?).getD "") ((rest.head?.map Meaning.display).getD "")
            else refused "type"
        | m => refused m.className
where
  /-- The refusal of an object of a class that cannot be thrown. -/
  refused (cls : String) : Problem :=
    mistaken ("exceptions must be classes or instances deriving from BaseException, not "
      ++ Problem.longName cls)

-- ============================================================== taking apart

/-- The parts of a target beside the items of a row that they get. -/
def distributed (targets : List Expression) (items : List Meaning) :
    Except Problem (List (Expression × Meaning)) :=
  let isStarred (e : Expression) : Bool :=
    match e with
    | .starred _ => true
    | _ => false
  let refused (message : String) : Except Problem (List (Expression × Meaning)) :=
    .error (.told .valueError message)
  let count := targets.length
  let given := items.length
  let ahead := targets.takeWhile (!isStarred ·)
  let behind := (targets.dropWhile (!isStarred ·)).drop 1
  match targets.find? isStarred with
  | none =>
      if given < count then
        refused ("not enough values to unpack (expected " ++ toString count ++ ", got "
          ++ toString given ++ ")")
      else if count < given then
        refused ("too many values to unpack (expected " ++ toString count ++ ")")
      else .ok (targets.zip items)
  | some middle =>
      if given + 1 < count then
        refused ("not enough values to unpack (expected at least " ++ toString (count - 1)
          ++ ", got " ++ toString given ++ ")")
      else
        let inner := (items.drop ahead.length).take (given + 1 - count)
        .ok (ahead.zip items ++ [(middle, .list inner)]
          ++ behind.zip (items.drop (ahead.length + inner.length)))

/-- The row and the first number that a walk is told which numbers what it
meets. -/
def enumerated (arguments : List Meaning) (entries : Names) :
    Except Problem (Meaning × Meaning) := do
  let name := "enumerate"
  let count := arguments.length + entries.length
  if count > 2 then
    throw (mistaken (name ++ "() takes at most 2 arguments (" ++ toString count ++ " given)"))
  if count = 0 then throw (mistaken (name ++ "() missing required argument 'iterable'"))
  let formals := ["iterable", "start"].drop arguments.length
  let isWrong (entry : String × Meaning) : Bool :=
    !formals.contains entry.1 || (count = 1 && entry.1 ≠ "iterable")
  match entries.find? isWrong with
  | some (key, _) =>
      throw (mistaken ("'" ++ key ++ "' is an invalid keyword argument for " ++ name ++ "()"))
  | none =>
      let place (i : Nat) (key : String) : Option Meaning :=
        (arguments[i]?).or (entries.lookup key)
      return ((place 0 "iterable").getD .absent, (place 1 "start").getD (.number 0))

end CommandConsole.Expression
