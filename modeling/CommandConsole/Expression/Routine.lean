/-
The routines that are built in: those that are called by a name of their
own.

The routines here are given arguments as wholes, of which those that are
walked through have been walked through already.
-/
import CommandConsole.Expression.Construction
import CommandConsole.Expression.Format
import CommandConsole.Expression.Measure
import CommandConsole.Expression.Outside
import CommandConsole.Expression.Rounding
import CommandConsole.Expression.Slot

namespace CommandConsole.Expression

open BuiltinClass (ancestors comesFrom)

-- =================================================================== names

/-- The routines that are built in, by their names. -/
def routineNames : List String :=
  ["__build_class__", "__import__", "abs", "aiter", "all", "anext", "any", "ascii", "bin",
   "breakpoint", "callable", "chr", "compile", "delattr", "dir", "divmod", "eval", "exec",
   "format", "getattr", "globals", "hasattr", "hash", "hex", "id", "input", "isinstance",
   "issubclass", "iter", "len", "locals", "max", "min", "next", "oct", "open", "ord", "pow",
   "print", "repr", "round", "setattr", "sorted", "sum", "vars"]

/-- The objects that help the one who types commands at a prompt. -/
def promptHelp? (key : String) : Option Object :=
  let known (cls written : String) : Option Object := some (Meaning.named cls none written)
  match key with
  | "exit" => known "Quitter" "Use exit() or Ctrl-D (i.e. EOF) to exit"
  | "quit" => known "Quitter" "Use quit() or Ctrl-D (i.e. EOF) to exit"
  | "license" => known "_Printer" "Type license() to see the full license text"
  | "help" =>
      known "_Helper"
        "Type help() for interactive help, or help(object) for help about object."
  | _ => none

/-- What a name stands for everywhere. -/
def builtin? (key : String) : Option Meaning :=
  match key, Ty.named? key with
  | _, some t => some (.type t)
  | "None", none => some .absent
  | "True", none => some (.flag true)
  | "False", none => some (.flag false)
  | "Ellipsis", none => some (.object .ellipsis)
  | "NotImplemented", none => some .notImplemented
  | "__debug__", none => some (.flag true)
  | key, none =>
      if routineNames.contains key then some (.routine key) else (promptHelp? key).map .object

-- =============================================================== arguments

/-- The only argument of a routine. -/
def onlyOne (key : String) (arguments : List Meaning) : Except Problem Meaning :=
  match arguments with
  | [m] => .ok m
  | _ =>
      .error (mistaken
        (key ++ "() takes exactly one argument (" ++ toString arguments.length ++ " given)"))

/-- The two arguments of a routine. -/
def onlyTwo (key : String) (arguments : List Meaning) : Except Problem (Meaning × Meaning) :=
  match arguments with
  | [a, b] => .ok (a, b)
  | _ =>
      .error (mistaken
        (key ++ " expected 2 arguments, got " ++ toString arguments.length))

/-- The name of an attribute that an argument is. -/
def attributeName (m : Meaning) : Except Problem String :=
  match m with
  | .object (.text s) => .ok s
  | m =>
      .error (mistaken
        ("attribute name must be string, not '" ++ Problem.longName m.className ++ "'"))

-- ============================================================== characters

/-- A whole number as digits of a base after the mark of it. -/
def withMark (mark : String) (base : Nat) (m : Meaning) : Except Problem Meaning := do
  let n ← wholeNumber m
  return .text ((if n < 0 then "-" else "") ++ mark
    ++ String.ofList (Nat.toDigits base n.natAbs))

/-- The character of a number. -/
def characterOf (m : Meaning) : Except Problem Meaning := do
  let n ← wholeNumber m
  if 0 ≤ n && n < 0x110000 then return .text (String.ofList [Char.ofNat n.toNat])
  else if -2 ^ 31 ≤ n && n < 2 ^ 31 then
    throw (.told .valueError "chr() arg not in range(0x110000)")
  else throw (.told .overflowError "Python int too large to convert to C int")

/-- The number of a character. -/
def numberOf (m : Meaning) : Except Problem Meaning :=
  let only (row : List Nat) : Except Problem Meaning :=
    match row with
    | [n] => .ok (.number n)
    | row =>
        .error (mistaken
          ("ord() expected a character, but string of length " ++ toString row.length
            ++ " found"))
  match m with
  | .object (.text s) => only (s.toList.map Char.toNat)
  | .object (.bytes row) => only row
  | .buffer "bytearray" row => only row
  | m =>
      .error (mistaken
        ("ord() expected string of length 1, but " ++ Problem.longName m.className
          ++ " found"))

-- ================================================================= classes

/-- The words in which a question about classes is refused: the routine, and
what its second argument must be. -/
structure ClassWords where
  routine : String
  wanted : String

/-- An argument meets a class, one of some classes, or a type with bars in
between. What is no class is refused, unless the first argument is refused
before, as `check` tells. -/
def meetsClass (words : ClassWords) (check : Except Problem Unit)
    (meets : Ty → Except Problem Bool) : Nat → Meaning → Except Problem Bool
  | 0, _ => .error .tooDeep
  | nesting + 1, m =>
      let rec meetsOne : List Meaning → Except Problem Bool
        | [] => .ok false
        | m :: rest => do
            if ← meetsClass words check meets nesting m then return true else meetsOne rest
      match m with
      | .tuple items => meetsOne items
      | .type (.union _ members) => meetsOne (members.map .type)
      | .type (.generic _ _) | .type (.unpacked _ _) =>
          .error (mistaken
            (words.routine ++ "() argument 2 cannot be a parameterized generic"))
      | .type t => meets t
      | _ => do
          check
          throw (mistaken (words.routine ++ "() arg 2 must be " ++ words.wanted))

/-- How deep rows of classes stand inside each other at most. -/
def maxClassNesting : Nat := 1000

/-- A class is another one, or comes from it. -/
def descends (t other : Ty) : Bool := comesFrom ((t.name?).getD "") ((other.name?).getD "")

/-- An object is one of a class, or of one of some classes. -/
def isInstance (m cls : Meaning) : Except Problem Bool :=
  meetsClass ⟨"isinstance", "a type, a tuple of types, or a union"⟩ (.ok ())
    (fun t => .ok (t.same (classOf m) || descends (classOf m) t)) maxClassNesting cls

/-- A class comes from another one, or from one of some classes. -/
def isSubclass (m cls : Meaning) : Except Problem Bool :=
  let refused : Problem := mistaken "issubclass() arg 1 must be a class"
  let comes (t : Ty) : Except Problem Bool :=
    match m with
    | .type (.union _ _) => .error refused
    | .type (.generic origin _) | .type (.unpacked origin _) =>
        .ok ((BuiltinClass.parents origin.label).any fun parent =>
          comesFrom parent ((t.name?).getD ""))
    | .type s => .ok (s.same t || descends s t)
    | _ => .error refused
  let check : Except Problem Unit := (comes (.builtin .object)).map fun _ => ()
  meetsClass ⟨"issubclass", "a class, a tuple of classes, or a union"⟩ check comes
    maxClassNesting cls

/-- What an expression stands for can be called. -/
def isCallable (m : Meaning) : Bool :=
  match m with
  | .type (.union _ _) => false
  | .type _ => true
  | .function _ _ _ _ _ => true
  | .method _ _ _ _ => true
  | .descriptor _ _ kind => kind = .method || kind = .slot || kind = .ofClass
  | .lone _ (.sealed cls _ _ _) _ => cls = "staticmethod" || cls = "method"
  | .object (.sealed cls _ _ _) =>
      ["builtin_function_or_method", "Quitter", "_Printer", "_Helper"].contains cls
  | _ => false

-- ==================================================================== sums

/-- The sum of a start and some items. -/
def sumFrom (total : Meaning) : List Meaning → Except Problem Meaning
  | [] => .ok total
  | m :: rest => do sumFrom (← operate .add total m) rest

/-- Refuses a start of a sum to which other operations add better. -/
def requireSummable (start : Meaning) : Except Problem Unit :=
  let refused (rows empty : String) : Except Problem Unit :=
    .error (mistaken ("sum() can't sum " ++ rows ++ " [use " ++ empty ++ ".join(seq) instead]"))
  match start.className with
  | "str" => refused "strings" "''"
  | "bytes" => refused "bytes" "b''"
  | "bytearray" => refused "bytearray" "b''"
  | _ => .ok ()

-- ============================================================== attributes

/-- Refuses to give an object an attribute, or to take one from it. -/
def changeAttribute (isDeleting : Bool) (m name : Meaning) : Except Problem Meaning := do
  let key ← attributeName name
  match m with
  | .type t =>
      if t.isClass then
        throw (mistaken
          ("cannot set '" ++ key ++ "' attribute of immutable type '" ++ t.label ++ "'"))
      else slotOperation "" "__delattr__" m [name]
  | .function _ _ _ _ _ | .raised _ _ _ _ =>
      if isDeleting && (attributeOf m m key).toOption.isNone then
        throw (.noAttribute m.className key)
      else return .absent
  | m => slotOperation "" "__delattr__" m [name]

/-- The names of the attributes of what an expression stands for. -/
def namesIn? (m : Meaning) : List String :=
  match m with
  | .type (.generic origin _) | .type (.unpacked origin _) => attributeNames origin.label
  | .type (.union _ _) => attributeNames "UnionType"
  | .type t => if t.isClass then attributeNames ((t.name?).getD "") else attributeNames "type"
  | m => attributeNames (plainName m.className)

/-- The dictionary of the attributes of an object, if it has one. -/
def attributesOf (m : Meaning) : Except Problem Meaning :=
  match m with
  | .function _ _ _ _ _ | .raised _ _ _ _ => .ok (.dict [])
  | .type t => if t.isClass then ofClass t "__dict__" else .error refused
  | _ => .error refused
where
  /-- The refusal of an object without such a dictionary. -/
  refused : Problem := mistaken "vars() argument must have __dict__ attribute"

-- ================================================================ routines

/-- The places of the arguments of a routine that takes some of them by their
names. -/
def routineSignature? (key : String) : Option Signature :=
  match key with
  | "pow" => some { name := key, formals := ["base", "exp", "mod"], required := 2 }
  | "round" => some { name := key, formals := ["number", "ndigits"], required := 1 }
  | "sum" => some { name := key, formals := ["", "start"], required := 1 }
  | _ => none

/-- What a routine makes of arguments in the places that it has for them. -/
def filledRoutine (key : String) (places : List (Option Meaning)) : Except Problem Meaning := do
  let place (i : Nat) : Meaning := ((places[i]?).join).getD .absent
  match key with
  | "pow" => powerOfAll [place 0, place 1, place 2]
  | "round" => rounded (place 0) (place 1)
  | _ =>
      let items ← (place 0).items
      match (places[1]?).join with
      | none => sumFrom (.number 0) items
      | some start =>
          requireSummable start
          sumFrom start items

/-- What a routine with a name makes of some arguments. Routines that are of
no use here make nothing. -/
def plainRoutine (key : String) (arguments : List Meaning) : Except Problem Meaning := do
  let one : Except Problem Meaning := onlyOne key arguments
  let nothing : Except Problem Meaning :=
    if arguments.isEmpty then .ok .absent
    else
      .error (mistaken
        (key ++ "() takes no arguments (" ++ toString arguments.length ++ " given)"))
  let first := arguments.headD .absent
  match key with
  | "abs" => magnitudeOf (← one)
  | "ascii" => return .text (asciiOnly (← (← one).spelled))
  | "bin" => withMark "0b" 2 (← one)
  | "oct" => withMark "0o" 8 (← one)
  | "hex" => withMark "0x" 16 (← one)
  | "callable" => return .flag (isCallable (← one))
  | "chr" => characterOf (← one)
  | "ord" => numberOf (← one)
  | "len" => lengthOf (← one)
  | "repr" => return .text (← (← one).spelled)
  | "hash" => hashOf (← one)
  | "id" => do
      let _ ← one
      return .absent
  | "divmod" => do
      let (a, b) ← onlyTwo key arguments
      dividedOf a b
  | "format" =>
      requireBetween key 1 2 arguments.length
      match arguments with
      | [m, layout] =>
          return .text (← laidOut m (String.ofList (← textArgument layout key "2 ")))
      | _ => return .text (← laidOut first "")
  | "isinstance" => do
      let (m, cls) ← onlyTwo key arguments
      return .flag (← isInstance m cls)
  | "issubclass" => do
      let (m, cls) ← onlyTwo key arguments
      return .flag (← isSubclass m cls)
  | "dir" =>
      requireBetween key 0 1 arguments.length
      return .list ((namesIn? first).map .text)
  | "vars" =>
      requireBetween key 0 1 arguments.length
      attributesOf first
  | "setattr" =>
      requireBetween key 3 3 arguments.length
      changeAttribute false first (arguments.getD 1 .absent)
  | "delattr" =>
      requireBetween key 2 2 arguments.length
      changeAttribute true first (arguments.getD 1 .absent)
  | "aiter" =>
      throw (mistaken
        ("'" ++ Problem.longName (← one).className ++ "' object is not an async iterable"))
  | "anext" =>
      requireBetween key 1 2 arguments.length
      throw (mistaken
        ("'" ++ Problem.longName first.className ++ "' object is not an async iterator"))
  | "globals" | "locals" => nothing
  | _ => return .absent

/-- What a routine with a name makes of some arguments, of which some have
names. -/
def routine (key : String) (arguments : List Meaning) (entries : List (String × Meaning)) :
    Except Problem Meaning := do
  match routineSignature? key with
  | some signature => filledRoutine key (← signature.fill arguments entries)
  | none =>
      if outsideNames.contains key then outside key arguments entries
      else
        refuseNames key entries
        plainRoutine key arguments

end CommandConsole.Expression
