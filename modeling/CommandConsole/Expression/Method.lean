/-
What the operations of objects make that are called by their names.

The operations here are given arguments that have been walked through if they
walk through them, and they tell what they leave in the place of their
owner.
-/
import CommandConsole.Expression.BufferOperation
import CommandConsole.Expression.EntryOperation
import CommandConsole.Expression.NumberOperation
import CommandConsole.Expression.Replacement
import CommandConsole.Expression.Routine
import CommandConsole.Expression.SetOperation

namespace CommandConsole.Expression

open BuiltinClass (ancestors comesFrom)

-- ================================================================= changes

/-- Some items in the place of those of a row at some positions. -/
def withPart {α : Type} (row items : List α) (low high step : Meaning) :
    Except Problem (List α) := do
  let (start, stop, pace) ← positions row.length low high step
  if pace = 1 then
    return row.take start.toNat ++ items ++ row.drop (max start stop).toNat
  let places := placesOf start stop pace
  if places.length ≠ items.length then
    throw (.told .valueError
      ("attempt to assign sequence of size " ++ toString items.length
        ++ " to extended slice of size " ++ toString places.length))
  return (places.zip items).foldl (fun row (i, x) => row.set i x) row

/-- A row without the items at some positions. -/
def withoutPart {α : Type} (row : List α) (low high step : Meaning) :
    Except Problem (List α) := do
  let (start, stop, pace) ← positions row.length low high step
  let places := placesOf start stop pace
  return (row.zipIdx.filter fun (_, i) => !places.contains i).map (·.1)

/-- The position of an item of a row that is to be changed. -/
def placeToChange (words : RowWords) (outOfRange : String) (length : Nat) (index : Meaning) :
    Except Problem Nat := do
  let n := fromStart length (← positionOf words index)
  if 0 ≤ n && n < length then return n.toNat
  else throw (.told .indexError outOfRange)

/-- A list with something else at an index. -/
def listWith (row : List Meaning) (index : Meaning) (m : Shared) : Except Problem Meaning := do
  match index with
  | .slice low high step =>
      match m.content.items? with
      | some items => return .list (← withPart row items low high step)
      | none =>
          throw (mistaken (match step with
            | .object .none => "can only assign an iterable"
            | _ => "must assign iterable to extended slice"))
  | index =>
      let n ← placeToChange (.ofKind "list") "list assignment index out of range" row.length index
      return .list (row.set n m.self)

/-- A list without what is at an index. -/
def listWithout (row : List Meaning) (index : Meaning) : Except Problem Meaning := do
  match index with
  | .slice low high step => return .list (← withoutPart row low high step)
  | index =>
      let n ← placeToChange (.ofKind "list") "list assignment index out of range" row.length index
      return .list (withoutPlace row n)

/-- Bytes that can be changed with something else at an index. -/
def bytesWith (row : List Nat) (index m : Meaning) : Except Problem (List Nat) := do
  match index with
  | .slice low high step =>
      let items ←
        match m.byteRow?, m.items? with
        | some items, _ => pure items
        | none, some items => items.mapM (byteOf "byte")
        | none, none =>
            throw (mistaken
              "can assign only bytes, buffers, or iterables of ints in range(0, 256)")
      withPart row items low high step
  | index =>
      let n ← placeToChange .ofByteArray "bytearray index out of range" row.length index
      return row.set n (← byteOf "byte" m)

/-- Bytes that can be changed without those at an index. -/
def bytesWithout (row : List Nat) (index : Meaning) : Except Problem (List Nat) := do
  match index with
  | .slice low high step => withoutPart row low high step
  | index =>
      let n ← placeToChange .ofByteArray "bytearray index out of range" row.length index
      return withoutPlace row n

/-- What an operation leaves that changes an object at an index. -/
def changedAt (owner : Shared) (key : String) (arguments : List Shared) :
    Except Problem Effect := do
  let isDeleting := key = "__delitem__"
  let count := if isDeleting then 1 else 2
  if arguments.length ≠ count then
    throw (mistaken
      (if isDeleting then "expected 1 argument, got " ++ toString arguments.length
      else " expected 2 arguments, got " ++ toString arguments.length))
  let index := ((arguments.head?).map Shared.whole).getD .absent
  let m := (arguments[1]?).getD (.ofWhole .absent)
  match owner.content with
  | .list row =>
      return .leaving (← if isDeleting then listWithout row index else listWith row index m)
  | .buffer "bytearray" row =>
      return .leaving (.buffer "bytearray"
        (← if isDeleting then bytesWithout row index else bytesWith row index m.whole))
  | .dict entries =>
      let k ← index.asKey
      if !isDeleting then return .leaving (.dict (Meaning.withEntry k m.self entries))
      if (Meaning.valueAt? entries k).isNone then throw (.noSuchKey k.toObject)
      return .leaving (.dict (withoutKey entries k))
  | .buffer _ _ => throw (mistaken "cannot modify read-only memory")
  | _ => return .making .absent

/-- The operation of a set that one in the place of an operator is. -/
def setChangeName? (key : String) : Option String :=
  match key with
  | "__ior__" => some "update"
  | "__iand__" => some "intersection_update"
  | "__isub__" => some "difference_update"
  | "__ixor__" => some "symmetric_difference_update"
  | _ => none

/-- What an operation in the place of an operator leaves that changes its
owner. -/
def changedBy (owner : Shared) (key : String) (arguments : List Shared) :
    Except Problem Effect := do
  requireSlotCount owner.whole.className key arguments.length
  let m := arguments.headD (.ofWhole .absent)
  match owner.content, key with
  | .list row, "__iadd__" => return .becoming owner (.list (row ++ (← m.content.items)))
  | .list row, _ =>
      return .becoming owner (.list (← Object.repeatedWithin (← wholeNumber m.whole) row))
  | .buffer cls row, "__iadd__" =>
      match m.whole.byteRow? with
      | some more => return .becoming owner (.buffer cls (row ++ more))
      | none =>
          throw (mistaken
            ("can't concat " ++ Problem.operandName m.whole.className ++ " to bytearray"))
  | .buffer cls row, _ =>
      return .becoming owner
        (.buffer cls (← Object.repeatedWithin (← wholeNumber m.whole) row))
  | .set isFrozen items, key =>
      if !isOneOf ["set", "frozenset"] m.whole then return .making .notImplemented
      match setChangeName? key with
      | some change =>
          return { (← setOperation isFrozen items change arguments) with result := owner.self }
      | none => return .making .notImplemented
  | _, _ => return .making .notImplemented

-- ================================================================= classes

/-- The classes that come from a class at once. -/
def children (cls : String) : List String :=
  match cls with
  | "int" => ["bool"]
  | "BaseExceptionGroup" => ["ExceptionGroup"]
  | cls => ((BuiltinClass.errorChildren.find? fun entry => entry.1 = cls).map (·.2)).getD []

/-- The class whose way to make objects a class has. -/
def makerOf (cls : String) : String :=
  if comesFrom cls "OSError" then "OSError"
  else if comesFrom cls "MemoryError" then "MemoryError"
  else if comesFrom cls "BaseExceptionGroup" then "BaseExceptionGroup"
  else if comesFrom cls "BaseException" then "BaseException"
  else ((definition? (ancestors cls) "__new__").map (·.1)).getD "object"

/-- What a class makes at first, when it makes an object of a class that
comes from it. -/
def madeBy (home : String) (arguments : List Meaning) (entries : List (String × Meaning)) :
    Except Problem Meaning := do
  let refused (message : String) : Problem := mistaken (home ++ ".__new__(" ++ message)
  match arguments with
  | [] => throw (refused "): not enough arguments")
  | .type t :: rest =>
      let cls := (t.name?).getD ""
      if !t.isClass then throw (refused "X): X is not a type object (types.GenericAlias)")
      if !comesFrom cls home then
        throw (refused (cls ++ "): " ++ cls ++ " is not a subtype of " ++ home))
      if makerOf home ≠ makerOf cls then
        throw (refused (cls ++ ") is not safe, use " ++ cls ++ ".__new__()"))
      match cls with
      | "list" => return .list []
      | "dict" => return .dict []
      | "set" => return .set false []
      | "bytearray" => return .buffer cls []
      | "tuple" =>
          refuseNames cls entries
          return .tuple (← (((← oneOrNone cls rest).map Meaning.items).getD (.ok [])))
      | "frozenset" =>
          refuseNames cls entries
          let items ← ((← oneOrNone cls rest).map Meaning.items).getD (.ok [])
          return .set true (← setOf items)
      | "object" =>
          if rest.isEmpty then construct t [] entries
          else throw (mistaken "object() takes no arguments")
      | "type" =>
          if rest.length = 3 then construct t rest entries
          else
            throw (mistaken
              ("type.__new__() takes exactly 3 arguments (" ++ toString rest.length ++ " given)"))
      | _ => construct t rest entries
  | m :: _ =>
      throw (refused ("X): X is not a type object (" ++ Problem.longName m.className ++ ")"))

/-- An operation of a class itself, of which `t` is the class. -/
def classMethod (t : Ty) (home key : String) (arguments : List Shared)
    (entries : List (String × Meaning)) : Except Problem Meaning := do
  let wholes := arguments.map Shared.whole
  let label := (t.name?).getD "" ++ "." ++ key
  let one : Except Problem Meaning :=
    match wholes with
    | [m] => .ok m
    | arguments => .error (takesOne ((t.name?).getD "") key arguments.length)
  match key with
  | "__new__" => madeBy home wholes entries
  | "from_bytes" =>
      let m ← numberOfBytes (← (bytesSignature key).fill wholes entries)
      return if t.same .bool then .flag m.truthy else m
  | "__prepare__" => return .dict []
  | _ =>
      refuseNames label entries
      match home, key with
      | _, "fromhex" =>
          let m ← one
          let .object (.text s) := m
            | throw (mistaken (if home = "float" then "bad argument type for built-in operation"
                else "fromhex() argument must be str, not "
                  ++ Problem.longName m.toObject.placeName))
          if home = "float" then return .object (← floatOfHex s)
          let row ← bytesOfHex 0 s.toList
          return if home = "bytes" then .object (.bytes row) else .buffer home row
      | "str", "maketrans" => tableOfChars wholes
      | _, "maketrans" => tableOfBytes wholes
      | _, "fromkeys" => dictFromKeys arguments
      | _, "__class_getitem__" => itemOf (classNamed home) (← one)
      | _, "__init_subclass__" =>
          if wholes.isEmpty then return .absent
          else throw (takesNone ((t.name?).getD "") key wholes.length)
      | _, "__subclasshook__" => return .notImplemented
      | _, "__getformat__" =>
          match String.ofList (← textArgument (← one) key "") with
          | "double" | "float" => return .text "IEEE, little-endian"
          | _ =>
              throw (.told .valueError "__getformat__() argument 1 must be 'double' or 'float'")
      | _, _ => return .absent

/-- An operation that every class has. -/
def typeOperation (t : Ty) (key : String) (arguments : List Meaning) :
    Except Problem Meaning := do
  let cls := (t.name?).getD ""
  let one : Except Problem Meaning :=
    match arguments with
    | [m] => .ok m
    | arguments => .error (takesOne cls key arguments.length)
  match key with
  | "__mro_entries__" =>
      if arguments.length ≠ 1 then throw (takesOne "GenericAlias" key arguments.length)
      return .tuple [.type (match t with
        | .generic origin _ | .unpacked origin _ => .builtin origin
        | t => t)]
  | "__instancecheck__" =>
      let m ← one
      return .flag (t.same (classOf m) || descends (classOf m) t)
  | "__subclasscheck__" => return .flag (← isSubclass (← one) (.type t))
  | _ =>
      if !arguments.isEmpty then throw (takesNone cls key arguments.length)
      match key with
      | "mro" => return .list ((ancestors cls).map classNamed)
      | "__subclasses__" => return .list ((children cls).map classNamed)
      | "__dir__" => return .list ((namesIn? (.type t)).map .text)
      | _ => return .absent

-- ================================================================= raising

/-- A group of failures parted by a condition: those that meet it, and the
others. -/
def partedGroup (meets : Meaning → Except Problem Bool) :
    Nat → Meaning → Except Problem (Option Meaning × Option Meaning)
  | 0, _ => .error .tooDeep
  | nesting + 1, m => do
      if ← meets m then return (some m, none)
      match m with
      | .raised _ cls arguments fields =>
          if !comesFrom cls "BaseExceptionGroup" then return (none, some m)
          let items := (((fields.lookup "exceptions").bind Meaning.items?)).getD []
          let pairs ← items.mapM (partedGroup meets nesting)
          let group (items : List Meaning) : Except Problem (Option Meaning) := do
            if items.isEmpty then return none
            else return some (← Raising.raise "BaseExceptionGroup"
              [arguments.headD .absent, .list items] [])
          return (← group (pairs.filterMap (·.1)), ← group (pairs.filterMap (·.2)))
      | m => return (none, some m)

/-- An operation of what can be raised. -/
def raisedOperation (owner : Shared) (home key : String) (arguments : List Shared) :
    Except Problem Effect := do
  let wholes := arguments.map Shared.whole
  let one : Except Problem Meaning :=
    match wholes with
    | [m] => .ok m
    | arguments => .error (takesOne home key arguments.length)
  let isRaisedClass (m : Meaning) : Bool :=
    match m with
    | .type t => comesFrom ((t.name?).getD "") "BaseException"
    | _ => false
  let condition (m : Meaning) : Except Problem (Meaning → Except Problem Bool) :=
    if isRaisedClass m || (m.className = "tuple" && ((m.items?).getD []).all isRaisedClass) then
      .ok fun x => isInstance x m
    else
      .error (mistaken "expected a function, exception type or tuple of exception types")
  match key with
  | "add_note" =>
      let m ← one
      if m.className = "str" then return .making .absent
      else throw (mistaken ("note must be a str, not '" ++ Problem.longName m.className ++ "'"))
  | "with_traceback" =>
      if (← one).className = "NoneType" then return .making owner.self
      else throw (mistaken "__traceback__ must be a traceback or None")
  | "__setstate__" =>
      if ["NoneType", "dict"].contains (← one).className then return .making .absent
      else throw (mistaken "state is not a dictionary")
  | "derive" =>
      requireBetween key 1 1 wholes.length
      let message := match owner.whole with
        | .raised _ _ arguments _ => arguments.headD .absent
        | _ => .absent
      return .making (← Raising.raise "BaseExceptionGroup" (message :: wholes) [])
  | "split" | "subgroup" =>
      requireBetween key 1 1 wholes.length
      let (met, others) ←
        partedGroup (← condition (wholes.headD .absent)) maxClassNesting owner.whole
      let found (m? : Option Meaning) : Meaning := m?.getD .absent
      return .making (if key = "split" then .tuple [found met, found others] else found met)
  | _ => return .making .absent

-- ================================================================= objects

/-- A name in the table of the attributes of a class belongs to a class that an
object is one of. -/
def belongs (cls : String) (m : Meaning) : Bool :=
  match m with
  | .type t => comesFrom (if t.isClass then "type" else plainName (Meaning.type t).className) cls
  | m => comesFrom (plainName m.className) cls

/-- What an attribute knows that is computed by functions, with another one of
these functions. -/
def withAccessor (fields : List (String × Meaning)) (key : String) (arguments : List Meaning) :
    Except Problem (List (String × Meaning)) := do
  let changed := if key = "getter" then "fget" else if key = "setter" then "fset" else "fdel"
  match arguments with
  | [f] => return fields.map fun (label, m) => (label, if label = changed then f else m)
  | arguments => throw (takesOne "property" key arguments.length)

/-- An operation that is in no object, as one of an object. -/
def boundTo (home name : String) (kind : AttributeKind) (self : Meaning) (arguments : List Shared) :
    Except Problem Meaning := do
  let refuse (limit : String) : Except Problem Meaning :=
    .error (mistaken (" expected at " ++ limit ++ ", got " ++ toString arguments.length))
  match arguments with
  | [] => refuse "least 1 argument"
  | m :: others =>
      if others.length > 1 then return ← refuse "most 2 arguments"
      match m.whole, others.head?.map Shared.whole with
      | .object .none, none | .object .none, some (.object .none) =>
          throw (mistaken "__get__(None, None) is invalid")
      | .object .none, some _ => return self
      | whole, _ =>
          if !belongs home whole then
            throw (mistaken ("descriptor '" ++ name ++ "' for '" ++ home
              ++ "' objects doesn't apply to a '" ++ Problem.longName whole.className
              ++ "' object"))
          match kind with
          | .computed | .stored => attributeOf m.self whole name
          | kind => return .method m.self home name kind

/-- A function that is given an object before its other arguments. -/
def boundMethod (f m : Shared) : Meaning :=
  let facts := ["__name__", "__qualname__", "__doc__", "__defaults__", "__code__"].filterMap
    fun key => ((attributeOf f.self f.whole key).toOption).map fun found => (key, found)
  let label := ((facts.lookup "__qualname__").map Meaning.display).getD "?"
  .lone 0
    (Meaning.named "method" ((facts.lookup "__name__").map Meaning.display)
      ("<bound method " ++ label ++ " of " ++ m.whole.written ++ ">"))
    (("__func__", f.self) :: ("__self__", m.self) :: facts)

/-- What an object makes that stands in a class, when it is looked up in an
object of the class or in the class itself. -/
def lookedUp (owner : Shared) (arguments : List Shared) : Except Problem Meaning := do
  requireBetween "" 1 2 arguments.length
  let first := arguments.headD (.ofWhole .absent)
  let isAbsent (m : Meaning) : Bool := m.className = "NoneType"
  let cls? := (arguments[1]?.map Shared.whole).filter (!isAbsent ·)
  if isAbsent first.whole && cls?.isNone then throw (mistaken "__get__(None, None) is invalid")
  match owner.whole with
  | .function _ _ _ _ _ =>
      if isAbsent first.whole then return owner.self
      else return boundMethod owner first
  | .lone _ (.sealed "staticmethod" _ _ _) fields => return (fields.lookup "__func__").getD .absent
  | .lone _ (.sealed "classmethod" _ _ _) fields =>
      let cls := cls?.getD (.type (classOf first.whole))
      return boundMethod (.ofWhole ((fields.lookup "__func__").getD .absent)) (.ofWhole cls)
  | .lone _ (.sealed "super" _ _ _) fields =>
      match fields.lookup "__self__", fields.lookup "__thisclass__" with
      | some (.object .none), some cls =>
          if isAbsent first.whole then return owner.self else superOf [cls, first.self]
      | _, _ => return owner.self
  | _ => return owner.self

/-- An operation of an object of a class that is called by its name. -/
def method (owner : Shared) (home key : String) (arguments : List Shared)
    (entries : List (String × Meaning)) : Except Problem Effect := do
  let wholes := arguments.map Shared.whole
  let label := home ++ "." ++ key
  let one : Except Problem Shared :=
    match arguments with
    | [m] => .ok m
    | arguments => .error (takesOne home key arguments.length)
  let called := match owner.whole with
    | .type (.union _ _) => "UnionType"
    | _ => home
  match namedSlot? called key owner.whole wholes, Letters.of? owner.whole with
  | some result, _ =>
      refuseNames label entries
      return .making (← result)
  | none, some l =>
      match owner.whole, key with
      | .object (.text s), "format" => return .making (← replaceFields s wholes entries)
      | .object (.text s), "format_map" =>
          refuseNames label entries
          return .making (← replaceFrom s (← one).whole)
      | .buffer _ row, key =>
          if bufferOperations.contains key then
            refuseNames label entries
            bufferOperation row key arguments
          else return .making (← letterOperation l key wholes entries)
      | _, key => return .making (← letterOperation l key wholes entries)
  | none, none =>
      match owner.content, key with
      | .buffer _ row, key => return .making (← windowOperation row key wholes entries)
      | .object x, key =>
          if x.toComplex?.isSome then return .making (← numberOperation x key wholes entries)
          refuseNames label entries
          match x with
          | .range first last pace => rangeOperation first last pace key arguments
          | _ => return .making .absent
      | content, key =>
          refuseNames label entries
          match content, key with
          | _, "__contains__" => return .making (.flag (← isIn (← one).whole owner.whole))
          | content, "__getitem__" => return .making (← itemOf content (← one).whole)
          | .list _, key | .tuple _, key => rowOperation home owner.row key arguments
          | .dict entries, key => dictOperation owner.self entries key arguments
          | .set isFrozen items, key => setOperation isFrozen items key arguments
          | .view _ _, key => viewOperation home ((owner.whole.items?).getD []) key arguments
          | .raised _ _ _ _, key => raisedOperation owner home key arguments
          | .type t, key => return .making (← typeOperation t key wholes)
          | .lone _ _ _, "__set_name__" =>
              if arguments.length = 2 then return .making .absent
              else
                throw (mistaken ("__set_name__() takes 2 positional arguments but "
                  ++ toString arguments.length ++ " were given"))
          | .lone _ x fields, key =>
              return .making (.lone 0 x (← withAccessor fields key wholes))
          | _, _ => return .making .absent

/-- The object whose operation is called, which is the first of some
arguments, and the others. -/
def ownerIn (home key : String) (kind : AttributeKind) (arguments wholes : List Meaning) :
    Except Problem (Meaning × List Meaning) :=
  let quoted := "descriptor '" ++ key ++ "'"
  match kind, arguments, wholes with
  | .computed, _, _ => .error (.notCallable "getset_descriptor")
  | .stored, _, _ => .error (.notCallable "member_descriptor")
  | .slot, [], _ => .error (mistaken (quoted ++ " of '" ++ home ++ "' object needs an argument"))
  | _, [], _ =>
      .error (mistaken ("unbound method " ++ home ++ "." ++ key ++ "() needs an argument"))
  | kind, owner :: rest, wholes =>
      let m := wholes.headD owner
      if belongs home m then .ok (owner, rest)
      else
        let cls := Problem.longName m.className
        .error (mistaken (quoted ++
          if kind = .slot then " requires a '" ++ home ++ "' object but received a '" ++ cls ++ "'"
          else " for '" ++ home ++ "' objects doesn't apply to a '" ++ cls ++ "' object"))

/-- The operations that walk through what they are given, by their names. -/
def walksThrough (key : String) : Bool :=
  ["join", "extend", "update", "union", "intersection", "difference", "symmetric_difference",
   "intersection_update", "difference_update", "symmetric_difference_update", "issubset",
   "issuperset", "isdisjoint", "fromkeys", "from_bytes"].contains key

/-- What an operation that an operator or a routine asks for does. -/
def slot (owner : Shared) (home key : String) (arguments : List Shared)
    (entries : List (String × Meaning)) : Except Problem Effect := do
  if !entries.isEmpty && key ≠ "__init__" then
    throw (mistaken ("wrapper " ++ key ++ "() takes no keyword arguments"))
  let wholes := arguments.map Shared.whole
  match key with
  | "__setitem__" | "__delitem__" => changedAt owner key arguments
  | "__iadd__" | "__imul__" | "__ior__" | "__iand__" | "__isub__" | "__ixor__" =>
      changedBy owner key arguments
  | "__getitem__" =>
      requireSlotCount home key arguments.length
      return .making (← itemOf owner.content (wholes.headD .absent))
  | "__getattribute__" =>
      requireSlotCount home key arguments.length
      let name ← attributeName (wholes.headD .absent)
      return .making (← attributeOf owner.self owner.whole name)
  | "__setattr__" | "__delattr__" =>
      requireSlotCount home key arguments.length
      match home, owner.whole with
      | "object", .type _ =>
          if (owner.whole.className = "type") then
            throw (mistaken ("can't apply this " ++ key ++ " to type object"))
      | _, _ => pure ()
      return .making (← changeAttribute (key = "__delattr__") owner.whole (wholes.headD .absent))
  | "__get__" =>
      match owner.whole with
      | .descriptor home label kind =>
          return .making (← boundTo home label kind owner.whole arguments)
      | _ => return .making (← lookedUp owner arguments)
  | "__set__" =>
      requireSlotCount home key arguments.length
      match owner.whole with
      | .descriptor home label _ =>
          throw (.told .attributeError
            ("attribute '" ++ label ++ "' of '" ++ home ++ "' objects is not writable"))
      | m => throw (.told .attributeError
          ("property of '" ++ Problem.longName (wholes.headD m).className
            ++ "' object has no setter"))
  | "__delete__" =>
      requireSlotCount home key arguments.length
      throw (.told .attributeError
        ("property of '" ++ Problem.longName (wholes.headD .absent).className
          ++ "' object has no deleter"))
  | "__init__" =>
      let cls := plainName owner.whole.className
      let own? := definition? (ancestors cls) key
      if home = "object" && !wholes.isEmpty && (cls = "object" || own?.map (·.1) ≠ some home) then
        throw (mistaken
          "object.__init__() takes exactly one argument (the instance to initialize)")
      return .making .absent
  | key => return .making (← slotOperation home key owner.whole wholes)

end CommandConsole.Expression
