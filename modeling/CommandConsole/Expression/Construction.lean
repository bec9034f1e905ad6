/-
What the built-in classes make of some arguments when they are called.
-/
import CommandConsole.Expression.Attribute
import CommandConsole.Expression.Item
import CommandConsole.Expression.Operation
import CommandConsole.Expression.Raising
import CommandConsole.Expression.Signature
import CommandConsole.Object.Places
import CommandConsole.Ty.Conversion

namespace CommandConsole.Expression

open Meaning (named)
open Number

-- ================================================================= numbers

/-- The floating-point number that an argument makes. -/
def floatOf (m : Meaning) : Except Problem Object :=
  match m.toObject.bare, m.byteRow? with
  | .text s, _ => Token.toFloat s
  | _, some row =>
      match Token.toFloat (String.ofList (row.map Char.ofNat)) with
      | .ok y => .ok y
      | .error _ =>
          .error (.told .valueError ("could not convert string to float: " ++ m.written))
  | x, none =>
      match x.toFloat? with
      | some y => y.map .float
      | none =>
          .error (mistaken
            ("float() argument must be a string or a real number, not '"
              ++ Problem.longName m.className ++ "'"))

/-- The whole number that an argument makes, in a base if one is told. -/
def integerOf (m? base? : Option Meaning) : Except Problem Object := do
  let plain (m : Meaning) : Object := (m.byteRow?.map Object.bytes).getD m.toObject
  match m?, base? with
  | none, none => return .int 0
  | none, some _ => throw (mistaken "int() missing string argument")
  | some m, none => Object.integerOf [plain m]
  | some m, some base => Object.integerOf [plain m, base.toObject]

/-- The complex number that some arguments make. -/
def complexOf (real? imaginary? : Option Meaning) : Except Problem Object := do
  let part (which : String) (x : Object) : Except Problem ComplexNumber :=
    match x.toComplex? with
    | some z => z
    | none =>
        .error (mistaken
          ("complex() " ++ which ++ ", not '" ++ Problem.longName x.className ++ "'"))
  let first := "first argument must be a string or a number"
  match real?.map Meaning.toObject, imaginary?.map Meaning.toObject with
  | none, none => return .complex .zero .zero
  | some (.text s), none => Token.toComplex s
  | some (.text _), some _ =>
      throw (mistaken "complex() can't take second arg if first is a string")
  | _, some (.text _) => throw (mistaken "complex() second arg can't be a string")
  | some x, none =>
      let z ← part first x
      return .complex z.1 z.2
  | x?, some y =>
      let z ← part first (x?.getD (.int 0))
      let w ← part "second argument must be a number" y
      return .complex (z.1.minus w.2) (z.2.plus w.1)

-- ==================================================================== rows

/-- How what expressions stand for is told from each other as items of
sets. -/
def keys : Keys Meaning := ⟨fun m => m.toObject.hash?, fun m other => m.same other⟩

/-- A row without the items that equal earlier ones. -/
def distinctItems (items : List Meaning) : List Meaning :=
  go [] items
where
  go (seen : List Meaning) : List Meaning → List Meaning
    | [] => []
    | m :: rest =>
        if seen.any fun other => other.same m then go seen rest else m :: go (m :: seen) rest

/-- A row of keys without those that equal earlier ones. -/
def keysOf (items : List Meaning) : Except Problem (List Meaning) :=
  match Meaning.unhashableIn? items with
  | some cls => .error (.unhashable cls)
  | none => .ok (distinctItems items)

/-- The items of the set of some keys that are added to it one by one. -/
def setOf (items : List Meaning) : Except Problem (List Meaning) := do
  return keys.oneByOne (← keysOf items)

/-- The items of a set that is written down with more than two constants, from
those of the set of them: the reader keeps another set of them, of which the
set is a copy. -/
def writtenKeys (items : List Meaning) : List Meaning := keys.rebuilt items

/-- The items of the set of what an object has for items: those of another
set or of a dictionary come at once, and a set that cannot be changed is its
own copy. -/
def setOfItems (isFrozen : Bool) (m : Meaning) (items : List Meaning) :
    Except Problem (List Meaning) :=
  match m with
  | .set true xs => .ok (if isFrozen then xs else keys.atOnce xs)
  | .set false xs => .ok (keys.atOnce xs)
  | .dict entries => .ok (keys.either [] (entries.map (·.1)))
  | _ => setOf items

/-- A number as a byte of an object of a class. -/
def byteOf (noun : String) (m : Meaning) : Except Problem Nat := do
  let n ← wholeNumber m
  if 0 ≤ n && n < 256 then return n.toNat
  else throw (.told .valueError (noun ++ " must be in range(0, 256)"))

/-- The bytes that a class makes of an argument. -/
def bytesOfOne (cls : String) (m : Meaning) : Except Problem (List Nat) := do
  let noun := if cls = "bytes" then "bytes" else "byte"
  match m.toObject, m.byteRow?, m.integer?, m.items? with
  | .text _, _, _, _ => throw .bytesWithoutEncoding
  | _, some row, _, _ => return row
  | _, none, some n, _ =>
      let row ← Object.repeatedWithin n [0]
      if n < 0 then throw (.told .valueError "negative count") else return row
  | _, none, none, some items => items.mapM (byteOf noun)
  | x, none, none, none =>
      throw (mistaken
        ("cannot convert '" ++ Problem.longName x.className ++ "' object to " ++ cls))

/-- The bytes that a class makes of some arguments: a source, an encoding, and
how errors in it are handled. -/
def bytesOf (cls : String) (source? encoding? errors? : Option Meaning) :
    Except Problem (List Nat) := do
  let isText (m : Meaning) : Bool := m.className = "str"
  for (key, m?) in [("encoding", encoding?), ("errors", errors?)] do
    if let some m := m? then
      if !isText m then
        throw (mistaken
          (cls ++ "() argument '" ++ key ++ "' must be str, not "
            ++ Problem.longName m.toObject.placeName))
  match source?, encoding?, errors? with
  | none, none, none => return []
  | some (.object (.text s)), some encoding, errors? =>
      (← Encoding.ofName encoding.display).encode ((errors?.map Meaning.display).getD "strict")
        s.toList
  | some (.object (.text _)), none, _ => throw .bytesWithoutEncoding
  | _, some _, _ => throw (mistaken "encoding without a string argument")
  | _, none, some _ => throw (mistaken "errors without a string argument")
  | some m, none, none => bytesOfOne cls m

/-- The range that some arguments tell. -/
def rangeOf (arguments : List Meaning) : Except Problem Meaning := do
  match arguments with
  | [] => throw (.atLeast "range" 1 0)
  | [last] => return .object (.range 0 (← wholeNumber last) 1)
  | [first, last] =>
      let first ← wholeNumber first
      return .object (.range first (← wholeNumber last) 1)
  | [first, last, pace] =>
      let first ← wholeNumber first
      let last ← wholeNumber last
      let pace ← wholeNumber pace
      if pace = 0 then throw (.told .valueError "range() arg 3 must not be zero")
      return .object (.range first last pace)
  | arguments => throw (.atMost "range" 3 arguments.length)

-- ================================================================= classes

/-- An object of a class of which no more is told. -/
def unknownObject (cls : String) : Object := named cls none ("<" ++ cls ++ " object at 0x>")

/-- The classes from which no other one comes. -/
def childless : List String :=
  ["bool", "range", "slice", "memoryview", "NoneType", "ellipsis", "NotImplementedType"]

/-- A new class of a name, some classes that it comes from, and some
attributes. -/
def classOfParts (label bases attributes : Meaning) (entries : List (String × Meaning)) :
    Except Problem Meaning := do
  let require (place : Nat) (wanted : String) (m : Meaning) : Except Problem Unit :=
    if m.className = wanted then .ok ()
    else
      .error (mistaken ("type.__new__() argument " ++ toString place ++ " must be " ++ wanted
        ++ ", not " ++ Problem.longName m.toObject.placeName))
  require 1 "str" label
  require 2 "tuple" bases
  require 3 "dict" attributes
  for base in (bases.items?).getD [] do
    match base with
    | .type t =>
        if childless.contains ((t.name?).getD "") then
          throw (mistaken ("type '" ++ (t.name?).getD "" ++ "' is not an acceptable base type"))
    | _ => throw (mistaken "bases must be types")
  if !entries.isEmpty then
    throw (mistaken (label.display ++ ".__init_subclass__() takes no keyword arguments"))
  if label.display.toList.contains (Char.ofNat 0) then
    throw (.told .valueError "type name must not contain null characters")
  return .type (.host "host" label.display)

/-- What a function that stands in a class is told to be, with what the
function tells about itself. -/
def wrapped (name : String) (f : Meaning) : Meaning :=
  let facts := ["__name__", "__qualname__", "__doc__", "__module__"].filterMap fun key =>
    ((attributeOf f f key).toOption).map fun m => (key, m)
  .lone 0
    (named name ((facts.lookup "__name__").map Meaning.display)
      ("<" ++ name ++ "(" ++ f.written ++ ")>"))
    (("__func__", f) :: ("__wrapped__", f) :: facts)

/-- The attributes of an object that the classes behind one of its classes
define. -/
def superOf (arguments : List Meaning) : Except Problem Meaning := do
  let made (written : String) (self owner cls : Meaning) : Meaning :=
    .lone 0 (named "super" none written)
      [("__thisclass__", cls), ("__self__", self), ("__self_class__", owner)]
  match arguments with
  | [] => throw (.told .runtimeError "super(): no arguments")
  | .type t :: others =>
      let cls := Meaning.type t
      if !t.isClass then
        throw (mistaken ("super() argument 1 must be a type, not "
          ++ Problem.longName cls.className))
      match others with
      | [] => return made ("<super: " ++ cls.written ++ ", NULL>") .absent .absent cls
      | m :: _ =>
          let label := (t.name?).getD ""
          let own :=
            match m with
            | .type s =>
                if s.isClass && BuiltinClass.comesFrom ((s.name?).getD "") label then s
                else classOf m
            | m => classOf m
          if !BuiltinClass.comesFrom ((own.name?).getD "") label then
            throw (mistaken "super(type, obj): obj must be an instance or subtype of type")
          return made ("<super: " ++ cls.written ++ ", <" ++ (own.name?).getD "" ++ " object>>")
            m (.type own) cls
  | m :: _ =>
      throw (mistaken ("super() argument 1 must be a type, not " ++ Problem.longName m.className))

/-- What another built-in class makes of some arguments without names. -/
def otherOf (name : String) (arguments : List Meaning) : Except Problem Meaning := do
  match name with
  | "range" => rangeOf arguments
  | "slice" =>
      requireBetween name 1 3 arguments.length
      match arguments with
      | [low, high, step] => return .slice low high step
      | [low, high] => return .slice low high .absent
      | arguments => return .slice .absent (arguments.headD .absent) .absent
  | "staticmethod" | "classmethod" =>
      requireBetween name 1 1 arguments.length
      return wrapped name (arguments.headD .absent)
  | "super" =>
      requireBetween (name ++ "()") 0 2 arguments.length
      superOf arguments
  | "NotImplementedType" =>
      if arguments.isEmpty then return .notImplemented
      else throw (mistaken "NotImplementedType takes no arguments")
  | "ellipsis" =>
      if arguments.isEmpty then return .object .ellipsis
      else throw (mistaken "EllipsisType takes no arguments")
  | name => return .lone 0 (unknownObject name) []

/-- The places of the arguments of a class that takes some of them by their
names. -/
def signatureOf? (name : String) : Option Signature :=
  match name with
  | "int" => some { name, formals := ["", "base"] }
  | "complex" => some { name, formals := ["real", "imag"] }
  | "str" => some { name, formals := ["object", "encoding", "errors"] }
  | "bytes" | "bytearray" => some { name, formals := ["source", "encoding", "errors"] }
  | "memoryview" => some { name, formals := ["object"], required := 1 }
  | "property" => some { name, formals := ["fget", "fset", "fdel", "doc"] }
  | _ => none

/-- The text that some arguments make. -/
def textOf (m? encoding? errors? : Option Meaning) : Except Problem Meaning := do
  let plain (m : Meaning) : Object := (m.byteRow?.map Object.bytes).getD m.toObject
  match m?, encoding?, errors? with
  | none, _, _ => return .text ""
  | some m, none, none => return .text (← m.shown)
  | some m, _, _ =>
      let encoding := (encoding?.map Meaning.toObject).getD (.text "utf-8")
      let errors := (errors?.map Meaning.toObject).toList
      return .object (← Object.textOf (plain m :: encoding :: errors))

/-- What a class makes of arguments in the places that it has for them. -/
def filledOf (name : String) (places : List (Option Meaning)) : Except Problem Meaning := do
  let place (i : Nat) : Option Meaning := (places[i]?).join
  match name with
  | "int" => return .object (← integerOf (place 0) (place 1))
  | "complex" => return .object (← complexOf (place 0) (place 1))
  | "str" => textOf (place 0) (place 1) (place 2)
  | "bytes" => return .object (.bytes (← bytesOf name (place 0) (place 1) (place 2)))
  | "bytearray" => return .buffer name (← bytesOf name (place 0) (place 1) (place 2))
  | "memoryview" =>
      match (place 0).bind Meaning.byteRow? with
      | some row => return .buffer name row
      | none =>
          throw (mistaken ("memoryview: a bytes-like object is required, not '"
            ++ Problem.longName (((place 0).getD .absent).className) ++ "'"))
  | _ =>
      let given (i : Nat) : Meaning := (place i).getD .absent
      let told := ((place 0).bind fun f => part? f "__doc__").getD .absent
      return .lone 0 (unknownObject name)
        [("fget", given 0), ("fset", given 1), ("fdel", given 2),
         ("__doc__", (place 3).getD told), ("__isabstractmethod__", .flag false)]

/-- Objects of a class are not made by calling it. -/
def isUncreatable (name : String) : Bool :=
  name.endsWith "iterator" || name.endsWith "_descriptor"
    || ["builtin_function_or_method", "dict_keys", "dict_items", "dict_values", "generator",
      "method-wrapper", "frame", "UnionType"].contains name

/-- What a class makes of some arguments whose objects tell how something
works. -/
def inner? (name : String) (arguments : List Meaning) (entries : List (String × Meaning)) :
    Option (Except Problem Meaning) :=
  match name with
  | "code" => some do
      refuseNames name entries
      throw (.atLeast name 16 arguments.length)
  | "GenericAlias" => some do
      refuseNames name entries
      requireBetween name 2 2 arguments.length
      match arguments with
      | [.type (.builtin origin), index] => return .type (.generic origin (typeArguments index))
      | m :: _ => throw (.argumentsOfObject (Problem.longName m.className))
      | [] => return .absent
  | "function" => some do
      let signature : Signature :=
        { name, formals := ["code", "globals", "name", "argdefs", "closure"], required := 2 }
      let places ← signature.fill arguments entries
      throw (mistaken ("function() argument 'code' must be code, not "
        ++ Problem.longName ((places.head?.join).getD .absent).toObject.placeName))
  | "mappingproxy" => some do
      let signature : Signature := { name, formals := ["mapping"], required := 1 }
      let m := (((← signature.fill arguments entries).head?).join).getD .absent
      match m.entries? with
      | some found => return .object (.view (Meaning.toEntries found))
      | none =>
          throw (mistaken ("mappingproxy() argument must be a mapping, not "
            ++ Problem.longName m.className))
  | name =>
      if isUncreatable name then
        let home := if name = "UnionType" then "types." else ""
        some (.error (mistaken ("cannot create '" ++ home ++ name ++ "' instances")))
      else none

/-- What a class makes of some arguments, of which some have names, where no
argument is walked through. -/
def construct (t : Ty) (arguments : List Meaning) (entries : List (String × Meaning)) :
    Except Problem Meaning := do
  let name := (t.name?).getD ""
  if let some result := inner? name arguments entries then return ← result
  match t, signatureOf? name with
  | .builtin (.error cls), _ => Raising.raise cls arguments entries
  | _, some signature => filledOf name (← signature.fill arguments entries)
  | .builtin (.other "type"), none =>
      match arguments with
      | [m] =>
          refuseNames name entries
          return .type (classOf m)
      | [label, bases, attributes] => classOfParts label bases attributes entries
      | _ => throw (mistaken "type() takes 1 or 3 arguments")
  | .builtin .object, none =>
      if arguments.isEmpty && entries.isEmpty then return .lone 0 (unknownObject name) []
      else throw .objectTakesNothing
  | t, none =>
      refuseNames name entries
      match t with
      | .bool => return .flag (((← oneOrNone name arguments).map Meaning.truthy).getD false)
      | .float =>
          match ← oneOrNone name arguments with
          | some m => return .object (← floatOf m)
          | none => return .object (.float .zero)
      | .absent =>
          if arguments.isEmpty then return .absent
          else throw (mistaken "NoneType takes no arguments")
      | .builtin (.other name) => otherOf name arguments
      | t => throw (.notCallable t.label)

end CommandConsole.Expression
