/-
The types that a parameter may declare.

Some are classes, whose objects a token can be converted to. Others only
describe objects: unions, forms with arguments such as `list[int]`, and
whatever object stands in the place of a type.
-/
import CommandConsole.Object.Places
import CommandConsole.Ty.Enumeration

namespace CommandConsole

/-- The built-in classes that are no numbers and no texts. -/
inductive BuiltinClass where
  | list
  | tuple
  | dict
  | set
  | frozenSet
  | bytes
  | object
  /-- A class of what can be raised. -/
  | error (name : String)
  /-- Any other one. -/
  | other (name : String)
deriving DecidableEq

/-- The name of a built-in class. -/
def BuiltinClass.label : BuiltinClass → String
  | .list => "list"
  | .tuple => "tuple"
  | .dict => "dict"
  | .set => "set"
  | .frozenSet => "frozenset"
  | .bytes => "bytes"
  | .object => "object"
  | .error name => name
  | .other name => name

/-- A type. -/
inductive Ty where
  | bool
  | int
  | float
  | complex
  | decimal
  | fraction
  | text
  | enumeration (e : Enumeration)
  | builtin (c : BuiltinClass)
  /-- A class of the host, known by its module and its name. -/
  | host (home name : String)
  /-- The class of the absent object. -/
  | absent
  /-- A built-in class with arguments, such as `list[int]`. -/
  | generic (origin : BuiltinClass) (arguments : List Ty)
  /-- The types that the arguments of a type give a row of arguments. -/
  | unpacked (origin : BuiltinClass) (arguments : List Ty)
  /-- A list type by its capital name, such as `List[int]`. -/
  | listOf (item : Ty)
  /-- Any object. -/
  | anything
  | literal (values : List Object)
  | callable (arguments : List Ty) (result : Ty)
  /-- A type with a note. -/
  | annotated (base : Ty) (note : Object)
  /-- A type variable. -/
  | variable (name : String)
  /-- Several types, of which none is a union. A union is written with bars
  if it was made with bars. -/
  | union (withBars : Bool) (members : List Ty)
  /-- The type that an expression stands for, which is read later. -/
  | reference (s : String)
  /-- An object in the place of a type. -/
  | value (x : Object)
deriving Inhabited

namespace Ty

-- ================================================================ spelling

/-- A class as it is written in code. -/
def writtenClass (name : String) : String := "<class '" ++ name ++ "'>"

/-- The full name of a class: its module, unless it is built in, and its
name. -/
def fullName : Ty → String
  | .bool => "bool"
  | .int => "int"
  | .float => "float"
  | .complex => "complex"
  | .decimal => "decimal.Decimal"
  | .fraction => "fractions.Fraction"
  | .text => "str"
  | .enumeration e => e.cls.home ++ "." ++ e.name
  | .builtin c => c.label
  | .host home name => home ++ "." ++ name
  | .absent => "NoneType"
  | _ => ""

/-- A union of some members as it is written in code: one of a type and the
absent object is optional. -/
def writtenUnion (members : List String) : String :=
  match members with
  | ["NoneType", other] => "typing.Optional[" ++ other ++ "]"
  | [other, "NoneType"] => "typing.Optional[" ++ other ++ "]"
  | _ => Object.bracketed "typing.Union[" "]" members

/-- A union of some members as it is written with bars. -/
def writtenBars (members : List String) : String :=
  " | ".intercalate (members.map fun s => if s = "NoneType" then "None" else s)

/-- A class with arguments as it is written in code. An empty row of
arguments is written between parentheses. -/
def writtenGeneric (origin : BuiltinClass) (arguments : List String) : String :=
  Object.bracketed (origin.label ++ "[") "]" (if arguments.isEmpty then ["()"] else arguments)

/-- The name that stands for an object among the arguments of a type, if one
does: that of a class, or of a routine that is built in. -/
def argumentName? : Object → Option String
  | .sealed "type" label? _ _ => label?
  | .sealed "ellipsis" _ _ _ => some "..."
  | .sealed "builtin_function_or_method" label? written _ =>
      if written.startsWith "<built-in function" then label? else none
  | _ => none

mutual

/-- A type as it is written among the arguments of another one: a class by
its full name, and an object by its name if one stands for it. -/
def asArgument : Ty → String
  | .generic origin arguments => writtenGeneric origin (argumentList arguments)
  | .unpacked origin arguments => "*" ++ writtenGeneric origin (argumentList arguments)
  | .listOf item => "typing.List[" ++ asArgument item ++ "]"
  | .anything => "typing.Any"
  | .literal values => Object.bracketed "typing.Literal[" "]" (values.map Object.written)
  | .callable arguments result =>
      "typing.Callable[" ++ Object.bracketed "[" "]" (argumentList arguments) ++ ", "
        ++ asArgument result ++ "]"
  | .annotated base note =>
      "typing.Annotated[" ++ asArgument base ++ ", " ++ note.written ++ "]"
  | .variable name => "~" ++ name
  | .union withBars members =>
      (if withBars then writtenBars else writtenUnion) (argumentList members)
  | .reference s => "ForwardRef(" ++ Text.quoted s ++ ")"
  | .value x => (argumentName? x).getD x.written
  | type => type.fullName

/-- The arguments of a type as they are written in code. -/
def argumentList : List Ty → List String
  | [] => []
  | type :: rest => asArgument type :: argumentList rest

end

/-- The type is a class. -/
def isClass : Ty → Bool
  | .bool | .int | .float | .complex | .decimal | .fraction | .text
  | .enumeration _ | .builtin _ | .host _ _ | .absent => true
  | _ => false

/-- A type as it is written in code. -/
def written (type : Ty) : String :=
  match type with
  | .enumeration e =>
      (if e.cls.hasFlags then "<flag " else "<enum ") ++ Text.quoted e.name ++ ">"
  | .value x => x.written
  | type => if type.isClass then writtenClass type.fullName else type.asArgument

/-- The plain name of a type, if it has one. -/
def name? : Ty → Option String
  | .decimal => some "Decimal"
  | .fraction => some "Fraction"
  | .enumeration e => some e.name
  | .host _ name => some name
  | .generic origin _ => some origin.label
  | .listOf _ => some "List"
  | .anything => some "Any"
  | .literal _ => some "Literal"
  | .callable _ _ => some "Callable"
  | .annotated _ _ => some "Annotated"
  | .variable name => some name
  | .unpacked origin _ => some origin.label
  | .union withBars members =>
      if withBars then none
      else
        match argumentList members with
        | ["NoneType", _] => some "Optional"
        | [_, "NoneType"] => some "Optional"
        | _ => some "Union"
  | .reference _ => none
  | .value x => x.label?
  | type => some type.fullName

/-- The type has arguments, and its name does not tell them. -/
def hasArguments : Ty → Bool
  | .generic _ _ | .unpacked _ _ | .listOf _ | .literal _ | .callable _ _
  | .annotated _ _ | .union _ _ => true
  | _ => false

/-- The label of a type in messages: its plain name, with its arguments if
it has some. -/
def label (type : Ty) : String :=
  if type.hasArguments then
    let s := type.written
    if s.startsWith "typing." then String.ofList (s.toList.drop 7) else s
  else type.name?.getD type.written

-- =============================================================== equality

/-- Every value of the second row is in the first one, as an object of the
same class: the number one is no truth value here. -/
def literalHolds (xs ys : List Object) : Bool :=
  ys.all fun y => xs.any fun x => y.className == x.className && y.same x

mutual

/-- Two types are the same type. Enumerations and classes of the host are
known by their modules and names. -/
def same (a b : Ty) : Bool :=
  match a with
  | .bool => match b with | .bool => true | _ => false
  | .int => match b with | .int => true | _ => false
  | .float => match b with | .float => true | _ => false
  | .complex => match b with | .complex => true | _ => false
  | .decimal => match b with | .decimal => true | _ => false
  | .fraction => match b with | .fraction => true | _ => false
  | .text => match b with | .text => true | _ => false
  | .enumeration e =>
      match b with | .enumeration f => e.cls == f.cls | _ => false
  | .builtin c => match b with | .builtin d => c == d | _ => false
  | .host m n => match b with | .host m' n' => m == m' && n == n' | _ => false
  | .absent => match b with | .absent => true | _ => false
  | .generic o xs =>
      match b with | .generic o' ys => o == o' && sameAll xs ys | _ => false
  | .unpacked o xs =>
      match b with | .unpacked o' ys => o == o' && sameAll xs ys | _ => false
  | .listOf x => match b with | .listOf y => same x y | _ => false
  | .anything => match b with | .anything => true | _ => false
  | .literal xs =>
      match b with
      | .literal ys => literalHolds ys xs && literalHolds xs ys
      | _ => false
  | .callable xs x =>
      match b with
      | .callable ys y => sameAll xs ys && same x y
      | _ => false
  | .annotated x p =>
      match b with | .annotated y q => same x y && p.same q | _ => false
  | .variable n => match b with | .variable n' => n == n' | _ => false
  | .union _ xs =>
      match b with
      | .union _ ys => xs.length == ys.length && holdsAll xs ys
      | _ => false
  | .reference s => match b with | .reference t => s == t | _ => false
  | .value x => match b with | .value y => x.same y | _ => false

/-- Two rows of types are the same, one by one. -/
def sameAll : List Ty → List Ty → Bool
  | [], [] => true
  | x :: xs, y :: ys => same x y && sameAll xs ys
  | _, _ => false

/-- Every type of the first row is in the second one. -/
def holdsAll : List Ty → List Ty → Bool
  | [], _ => true
  | x :: xs, ys => (ys.any fun y => same x y) && holdsAll xs ys

end

mutual

/-- The class of the object that keeps a type from being a key. -/
def unhashable? : Ty → Option String
  | .value x => x.unhashable?
  | .generic _ arguments => unhashableIn? arguments
  | .unpacked _ arguments => unhashableIn? arguments
  | .listOf item => unhashable? item
  | .literal values => Object.unhashableIn? values
  | .callable arguments result => (unhashableIn? arguments).or (unhashable? result)
  | .annotated base note => (unhashable? base).or note.unhashable?
  | .union _ members => unhashableIn? members
  | _ => none

/-- The class of the first object that keeps one of some types from being a
key. -/
def unhashableIn? : List Ty → Option String
  | [] => none
  | type :: rest =>
      match unhashable? type with
      | some cls => some cls
      | none => unhashableIn? rest

end

-- ================================================================== kinds

/-- The type is an enumeration. -/
def isEnumeration : Ty → Bool
  | .enumeration _ => true
  | _ => false

/-- The type is one of the classes of numbers; truth values count. -/
def isPrimitive : Ty → Bool
  | .bool | .int | .float | .complex | .decimal | .fraction => true
  | _ => false

/-- A type whose owner alone can change it. -/
def frozen : Ty → Ty
  | .value x => .value x.frozen
  | type => type

-- ================================================================= unions

/-- The types that a union with the given parts has for members: the
members of a part that is a union, and the part itself otherwise. -/
def flattened : List Ty → List Ty
  | [] => []
  | .union _ members :: rest => members ++ flattened rest
  | .value .none :: rest => .absent :: flattened rest
  | type :: rest => type :: flattened rest

/-- A row of types without those that were there before. -/
def distinct (seen : List Ty) : List Ty → List Ty
  | [] => []
  | type :: rest =>
      if seen.any fun other => other.same type then distinct seen rest
      else type :: distinct (type :: seen) rest

/-- The type of what belongs to one of several types. A union of unions is
one union, no member stands in it twice, and a union of one type is that
type. -/
def unionOf (withBars : Bool) (parts : List Ty) : Ty :=
  match distinct [] (flattened parts) with
  | [type] => type
  | members => .union withBars members

/-- The type of what belongs to a type or is absent. -/
def optional (type : Ty) : Ty := unionOf false [type, .absent]

end Ty

end CommandConsole
