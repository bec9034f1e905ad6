/-
The objects that pass through the console: what a token is coerced to,
what a callback receives, and what host code hands to an operation in the
place where a text or a number is due.

Three things are asked of an object whatever its kind: whether it counts
as true, whether it equals another one, and how it is written.
-/
import CommandConsole.Number.Shortest
import CommandConsole.Number.Decimal
import CommandConsole.Number.Progression
import CommandConsole.Text.Quoted

namespace CommandConsole

open Number

/-- What the values of an enumeration are, and whether its members combine. -/
inductive EnumerationStyle where
  | plain
  | integer
  | text
  /-- Flags that combine among themselves only. -/
  | flags
  /-- Flags that combine with bits of no flag, too. -/
  | openFlags
deriving DecidableEq

/-- An enumeration as its members know it. -/
structure EnumerationClass where
  /-- The module it belongs to. -/
  home : String
  name : String
  style : EnumerationStyle
deriving DecidableEq

namespace EnumerationClass

/-- Members of the enumeration combine. -/
def hasFlags (c : EnumerationClass) : Bool :=
  c.style = .flags || c.style = .openFlags

end EnumerationClass

/-- An object. -/
inductive Object where
  /-- The absent object. -/
  | none
  | bool (b : Bool)
  | int (n : Int)
  | float (x : Binary64)
  | complex (re im : Binary64)
  | decimal (x : Decimal)
  | fraction (q : Rat)
  | text (s : String)
  | bytes (row : List Nat)
  /-- A member of an enumeration. A combination of flags consists of its
  parts, and has no name if it has none of them. -/
  | member (enumeration : EnumerationClass) (name : Option String) (value : Object)
      (parts : List Object)
  | list (items : List Object)
  | tuple (items : List Object)
  | set (items : List Object)
  | dict (entries : List (Object × Object))
  /-- A set that cannot be changed. -/
  | frozenSet (items : List Object)
  /-- A view of a dictionary that cannot be changed through it. -/
  | view (entries : List (Object × Object))
  /-- An instance of a class, with its fields in order. -/
  | record (cls : String) (fields : List (String × Object))
  /-- A tuple of a class that gives each of its items a name. -/
  | namedTuple (cls : String) (fields : List (String × Object))
  /-- An object that is known by its class, by its own name if it has one,
  and by how it is written and shown. -/
  | sealed (cls : String) (label? : Option String) (written shown : String)
  /-- The whole numbers from one up to another one, by steps. -/
  | range (first last pace : Int)
  /-- The mark of a value that was not given. -/
  | unset
deriving Inhabited

namespace Object

/-- The name of the class of an object. -/
def className : Object → String
  | .none => "NoneType"
  | .bool _ => "bool"
  | .int _ => "int"
  | .float _ => "float"
  | .complex _ _ => "complex"
  | .decimal _ => "decimal.Decimal"
  | .fraction _ => "Fraction"
  | .text _ => "str"
  | .bytes _ => "bytes"
  | .member enumeration _ _ _ => enumeration.name
  | .list _ => "list"
  | .tuple _ => "tuple"
  | .set _ => "set"
  | .dict _ => "dict"
  | .frozenSet _ => "frozenset"
  | .view _ => "mappingproxy"
  | .record cls _ => cls
  | .namedTuple cls _ => cls
  | .sealed cls _ _ _ => cls
  | .range _ _ _ => "range"
  | .unset => "UnsetType"

/-- The name that an object has of its own, if it has one. -/
def label? : Object → Option String
  | .sealed _ label? _ _ => label?
  | _ => Option.none

/-- The name of a member of an enumeration, if it has one. -/
def memberName? : Object → Option String
  | .member _ name _ _ => name
  | _ => Option.none

/-- An object counts as true unless it is absent, not given, a zero or
empty. -/
def truthy : Object → Bool
  | .none => false
  | .bool b => b
  | .int n => n != 0
  | .float x => !x.same .zero
  | .complex re im => !(re.same .zero && im.same .zero)
  | .decimal x =>
      match x with
      | .finite _ coefficient _ => coefficient != 0
      | _ => true
  | .fraction q => q != 0
  | .text s => s != ""
  | .bytes row => !row.isEmpty
  | .member enumeration _ value _ =>
      match enumeration.style with
      | .plain => true
      | _ => truthy value
  | .list items => !items.isEmpty
  | .tuple items => !items.isEmpty
  | .set items => !items.isEmpty
  | .dict entries => !entries.isEmpty
  | .frozenSet items => !items.isEmpty
  | .view entries => !entries.isEmpty
  | .record _ _ => true
  | .namedTuple _ fields => !fields.isEmpty
  | .sealed _ _ _ _ => true
  | .range first last pace => progressionSize first last pace != 0
  | .unset => false

-- ================================================================ equality

/-- The object itself, or the number or the text that a member of an
enumeration of numbers or texts is. -/
def bare : Object → Object
  | .member enumeration name value parts =>
      match enumeration.style with
      | .integer => value
      | .openFlags => value
      | .text => value
      | _ => .member enumeration name value parts
  | x => x

/-- The whole number that an object is, if it is one: a truth value counts
as zero or one. -/
def integer? (x : Object) : Option Int :=
  match x.bare with
  | .bool b => some (if b then 1 else 0)
  | .int n => some n
  | _ => Option.none

/-- The whole number that an object equals, if it equals one. -/
def whole? (x : Object) : Option Int :=
  match x.bare with
  | .float x => x.toInt?
  | x => x.integer?

mutual

/-- Two objects are equal: numbers by their value, containers of one kind
by what they hold. -/
def same (a b : Object) : Bool :=
  match a with
  | .none => match b with | .none => true | _ => false
  | .bool _ => a.whole? == b.whole?
  | .int _ => a.whole? == b.whole?
  | .float x =>
      match b.bare with
      | .float y => x.same y
      | _ => a.whole?.isSome && a.whole? == b.whole?
  | .complex x y =>
      match b with
      | .complex x' y' => x.same x' && y.same y'
      | _ => false
  | .decimal x => match b with | .decimal y => x == y | _ => false
  | .fraction p => match b with | .fraction q => p == q | _ => false
  | .text s => match b.bare with | .text t => s == t | _ => false
  | .bytes row => match b with | .bytes row' => row == row' | _ => false
  | .member e n v _ =>
      match e.style with
      | .integer => same v b.bare
      | .openFlags => same v b.bare
      | .text => same v b.bare
      | _ =>
          match b with
          | .member e' n' v' _ => e == e' && n == n' && same v v'
          | _ => false
  | .list xs => match b with | .list ys => sameItems xs ys | _ => false
  | .tuple xs =>
      match b with
      | .tuple ys => sameItems xs ys
      | .namedTuple _ ys => sameItems xs (ys.map (·.2))
      | _ => false
  | .set xs => sameSets xs b
  | .dict xs => match b with | .dict ys => sameEntries xs ys | _ => false
  | .frozenSet xs => sameSets xs b
  | .view xs => match b with | .view ys => sameEntries xs ys | _ => false
  | .record c xs =>
      match b with
      | .record c' ys => c == c' && sameFields xs ys
      | _ => false
  | .namedTuple _ xs =>
      match b with
      | .tuple ys => sameValues xs ys
      | .namedTuple _ ys => sameFields xs ys
      | _ => false
  | .sealed c _ w _ =>
      match b with | .sealed c' _ w' _ => c == c' && w == w' | _ => false
  | .range first last pace =>
      match b with
      | .range first' last' pace' => sameProgression (first, last, pace) (first', last', pace')
      | _ => false
  | .unset => match b with | .unset => true | _ => false

/-- Two rows of objects are equal item by item. -/
def sameItems : List Object → List Object → Bool
  | [], [] => true
  | x :: xs, y :: ys => same x y && sameItems xs ys
  | _, _ => false

/-- Every object of the first row is in the second one. -/
def holdsItems : List Object → List Object → Bool
  | [], _ => true
  | x :: xs, ys => (ys.any fun y => same x y) && holdsItems xs ys

/-- An object is a set of the given items, in whatever order. -/
def sameSets (xs : List Object) (b : Object) : Bool :=
  match b with
  | .set ys => xs.length == ys.length && holdsItems xs ys
  | .frozenSet ys => xs.length == ys.length && holdsItems xs ys
  | _ => false

/-- Two dictionaries hold equal values under equal keys. -/
def sameEntries (xs ys : List (Object × Object)) : Bool :=
  xs.length == ys.length && holdsEntries xs ys

/-- Every entry of the first dictionary is one of the second. -/
def holdsEntries : List (Object × Object) → List (Object × Object) → Bool
  | [], _ => true
  | (k, v) :: rest, ys =>
      (ys.any fun entry => same k entry.1 && same v entry.2)
        && holdsEntries rest ys

/-- The fields of a tuple are equal to the items of another one. -/
def sameValues : List (String × Object) → List Object → Bool
  | [], [] => true
  | (_, x) :: xs, y :: ys => same x y && sameValues xs ys
  | _, _ => false

/-- Two instances of a class have equal fields. -/
def sameFields : List (String × Object) → List (String × Object) → Bool
  | [], [] => true
  | (_, x) :: xs, (_, y) :: ys => same x y && sameFields xs ys
  | _, _ => false

end

mutual

/-- The class of the first object that cannot be a key: a container that
can be changed, or a row that holds one. -/
def unhashable? : Object → Option String
  | .list _ => some "list"
  | .set _ => some "set"
  | .dict _ => some "dict"
  | .view _ => some "mappingproxy"
  | .sealed "slice" _ _ _ => some "slice"
  | .sealed "bytearray" _ _ _ => some "bytearray"
  | .tuple items => unhashableIn? items
  | _ => Option.none

/-- The class of the first object of a row that cannot be a key. -/
def unhashableIn? : List Object → Option String
  | [] => Option.none
  | x :: rest =>
      match unhashable? x with
      | some cls => some cls
      | .none => unhashableIn? rest

end

-- ================================================================= writing

/-- The whole number `n` over the whole number `d`. -/
def writtenFraction (q : Rat) : String :=
  "Fraction(" ++ toString q.num ++ ", " ++ toString q.den ++ ")"

/-- The number without the fraction that holds no digit but zero. -/
def shortNumber (x : Binary64) : String :=
  let cs := x.text.toList
  match cs.reverse with
  | '0' :: '.' :: rest => String.ofList rest.reverse
  | _ => x.text

/-- A complex number with a unit after its imaginary part; a real part
that is a positive zero is left out. -/
def writtenComplex (re im : Binary64) : String :=
  let unit := shortNumber im ++ "j"
  if re = .zero then unit
  else
    let plus := if (im.text.toList.head? == some '-') then "" else "+"
    "(" ++ shortNumber re ++ plus ++ unit ++ ")"

/-- A byte as it is written between quotes of the given kind. -/
def writtenByte (quote : Char) (n : Nat) : List Char :=
  if n < 127 then Text.quotedChar quote (Char.ofNat n)
  else Text.escape n

/-- A row of bytes as it is written in code. -/
def writtenBytes (row : List Nat) : String :=
  let quote := Text.quoteFor (row.map Char.ofNat)
  String.ofList ('b' :: quote :: row.flatMap (writtenByte quote) ++ [quote])

/-- A row of texts between brackets. -/
def bracketed (left right : String) (items : List String) : String :=
  left ++ ", ".intercalate items ++ right

/-- A row of texts between parentheses; a single one keeps its comma. -/
def parenthesized : List String → String
  | [item] => "(" ++ item ++ ",)"
  | items => bracketed "(" ")" items

mutual

/-- An object as it is written in code. -/
def written : Object → String
  | .none => "None"
  | .bool b => if b then "True" else "False"
  | .int n => toString n
  | .float x => x.text
  | .complex re im => writtenComplex re im
  | .decimal x => "Decimal('" ++ x.text ++ "')"
  | .fraction q => writtenFraction q
  | .text s => Text.quoted s
  | .bytes row => writtenBytes row
  | .member enumeration name value _ =>
      "<" ++ enumeration.name ++ (name.map ("." ++ ·)).getD "" ++ ": "
        ++ written value ++ ">"
  | .list items => bracketed "[" "]" (writtenItems items)
  | .tuple items => parenthesized (writtenItems items)
  | .set items =>
      if items.isEmpty then "set()"
      else bracketed "\x7b" "\x7d" (writtenItems items)
  | .dict entries => bracketed "\x7b" "\x7d" (writtenEntries entries)
  | .frozenSet items =>
      if items.isEmpty then "frozenset()"
      else bracketed "frozenset(\x7b" "\x7d)" (writtenItems items)
  | .view entries =>
      bracketed "mappingproxy(\x7b" "\x7d)" (writtenEntries entries)
  | .record cls fields => bracketed (cls ++ "(") ")" (writtenFields fields)
  | .namedTuple cls fields => bracketed (cls ++ "(") ")" (writtenFields fields)
  | .sealed _ _ form _ => form
  | .range first last pace =>
      let bounds := [toString first, toString last]
      bracketed "range(" ")" (if pace = 1 then bounds else bounds ++ [toString pace])
  | .unset => "Unset"

/-- The items of a row as they are written in code. -/
def writtenItems : List Object → List String
  | [] => []
  | x :: rest => written x :: writtenItems rest

/-- The entries of a dictionary as they are written in code. -/
def writtenEntries : List (Object × Object) → List String
  | [] => []
  | (k, v) :: rest => (written k ++ ": " ++ written v) :: writtenEntries rest

/-- The fields of an instance as they are written in code. -/
def writtenFields : List (String × Object) → List String
  | [] => []
  | (name, x) :: rest => (name ++ "=" ++ written x) :: writtenFields rest

end

/-- An object as it is shown in a message: a text stands for itself. -/
def display (x : Object) : String :=
  match x.bare with
  | .text s => s
  | .decimal x => x.text
  | .fraction q =>
      if q.den = 1 then toString q.num
      else toString q.num ++ "/" ++ toString q.den
  | .member enumeration (some name) _ _ => enumeration.name ++ "." ++ name
  | .member enumeration Option.none value _ =>
      enumeration.name ++ "(" ++ written value ++ ")"
  | .sealed _ _ _ shown => shown
  | x => written x

-- ================================================================ freezing

/-- The object, unless it was not given. -/
def orElse (x fallback : Object) : Object :=
  match x with
  | .unset => fallback
  | x => x

end Object

end CommandConsole
