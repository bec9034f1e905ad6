/-
What expressions stand for.

An expression stands for a type or for an object. Rows are kept item by item
while an expression is evaluated, since a type may stand in them; a type
that stands in an object of another kind is an object that is known by its
class and by how it is written.

What can be changed, and what is told apart from everything that is like it,
is kept in a cell, and an expression stands for the cell. What is in a cell
may hold cells in its turn.
-/
import CommandConsole.Expression.AttributeTable
import CommandConsole.Expression.Syntax
import CommandConsole.Object.Construction
import CommandConsole.Object.Spelling
import CommandConsole.Ty.Raised

namespace CommandConsole

/-- A type as an object among others. -/
def Ty.toObject (type : Ty) : Object :=
  let s := type.written
  match type with
  | .generic _ _ | .unpacked _ _ => .sealed "types.GenericAlias" none s s
  | .union _ _ => .sealed "types.UnionType" none s s
  | .value x => x
  | type => .sealed "type" type.name? s s

mutual

/-- What an expression stands for. -/
inductive Meaning where
  | type (t : Ty)
  /-- An object that never changes and holds no other one. -/
  | object (x : Object)
  | tuple (items : List Meaning)
  | list (items : List Meaning)
  | dict (entries : List (Meaning × Meaning))
  | set (isFrozen : Bool) (items : List Meaning)
  /-- The keys, the values or the entries of a dictionary, as the name of the
  class says. -/
  | view (cls : String) (whole : Meaning)
  /-- Bytes that can be changed, or a window on some bytes. -/
  | buffer (cls : String) (row : List Nat)
  /-- The positions from one up to another one, by steps. -/
  | slice (low high step : Meaning)
  /-- A function of one expression: its name, the frames around it, how it
  takes its arguments, their names and the defaults of some of them. -/
  | function (id : Nat) (label : String) (scope : List Nat)
      (formals : List (Taking × String × Option Meaning)) (body : Expression)
  /-- An operation of an object, which a class defines. -/
  | method (owner : Meaning) (cls name : String) (kind : AttributeKind)
  /-- An operation of a class that is not bound to an object. -/
  | descriptor (cls name : String) (kind : AttributeKind)
  /-- What can be raised: its class, its arguments and what else it knows. -/
  | raised (id : Nat) (cls : String) (arguments : List Meaning)
      (fields : List (String × Meaning))
  /-- An object that equals no other one, with what it knows. -/
  | lone (id : Nat) (x : Object) (fields : List (String × Meaning))
  /-- An object that walks through others: its class, its name if it has one,
  and how it goes on. -/
  | walk (id : Nat) (cls : String) (label? : Option String) (walker : Walker)
  /-- What is kept in a cell. -/
  | cell (id : Nat)

/-- How a walk goes on. -/
inductive Walker where
  /-- It meets some objects, and may be stopped after them. -/
  | over (items : List Meaning) (ending : Option Problem)
  /-- It meets the items of a row from a place on, as they are then. The row
  must still have as many items as at first, if they are counted. -/
  | along (row : Meaning) (place : Nat) (size? : Option Nat)
  /-- It meets whole numbers. -/
  | counting (next last pace : Int)
  /-- It meets what a function makes of the objects that others meet. -/
  | mapped (f : Meaning) (sources : List Meaning)
  /-- It meets the objects of another walk that a function accepts. -/
  | filtered (f source : Meaning)
  /-- It meets rows of one object of each of some walks. -/
  | beside (sources : List Meaning) (isStrict : Bool)
  /-- It meets the objects of another walk with their numbers. -/
  | numbered (next : Int) (source : Meaning)
  /-- It meets what a function makes of nothing, until that is a certain
  object. -/
  | asked (f stop : Meaning)
  /-- It meets the elements of a comprehension: the frames around them, and
  the walks that have begun, the innermost first, by their clauses. -/
  | made (scope : List Nat) (key : Option Expression) (element : Expression)
      (clauses : List (Bool × Expression × Expression × List Expression))
      (levels : List (Nat × Meaning))
  /-- It meets what the body of a function gives away. -/
  | given (scope : List Nat) (body : Expression)

end

instance : Inhabited Meaning := ⟨.object .none⟩

namespace Meaning

/-- An object of which no more is told than its class, its name if it has
one, and how it is written. -/
def named (cls : String) (label? : Option String) (written : String) : Object :=
  .sealed cls label? written written

/-- A routine that is built in, as an object. -/
def routineObject (name : String) : Object :=
  named "builtin_function_or_method" (some name) ("<built-in function " ++ name ++ ">")

/-- An operation of an object of a class, as an object. -/
def methodObject (cls name : String) (kind : AttributeKind) : Object :=
  let owner := name ++ (if kind = .slot then "' of " else " of ") ++ cls ++ " object at 0x>"
  if kind = .slot then named "method-wrapper" (some name) ("<method-wrapper '" ++ owner)
  else named "builtin_function_or_method" (some name) ("<built-in method " ++ owner)

/-- An operation of a class that is bound to no object, as an object. -/
def descriptorObject (cls name : String) (kind : AttributeKind) : Object :=
  let written (noun : String) : String :=
    "<" ++ noun ++ " '" ++ name ++ "' of '" ++ cls ++ "' objects>"
  match kind with
  | .method => named "method_descriptor" (some name) (written "method")
  | .slot => named "wrapper_descriptor" (some name) (written "slot wrapper")
  | .computed => named "getset_descriptor" (some name) (written "attribute")
  | .stored => named "member_descriptor" (some name) (written "member")
  | .ofClass => methodObject "type" name kind
  | .withheld => .none

/-- A view of a dictionary as an object. -/
def viewObject (cls : String) (whole : Object) : Object :=
  let entries :=
    match whole with
    | .dict entries => entries
    | _ => []
  let rows := entries.map fun (key, x) =>
    match cls with
    | "dict_keys" => key.written
    | "dict_values" => x.written
    | _ => (Object.tuple [key, x]).written
  named cls none (cls ++ Object.bracketed "([" "])" rows)

/-- Bytes in a buffer as an object. -/
def bufferObject (cls : String) (row : List Nat) : Object :=
  named cls none
    (if cls = "bytearray" then "bytearray(" ++ (Object.bytes row).written ++ ")"
    else "<memory at 0x>")

/-- What can be raised as an object. -/
def raisedObject (cls : String) (arguments : List Object) (fields : List (String × Object)) :
    Object :=
  .sealed cls none (Raised.written cls arguments)
    (Raised.shown cls arguments fun name => (fields.lookup name).getD .none)

mutual

/-- What an expression stands for as an object. -/
def toObject : Meaning → Object
  | .type t => t.toObject
  | .object x => x
  | .tuple items => .tuple (toObjects items)
  | .list items => .list (toObjects items)
  | .dict entries => .dict (toEntries entries)
  | .set false items => .set (toObjects items)
  | .set true items => .frozenSet (toObjects items)
  | .view cls whole => viewObject cls (toObject whole)
  | .buffer cls row => bufferObject cls row
  | .slice low high step =>
      named "slice" none (Object.bracketed "slice(" ")"
        [(toObject low).written, (toObject high).written, (toObject step).written])
  | .function _ label _ _ _ =>
      named "function" (some "<lambda>") ("<function " ++ label ++ " at 0x>")
  | .method owner _ name kind => methodObject (toObject owner).className name kind
  | .descriptor cls name kind => descriptorObject cls name kind
  | .raised _ cls arguments fields => raisedObject cls (toObjects arguments) (toFields fields)
  | .lone _ x _ => x
  | .walk _ cls label? _ =>
      named cls label? ("<" ++ cls ++ " object " ++ (label?.map (· ++ " ")).getD "" ++ "at 0x>")
  | .cell _ => .none

/-- The objects that a row of expressions stands for. -/
def toObjects : List Meaning → List Object
  | [] => []
  | m :: rest => toObject m :: toObjects rest

/-- Entries of a dictionary as entries of objects. -/
def toEntries : List (Meaning × Meaning) → List (Object × Object)
  | [] => []
  | (key, m) :: rest => (toObject key, toObject m) :: toEntries rest

/-- What is known under some names, as objects. -/
def toFields : List (String × Meaning) → List (String × Object)
  | [] => []
  | (name, m) :: rest => (name, toObject m) :: toFields rest

end

mutual

/-- An object as what an expression stands for. -/
def ofObject : Object → Meaning
  | .list items => .list (ofObjects items)
  | .tuple items => .tuple (ofObjects items)
  | .set items => .set false (ofObjects items)
  | .frozenSet items => .set true (ofObjects items)
  | .dict entries => .dict (ofEntries entries)
  | .sealed cls label? written shown =>
      match cls, label?.bind Ty.named? with
      | "type", some t => .type t
      | _, _ => .object (.sealed cls label? written shown)
  | x => .object x

/-- A row of objects as what a row of expressions stands for. -/
def ofObjects : List Object → List Meaning
  | [] => []
  | x :: rest => ofObject x :: ofObjects rest

/-- Entries of objects as what expressions stand for. -/
def ofEntries : List (Object × Object) → List (Meaning × Meaning)
  | [] => []
  | (key, x) :: rest => (ofObject key, ofObject x) :: ofEntries rest

end

/-- A text. -/
def text (s : String) : Meaning := .object (.text s)

/-- A truth value. -/
def flag (b : Bool) : Meaning := .object (.bool b)

/-- A whole number. -/
def number (n : Int) : Meaning := .object (.int n)

/-- The absent object. -/
def absent : Meaning := .object .none

/-- What tells that an operation is not defined for some objects. -/
def notImplemented : Meaning :=
  .object (named "NotImplementedType" none "NotImplemented")

/-- A routine that is built in. -/
def routine (name : String) : Meaning := .object (routineObject name)

/-- The name of the class of what an expression stands for. -/
def className (m : Meaning) : String :=
  match m with
  | .raised _ cls _ _ => cls
  | m => m.toObject.className

/-- The entries of a dictionary, also of one that is seen through a view. -/
def entries? : Meaning → Option (List (Meaning × Meaning))
  | .dict entries => some entries
  | .object (.view entries) => some (ofEntries entries)
  | _ => none

/-- What a view of a dictionary shows. -/
def viewItems (cls : String) (entries : List (Meaning × Meaning)) : List Meaning :=
  match cls with
  | "dict_keys" => entries.map (·.1)
  | "dict_values" => entries.map (·.2)
  | _ => entries.map fun (key, m) => .tuple [key, m]

/-- The two items of a tuple of two. -/
def pair? : Meaning → Option (Meaning × Meaning)
  | .tuple [m, n] => some (m, n)
  | _ => none

/-- What a walk through something meets, if it can be walked through. A
walk through a type with arguments meets their row. -/
def items? : Meaning → Option (List Meaning)
  | .type (.generic origin arguments) => some [.type (.unpacked origin arguments)]
  | .type (.unpacked origin arguments) => some [.type (.unpacked origin arguments)]
  | .list items => some items
  | .tuple items => some items
  | .set _ items => some items
  | .dict entries => some (entries.map (·.1))
  | .view cls whole => whole.entries?.map (viewItems cls)
  | .buffer _ row => some (row.map fun n => number (Int.ofNat n))
  | .walk _ _ _ (.over items _) => some items
  | .object x => x.items?.map ofObjects
  | _ => none

/-- What a walk through something meets. -/
def items (m : Meaning) : Except Problem (List Meaning) :=
  match m.items? with
  | some items => .ok items
  | none => .error (.notIterable m.className)

/-- The number of items of something, if it tells one. -/
def size? : Meaning → Option Nat
  | .list items => some items.length
  | .tuple items => some items.length
  | .set _ items => some items.length
  | .dict entries => some entries.length
  | .view _ whole => whole.entries?.map List.length
  | .buffer _ row => some row.length
  | .object x => x.size?
  | _ => none

/-- What an expression stands for counts as true. -/
def truthy (m : Meaning) : Bool :=
  match m with
  | .object x => x.truthy
  | m => m.size? != some 0

/-- What an expression stands for, as it is written in code. -/
def written (m : Meaning) : String := m.toObject.written

/-- What an expression stands for, as it is shown in a message. -/
def display (m : Meaning) : String := m.toObject.display

/-- What an expression stands for, as it is written in code, if it can be. -/
def spelled (m : Meaning) : Except Problem String := m.toObject.spelled

/-- What an expression stands for, as it is shown in a message, if it can
be. -/
def shown (m : Meaning) : Except Problem String := m.toObject.shown

/-- The whole number that an expression stands for, if it stands for one. -/
def integer? (m : Meaning) : Option Int :=
  match m with
  | .object x => x.integer?
  | _ => none

/-- The bytes of something that is made of bytes. -/
def byteRow? : Meaning → Option (List Nat)
  | .buffer _ row => some row
  | .object (.bytes row) => some row
  | _ => none

mutual

/-- The class of the object that keeps what an expression stands for from
being a key. -/
def unhashable? : Meaning → Option String
  | .type t => t.unhashable?
  | .tuple items => unhashableIn? items
  | .list _ => some "list"
  | .dict _ => some "dict"
  | .set isFrozen _ => if isFrozen then none else some "set"
  | .view cls _ => if cls = "dict_values" then none else some cls
  | .buffer cls _ => if cls = "bytearray" then some cls else none
  | .slice _ _ _ => some "slice"
  | .object x => x.unhashable?
  | _ => none

/-- The class of the first object that keeps one of a row from being a
key. -/
def unhashableIn? : List Meaning → Option String
  | [] => none
  | m :: rest =>
      match unhashable? m with
      | some cls => some cls
      | none => unhashableIn? rest

end

-- ================================================================ equality

mutual

/-- Two expressions stand for equal types or objects. What is told apart
from all that is like it equals itself alone. -/
def same (a b : Meaning) : Bool :=
  match a with
  | .type s =>
      match b with
      | .type t => s.same t
      | _ => false
  | .tuple xs =>
      match b with
      | .tuple ys => sameRow xs ys
      | b => (Object.tuple (toObjects xs)).same b.toObject
  | .list xs =>
      match b with
      | .list ys => sameRow xs ys
      | _ => false
  | .dict xs =>
      match b with
      | .dict ys => xs.length == ys.length && holdsEntries xs ys
      | _ => false
  | .set _ xs => sameSet xs b
  | .view cls whole =>
      match b with
      | .view cls' other =>
          cls != "dict_values" && cls' != "dict_values"
            && (viewObject cls (toObject whole)).same (viewObject cls' (toObject other))
      | .set _ ys =>
          match cls, toObject whole with
          | "dict_keys", .dict entries => Object.sameSets (entries.map (·.1)) (.set (toObjects ys))
          | _, _ => false
      | _ => false
  | .slice x y z =>
      match b with
      | .slice x' y' z' => same x x' && same y y' && same z z'
      | _ => false
  | .buffer _ row => b.byteRow? == some row
  | .function id _ _ _ _ =>
      match b with
      | .function other _ _ _ _ => id == other
      | _ => false
  | .raised id _ _ _ =>
      match b with
      | .raised other _ _ _ => id == other
      | _ => false
  | .lone id _ _ =>
      match b with
      | .lone other _ _ => id == other
      | _ => false
  | .walk id _ _ _ =>
      match b with
      | .walk other _ _ _ => id == other
      | _ => false
  | .method owner _ name kind =>
      match b with
      | .method owner' _ name' kind' => name == name' && kind == kind' && same owner owner'
      | _ => false
  | .descriptor cls name _ =>
      match b with
      | .descriptor cls' name' _ => cls == cls' && name == name'
      | _ => false
  | .cell id =>
      match b with
      | .cell other => id == other
      | _ => false
  | .object (.bytes row) => b.byteRow? == some row
  | .object x =>
      match b with
      | .object y => x.same y
      | .tuple ys => x.same (.tuple (toObjects ys))
      | _ => false

/-- Two rows are equal item by item. -/
def sameRow : List Meaning → List Meaning → Bool
  | [], [] => true
  | x :: xs, y :: ys => same x y && sameRow xs ys
  | _, _ => false

/-- Every item of the first row is in the second one. -/
def holdsItems : List Meaning → List Meaning → Bool
  | [], _ => true
  | x :: xs, ys => (ys.any fun y => same x y) && holdsItems xs ys

/-- Something is a set of the given items, or shows the keys of a
dictionary that are those. -/
def sameSet (xs : List Meaning) (b : Meaning) : Bool :=
  match b with
  | .set _ ys => xs.length == ys.length && holdsItems xs ys
  | .view "dict_keys" (.dict entries) =>
      xs.length == entries.length && holdsItems xs (entries.map (·.1))
  | _ => false

/-- Every entry of the first dictionary is one of the second. -/
def holdsEntries : List (Meaning × Meaning) → List (Meaning × Meaning) → Bool
  | [], _ => true
  | (key, m) :: rest, ys =>
      (ys.any fun entry => same key entry.1 && same m entry.2) && holdsEntries rest ys

end

/-- Two objects are one object, as far as objects that are equal are told
apart. -/
def identicalObjects (x y : Object) : Bool := x.className = y.className && x.same y

/-- The number of the cell that is an object, or that it is kept in. -/
def id? : Meaning → Option Nat
  | .cell id => some id
  | .function id _ _ _ _ => some id
  | .raised id _ _ _ => some id
  | .lone id _ _ => some id
  | .walk id _ _ _ => some id
  | _ => none

mutual

/-- Two expressions stand for one type or object. What is made anew is told
apart from everything else by its cell. -/
def identical : Meaning → Meaning → Bool
  | .type s, b =>
      match b with
      | .type t => s.isClass && s.same t
      | _ => false
  | .object x, b =>
      match b with
      | .object y => identicalObjects x y
      | _ => false
  | .tuple xs, b =>
      match b with
      | .tuple ys => identicalRows xs ys
      | _ => false
  | .descriptor cls name _, b =>
      match b with
      | .descriptor cls' name' _ => cls == cls' && name == name'
      | _ => false
  | a, b => a.id?.isSome && a.id? == b.id?

/-- Two rows hold the same constants. -/
def identicalRows : List Meaning → List Meaning → Bool
  | [], [] => true
  | x :: xs, y :: ys => identical x y && identicalRows xs ys
  | _, _ => false

end

/-- The value under a key of some entries. -/
def valueAt? (entries : List (Meaning × Meaning)) (key : Meaning) : Option Meaning :=
  (entries.find? fun entry => entry.1.same key).map (·.2)

/-- Some entries with one more entry, in the place of one with an equal
key. -/
def withEntry (key value : Meaning) : List (Meaning × Meaning) → List (Meaning × Meaning)
  | [] => [(key, value)]
  | entry :: rest =>
      if entry.1.same key then (entry.1, value) :: rest
      else entry :: withEntry key value rest

/-- Some entries with those of a second dictionary. -/
def unitedEntries (xs ys : List (Meaning × Meaning)) : List (Meaning × Meaning) :=
  ys.foldl (fun entries entry => withEntry entry.1 entry.2 entries) xs

/-- Refuses what cannot be a key. -/
def asKey (m : Meaning) : Except Problem Meaning :=
  match m.unhashable? with
  | some cls => .error (.unhashable cls)
  | none => .ok m

end Meaning

end CommandConsole
