/-
Expressions that stand for types.

A declaration may tell a type by an expression that is read later. Most of
them are a name, a type with arguments between brackets, or types with bars
in between; but any expression may stand there, and what it stands for is
found by evaluating it.
-/
import CommandConsole.Object.Arithmetic

namespace CommandConsole

/-- The object that three points stand for. -/
def Object.ellipsis : Object := .sealed "ellipsis" Option.none "Ellipsis" "Ellipsis"

/-- What stands between two parts of a comparison. -/
inductive Comparator where
  | relation (r : Relation)
  | equal
  | unequal
  | inside
  | outside
  | identical
  | distinct
deriving DecidableEq

/-- How a call gives an argument. -/
inductive Passing where
  | plain
  /-- The items of the argument are arguments each. -/
  | spread
  | named (name : String)
  /-- The entries of the argument are named arguments each. -/
  | spreadNamed
deriving DecidableEq

/-- How a function of one expression takes an argument. -/
inductive Taking where
  | positional
  /-- By position, not by name. -/
  | positionalOnly
  | rest
  | named
  | namedRest
deriving DecidableEq

/-- What a comprehension makes of its elements. -/
inductive Collection where
  | list
  | set
  | dict
  /-- Nothing before somebody asks for them. -/
  | stream
deriving DecidableEq

/-- The name of a comprehension. -/
def Collection.label : Collection → String
  | .list => "<listcomp>"
  | .set => "<setcomp>"
  | .dict => "<dictcomp>"
  | .stream => "<genexpr>"

/-- An expression. -/
inductive Expression where
  | constant (x : Object)
  | name (s : String)
  /-- A text that is put together from parts. -/
  | interpolated (parts : List Expression)
  /-- An object in such a text, as `s`, `r` or `a` say, laid out by a
  format. -/
  | formatted (e : Expression) (conversion : Option Char) (format : List Expression)
  | tuple (items : List Expression)
  | list (items : List Expression)
  | set (items : List Expression)
  /-- Values with their keys; a value without a key is a dictionary that
  gives its entries. -/
  | dict (entries : List (Option Expression × Expression))
  /-- The items of a row in the place of the row. -/
  | starred (e : Expression)
  | signed (sign : Sign) (e : Expression)
  | negation (e : Expression)
  | operation (op : Operator) (left right : Expression)
  /-- The last part, or the first one before it that does not count as
  true. -/
  | conjunction (parts : List Expression)
  /-- The last part, or the first one before it that counts as true. -/
  | disjunction (parts : List Expression)
  | comparison (first : Expression) (others : List (Comparator × Expression))
  | conditional (test yes no : Expression)
  | attribute (e : Expression) (name : String)
  | item (e index : Expression)
  | slice (low high step : Option Expression)
  | call (function : Expression) (arguments : List (Passing × Expression))
  /-- A function of one expression: how it takes its arguments, their names
  and the defaults of some of them. -/
  | function (formals : List (Taking × String × Option Expression)) (body : Expression)
  /-- Elements, perhaps with keys, for all items that some rows give the
  targets and that satisfy the conditions after them. A row may be told to
  give its items later. -/
  | comprehension (collection : Collection) (key : Option Expression)
      (element : Expression) (clauses : List (Bool × Expression × Expression × List Expression))
  /-- A name that is given to an object. -/
  | binding (name : String) (value : Expression)
  /-- The result of something that goes on meanwhile. -/
  | awaited (e : Expression)
  /-- An object that a function gives away before it goes on, or all objects
  of a row one by one. -/
  | yielded (whole : Bool) (value : Option Expression)
deriving Inhabited

/-- What the reader of an expression is warned about. -/
structure Caution where
  /-- The class of the warning. -/
  category : String
  message : String
deriving DecidableEq

/-- The use of something that will be taken away. -/
def Caution.deprecated (message : String) : Caution := ⟨"DeprecationWarning", message⟩

/-- The use of something that is likely to be a mistake. -/
def Caution.doubtful (message : String) : Caution := ⟨"SyntaxWarning", message⟩

end CommandConsole
