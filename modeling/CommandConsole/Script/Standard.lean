/-
What every scripted host brings along: routines that convert and measure
objects, ways to read a token, two classes, and formats for logging a
collection.
-/
import CommandConsole.Object.Construction
import CommandConsole.Script.Basic

namespace CommandConsole.Script

/-- An error of host code with a text. -/
def complaint (label message : String) : Raised :=
  raised label (some (.text message))

/-- A problem or an object as host code sees it. -/
def lifted {α : Type} : Except Problem α → Except Raised α
  | .ok a => .ok a
  | .error p => .error (.problem p)

-- ================================================================ routines

/-- A routine that answers an object and leaves no record. -/
def plainRoutine {σ : Type} (name : String) (formals : Option (List Formal))
    (doc : Option String) (result : List Object → Except Problem Object) :
    Routine (Program σ) :=
  ⟨name, formals, doc, fun arguments => .done ((lifted (result arguments)).map .object)⟩

/-- The standard routine with a name. -/
def standardRoutine? {σ : Type} (name : String) : Option (Routine (Program σ)) :=
  match name with
  | "int" => some (plainRoutine name none none Object.integerOf)
  | "str" => some (plainRoutine name none none Object.textOf)
  | "max" => some (plainRoutine name none none Object.greatestOf)
  | "dict" => some (plainRoutine name none none Object.dictionaryOf)
  | "len" =>
      some (plainRoutine name (some [⟨"obj", .positionalOnly, false, none⟩])
        (some "Return the number of items in a container.")
        fun arguments => (arguments.headD .none).sizeOf)
  | _ => none

-- ================================================================= classes

/-- A point, a pair of coordinates. -/
def point (x y : Object) : Object := .namedTuple "Point" [("x", x), ("y", y)]

/-- A tag, which keeps a text. -/
def tag (s : String) : Object := .record "Tag" [("text", .text s)]

/-- The module of the classes that every scripted host has. -/
def home : String := "host"

/-- The object that a class of a scripted host makes of some arguments. -/
def constructed (name : String) (arguments : List Object) : Except Raised Object :=
  match name, arguments with
  | "Point", [] => .error (.problem (.missingArguments "Point.__new__()" ["x", "y"]))
  | "Point", [_] => .error (.problem (.missingArguments "Point.__new__()" ["y"]))
  | "Point", x :: y :: _ => .ok (point x y)
  | "Tag", [] => .error (.problem (.missingArguments "Tag.__init__()" ["text"]))
  | "Tag", x :: _ =>
      if x.display.toList.head? = some '!' then .error (complaint "ValueError" "bad tag")
      else .ok (tag x.display)
  | name, _ => .ok (.record name [])

/-- What a class of a scripted host does when it is called. -/
def construct {σ : Type} (_ name : String) (arguments : List Object) : Program σ :=
  .done ((constructed name arguments).map .object)

-- ================================================================ readings

/-- The point that a token spells: two whole numbers with a comma in
between. -/
def readPoint : Reading := fun token =>
  match (token.toList.splitOn ',').map String.ofList with
  | [x, y] => lifted do
      let x ← Token.toInteger x
      let y ← Token.toInteger y
      return point (.int x) (.int y)
  | _ => .error (complaint "ValueError" "expected x,y")

/-- The whole number that a token spells in hexadecimal digits. -/
def readHexadecimal : Reading := fun token =>
  lifted (((Object.text token).toIntegerIn (.int 16)).map .int)

/-- The reading with a name, if it needs nothing else to be told. -/
def reading? (name : String) : Option Reading :=
  match name with
  | "point" => some readPoint
  | "upper" => some fun token => .ok (.text (Text.upper token))
  | "len" => some fun token => .ok (.int token.length)
  | "hex" => some readHexadecimal
  | _ => none

-- ================================================================= formats

/-- An object as a text in capital letters. -/
def capitals (x : Object) : Except Raised Object :=
  match x with
  | .text s => .ok (.text (Text.upper s))
  | x =>
      .error (complaint "TypeError"
        ("descriptor 'upper' for 'str' objects doesn't apply to a '" ++ x.className
          ++ "' object"))

/-- The format with a name for the items of a collection. -/
def format (name : String) (x : Object) : Except Raised Object :=
  match name with
  | "repr" => .ok (.text x.written)
  | "upper" => capitals x
  | "len" => lifted x.sizeOf
  | _ => .ok (.text x.display)

end CommandConsole.Script
