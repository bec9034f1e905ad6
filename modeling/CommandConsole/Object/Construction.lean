/-
Objects that are made of other objects, as the classes of whole numbers, of
texts and of dictionaries make them of their arguments.
-/
import CommandConsole.Object.Encoding
import CommandConsole.Object.Integer
import CommandConsole.Object.Items
import CommandConsole.Object.Order

namespace CommandConsole.Object

-- =========================================================== whole numbers

/-- The whole number that some arguments make: an object, and a base. -/
def integerOf : List Object → Except Problem Object
  | [] => .ok (.int 0)
  | [x] => x.toInteger.map .int
  | [x, base] => (x.toIntegerIn base).map .int
  | arguments => .error (.tooManyArguments "int()" 2 arguments.length)

-- =================================================================== texts

/-- What stands in the place of a text in a message. -/
def placeName : Object → String
  | .none => "None"
  | x => x.className

/-- The text that an argument of the class of texts must be. -/
def requireText (argument : String) (x : Object) : Except Problem Unit :=
  match x.bare with
  | .text s =>
      if s.toList.contains (Char.ofNat 0) then
        .error (.told .valueError "embedded null character")
      else .ok ()
  | _ =>
      .error (.told .typeError
        ("str() argument '" ++ argument ++ "' must be str, not " ++ x.placeName))

/-- The text that some arguments make: an object, an encoding, and how
errors in it are handled. Only rows of bytes have an encoding. -/
def textOf : List Object → Except Problem Object
  | [] => .ok (.text "")
  | [x] => .ok (.text x.display)
  | x :: encoding :: rest => do
      if rest.length > 1 then
        throw (.tooManyArguments "str()" 3 (rest.length + 2))
      requireText "encoding" encoding
      rest.forM (requireText "errors")
      match x.bare with
      | .text _ => throw (.told .typeError "decoding str is not supported")
      | .bytes row =>
          let errors := (rest.head?.map display).getD "strict"
          let coding ← Encoding.ofName encoding.display
          return .text (String.ofList (← coding.decode errors row))
      | _ =>
          throw (.told .typeError
            ("decoding to str: need a bytes-like object, "
              ++ Problem.clippedBytes 80 x.className ++ " found"))

-- ============================================================ dictionaries

/-- The entries of a dictionary with one more entry, in the place of one
with an equal key. -/
def insertEntry (key value : Object) : List (Object × Object) → List (Object × Object)
  | [] => [(key, value)]
  | entry :: rest =>
      if entry.1.same key then (entry.1, value) :: rest
      else entry :: insertEntry key value rest

/-- The entry that the item at a position tells, which is a row of a key and
a value. -/
def entryOf (position : Nat) (x : Object) : Except Problem (Object × Object) :=
  match x.items? with
  | Option.none => .error (.notRowOfPair position)
  | some [key, value] =>
      match key.unhashable? with
      | some cls => .error (.unhashable cls)
      | Option.none => .ok (key, value)
  | some items => .error (.notPair position items.length)

/-- The entries that some items tell. -/
def entriesOf (position : Nat) (entries : List (Object × Object)) :
    List Object → Except Problem (List (Object × Object))
  | [] => .ok entries
  | x :: rest => do
      let (key, value) ← entryOf position x
      entriesOf (position + 1) (insertEntry key value entries) rest

/-- The dictionary that some arguments make: another dictionary, or pairs of
keys and values. -/
def dictionaryOf : List Object → Except Problem Object
  | [] => .ok (.dict [])
  | [.dict entries] => .ok (.dict entries)
  | [.view entries] => .ok (.dict entries)
  | [x] =>
      match x.items? with
      | some items => (entriesOf 0 [] items).map .dict
      | Option.none => .error (.notIterable x.className)
  | arguments => .error (.atMost "dict" 1 arguments.length)

-- ================================================================ measures

/-- The number of items of an object. -/
def sizeOf (x : Object) : Except Problem Object :=
  match x.size? with
  | some n => .ok (.int n)
  | Option.none => .error (.noLength x.className)

/-- The greatest item of an object, or the greatest of several objects. -/
def greatestOf (arguments : List Object) : Except Problem Object :=
  match arguments with
  | [] => .error (.atLeast "max" 1 0)
  | [x] =>
      match x.items? with
      | Option.none => .error (.notIterable x.className)
      | some [] => .error (.told .valueError "max() arg is an empty sequence")
      | some (first :: rest) => greatest first rest
  | first :: rest => greatest first rest

end CommandConsole.Object
