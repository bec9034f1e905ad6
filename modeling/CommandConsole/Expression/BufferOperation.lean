/-
The operations of bytes that can be changed, and of windows on bytes, that
are called by their names.
-/
import CommandConsole.Expression.Construction
import CommandConsole.Expression.RowOperation

namespace CommandConsole.Expression

/-- The names of the operations that change bytes, or make bytes that can be
changed anew. -/
def bufferOperations : List String :=
  ["append", "extend", "insert", "pop", "remove", "reverse", "clear", "copy",
   "__alloc__"]

/-- An operation of bytes that can be changed. -/
def bufferOperation (row : List Nat) (key : String) (arguments : List Shared) :
    Except Problem Effect := do
  let cls := "bytearray"
  let left (row : List Nat) : Effect := .leaving (.buffer cls row)
  let byte (m : Shared) : Except Problem Nat := byteOf "byte" m.whole
  let one : Except Problem Shared :=
    match arguments with
    | [m] => .ok m
    | arguments => .error (takesOne cls key arguments.length)
  let noArguments : Except Problem Unit :=
    if arguments.isEmpty then .ok () else .error (takesNone cls key arguments.length)
  match key with
  | "append" => return left (row ++ [← byte (← one)])
  | "extend" =>
      let m ← one
      match m.whole.byteRow?, m.whole.items? with
      | some more, _ => return left (row ++ more)
      | none, some items => return left (row ++ (← items.mapM (byteOf "byte")))
      | none, none =>
          throw (mistaken
            ("can't extend bytearray with " ++ Problem.shortName m.whole.className))
  | "insert" =>
      requireBetween key 2 2 arguments.length
      match arguments with
      | [place, m] =>
          let n ← sizeNumber place.whole
          return left (withItemAt row n (← byte m))
      | _ => return .making .absent
  | "pop" =>
      let (m, rest) ← takenOut cls (row.map fun n => Meaning.number (Int.ofNat n)) arguments
      let rest := rest.map fun m => (m.integer?.getD 0).toNat
      return { result := m, left? := some (.buffer cls rest) }
  | "remove" =>
      let n ← byte (← one)
      match row.findIdx? (· = n) with
      | some i => return left (withoutPlace row i)
      | none => throw (.told .valueError "value not found in bytearray")
  | "reverse" =>
      noArguments
      return left row.reverse
  | "clear" =>
      noArguments
      return left []
  | "__alloc__" =>
      noArguments
      return .making (.number (if row.isEmpty then 0 else row.length + 1))
  | _ =>
      noArguments
      return .making (.buffer cls row)

/-- The number of bytes of a number that is told by a letter. -/
def sizeOfFormat? (format : List Char) : Option Nat :=
  match if format.head? = some '@' then format.tail else format with
  | ['c'] | ['b'] | ['B'] | ['?'] => some 1
  | ['h'] | ['H'] | ['e'] => some 2
  | ['i'] | ['I'] | ['f'] => some 4
  | ['l'] | ['L'] | ['q'] | ['Q'] | ['n'] | ['N'] | ['d'] | ['P'] => some 8
  | _ => none

/-- Refuses to see a number of bytes as other numbers that need another count
of bytes. -/
def requireCast (length : Nat) (format : List Char) : Except Problem Unit :=
  match sizeOfFormat? format with
  | none =>
      .error (.told .valueError ("memoryview: destination format must be a native single "
        ++ "character format prefixed with an optional '@'"))
  | some size =>
      if length % size = 0 then .ok ()
      else .error (mistaken "memoryview: length is not a multiple of itemsize")

/-- An operation of a window on bytes. -/
def windowOperation (row : List Nat) (key : String) (arguments : List Meaning)
    (entries : List (String × Meaning)) : Except Problem Meaning := do
  let cls := "memoryview"
  match key with
  | "hex" =>
      let signature : Signature := { name := key, formals := ["sep", "bytes_per_sep"] }
      hexOfBytes row (← signature.fill arguments entries)
  | "tobytes" =>
      let signature : Signature := { name := key, formals := ["order"] }
      match (← signature.fill arguments entries).head?.join with
      | none | some (.object .none) => return .object (.bytes row)
      | some m =>
          let words := "tobytes() argument 'order' must be str or None, not "
          let order := String.ofList (← textIn m words)
          if ["C", "F", "A"].contains order then return .object (.bytes row)
          else throw (.told .valueError "order must be 'C', 'F' or 'A'")
  | "tolist" | "toreadonly" | "__enter__" | "release" =>
      refuseNames (cls ++ "." ++ key) entries
      if !arguments.isEmpty then throw (takesNone cls key arguments.length)
      if key = "tolist" then return .list (row.map fun n => .number (Int.ofNat n))
      else return if key = "release" then .absent else .buffer cls row
  | "cast" =>
      let signature : Signature := { name := key, formals := ["format", "shape"], required := 1 }
      let places ← signature.fill arguments entries
      let format ← textArgument ((places.head?.join).getD .absent) key "'format' "
      match (places[1]?).join with
      | none | some (.list _) | some (.tuple _) => requireCast row.length format
      | some _ => throw (mistaken "shape must be a list or a tuple")
      return .buffer cls row
  | _ => return .absent

end CommandConsole.Expression
