/-
An input line and its tokens.

A line is cut at single spaces into pieces. The first piece is the first
token: the name of a command, perhaps. In the others double quotes make a
region of several pieces one token:

- a piece that opens with a quote and closes with another one is a token
  by itself, without its quotes;
- a piece that only opens with a quote begins a region, which ends at the
  first later piece that closes with a quote, or at the last piece;
- the last piece, and a piece without a quote in front, stay as they are.

Two spaces in a row have an empty piece between them, and it counts.
-/
import CommandConsole.Object.Items
import CommandConsole.Problem

namespace CommandConsole.Line

-- ================================================================== pieces

/-- The pieces of a line between its single spaces. -/
def pieces (line : String) : List String :=
  (line.toList.splitOn ' ').map String.ofList

/-- Pieces joined by single spaces. -/
def joined (parts : List String) : String := " ".intercalate parts

/-- A piece opens with a quote. -/
def opensQuote (piece : String) : Bool := piece.toList.head? == some '"'

/-- A piece closes with a quote. -/
def closesQuote (piece : String) : Bool := piece.toList.getLast? == some '"'

/-- A piece of two characters or more stands between quotes. -/
def isEnclosed (piece : String) : Bool :=
  opensQuote piece && closesQuote piece && decide (1 < piece.length)

/-- A piece without the quotes it opens with. -/
def dropOpening (piece : String) : String :=
  String.ofList (piece.toList.dropWhile (· == '"'))

/-- A piece without the quotes it closes with. -/
def dropClosing (piece : String) : String :=
  String.ofList (Text.dropEnd (· == '"') piece.toList)

/-- A piece without the quotes it opens and closes with. -/
def dropQuotes (piece : String) : String :=
  String.ofList (Text.dropEnds (· == '"') piece.toList)

-- ================================================================== tokens

/-- The tokens that the pieces after the first one make, read in one pass.
While a region is open, `region?` holds what has been read of it. -/
def scan (region? : Option String) : List String → List String
  | [] => []
  | piece :: rest =>
      match region? with
      | some region =>
          let longer := region ++ " " ++ dropClosing piece
          if closesQuote piece || rest.isEmpty then longer :: scan none rest
          else scan (some longer) rest
      | none =>
          if isEnclosed piece then dropQuotes piece :: scan none rest
          else if opensQuote piece && !rest.isEmpty then
            scan (some (dropOpening piece)) rest
          else piece :: scan none rest

/-- The tokens of a line. -/
def tokens (line : String) : List String :=
  match pieces line with
  | [] => []
  | name :: rest => name :: scan none rest

/-- The tokens of a line that an operation was given. -/
def tokensOf (line : Object) : Except Problem (List String) := do
  return tokens (← line.asText "tokenize()")

-- ================================================================= folding

/-- The tokens of a line for a command with `count` parameters: the
surplus ones become part of the last argument, with single spaces between
them, and are dropped if there is no argument. -/
def fold (words : List String) (count : Nat) : List String :=
  if words.length ≤ count + 1 then words
  else
    match count with
    | 0 => words.take 1
    | n + 1 => words.take (n + 1) ++ [joined (words.drop (n + 1))]

/-- The objects of a row, of which the surplus ones for a command with
`count` parameters are joined. Only texts can be. -/
def foldRow (row : List Object) (count : Nat) : Except Problem (List Object) := do
  if row.length ≤ count + 1 then return row
  else
    match count with
    | 0 => return row.take 1
    | n + 1 =>
        let words ← wordsOf 0 (row.drop (n + 1))
        return row.take (n + 1) ++ [.text (joined words)]
where
  /-- The texts that some objects are. -/
  wordsOf (position : Nat) : List Object → Except Problem (List String)
    | [] => .ok []
    | .text s :: rest => (wordsOf (position + 1) rest).map (s :: ·)
    | x :: _ => .error (.notTextItem position x.className)

/-- The row that an operation was given, folded for the count that it was
given. A count that is no whole number will do as long as there is nothing
to fold, and the entries of a dictionary have no order to be folded in. -/
def foldOf (row count : Object) : Except Problem (List Object) := do
  let count? ←
    match count with
    | .float x =>
        if x.isNegative then throw (.negativeCount "reconcile() count")
        else pure (if x.same .zero then some 0 else none)
    | count => (count.asCount "reconcile() count").map some
  let some items := row.items? | throw (.noLength row.className)
  let isShort :=
    match count with
    | .float x => x.reaches (items.length - 1)
    | _ => items.length ≤ count?.getD 0 + 1
  match row, count? with
  | _, none => if isShort then return items else throw .notSliceIndex
  | .dict _, some 0 => if isShort then return items else throw (.noSuchKey (.int 0))
  | .dict _, some _ => if isShort then return items else throw (.unhashable "slice")
  | _, some n => if isShort then return items else foldRow items n

end CommandConsole.Line
