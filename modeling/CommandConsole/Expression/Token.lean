/-
The tokens of an expression.

An expression stands on one line, which may go on over a line end after a
backslash or inside brackets. Blank lines and lines that only hold a comment
may stand around it, but no line is indented.
-/
import CommandConsole.Expression.Literal
import CommandConsole.Text.Identifier

namespace CommandConsole.Expression

/-- A token. -/
inductive Token where
  /-- A name in its plain form. -/
  | name (s : String)
  | keyword (s : String)
  | sign (s : String)
  /-- A number, a text or a row of bytes. -/
  | literal (x : Object)
  /-- The characters between the quotes of a text in which objects may
  stand. -/
  | template (isRaw : Bool) (body : List Char)
  | lineEnd

namespace Token

/-- The words that are no names. -/
def keywords : List String :=
  ["False", "None", "True", "and", "as", "assert", "async", "await", "break", "class",
   "continue", "def", "del", "elif", "else", "except", "finally", "for", "from", "global",
   "if", "import", "in", "is", "lambda", "nonlocal", "not", "or", "pass", "raise", "return",
   "try", "while", "with", "yield"]

/-- The signs, the longer ones before those they start with. -/
def signs : List String :=
  ["**=", "//=", ">>=", "<<=", "...", "!=", "%=", "&=", "**", "*=", "+=", "-=", "->", "//",
   "/=", ":=", "<<", "<=", "<>", "==", ">=", ">>", "@=", "^=", "|=", "!", "$", "%", "&", "(",
   ")", "*", "+", ",", "-", ".", "/", ":", ";", "<", "=", ">", "?", "@", "[", "]", "^", "\x7b",
   "|", "\x7d", "~"]

/-- The sign at the start of some characters. -/
def signAt? (cs : List Char) : Option String :=
  signs.find? fun s => s.toList.isPrefixOf cs

/-- The token that a word stands for. -/
def ofWord (word : List Char) : Option Token :=
  let s := String.ofList word
  if keywords.contains s then some (.keyword s)
  else if word.all (fun c => c.toNat < 0x80) || Text.isIdentifier word then
    some (.name (Text.identifier word))
  else none

-- ================================================================= reading

/-- The depth at which brackets may not stand inside each other any
more. -/
def maxBrackets : Nat := 200

/-- The bracket that closes another one. -/
def closing? (s : String) : Option String :=
  match s with
  | "(" => some ")"
  | "[" => some "]"
  | "\x7b" => some "\x7d"
  | _ => none

/-- The brackets that are due after a sign, where some are due before
it. -/
def bracketsAfter (due : List String) (s : String) : Option (List String) :=
  match closing? s with
  | some other => if due.length ≥ maxBrackets then none else some (other :: due)
  | none =>
      if s = ")" ∨ s = "]" ∨ s = "\x7d" then
        match due with
        | other :: rest => if other = s then some rest else none
        | [] => none
      else some due

/-- The column at which a line starts that is not blank, and the line from
there on. A line end after a backslash does not count, and the blanks before
the first one decide the column. -/
def lineStart (column first : Nat) : List Char → Option (Nat × List Char)
  | ' ' :: rest => lineStart (column + 1) first rest
  | '\t' :: rest => lineStart ((column / 8 + 1) * 8) first rest
  | '\x0c' :: rest => lineStart 0 first rest
  | '\\' :: rest =>
      match rest with
      | '\n' :: line =>
          if line.isEmpty then none
          else lineStart column (if first = 0 then column else first) line
      | _ => none
  | cs => some (if first = 0 then column else first, cs)

/-- The characters from the next line end on. -/
def skipLine (cs : List Char) : List Char := cs.dropWhile (· != '\n')

/-- The literal or the word at the start of some characters. -/
def readWord (cs : List Char) : Option (Reading Token) :=
  let word := cs.takeWhile isWordPart
  let rest := cs.dropWhile isWordPart
  match textKind? word, rest with
  | some kind, quote :: _ =>
      if quote = '"' ∨ quote = '\'' then do
        let (body, tail) ← readQuoted rest
        if kind.isFormatted then some ⟨.template kind.isRaw body, tail, []⟩
        else
          let (x, cautions) ← readText kind body
          some ⟨.literal x, tail, cautions⟩
      else (ofWord word).map fun token => ⟨token, rest, []⟩
  | _, _ =>
      if word.isEmpty then none else (ofWord word).map fun token => ⟨token, rest, []⟩

/-- The token at the start of some characters that are no blanks. -/
def readToken (cs : List Char) : Option (Reading Token) :=
  match cs with
  | [] => none
  | c :: rest =>
      if c.isDigit || (c == '.' && rest.head?.any Char.isDigit) then
        (readNumber cs).map fun r => ⟨.literal r.found, r.rest, r.cautions⟩
      else if c == '"' || c == '\'' || isWordPart c then readWord cs
      else (signAt? cs).map fun s => ⟨.sign s, cs.drop s.length, []⟩

/-- The tokens of some characters, if they are tokens, where some brackets are
due, and the cautions about them or about those before the first character
that starts none. There are at most `fuel` characters and line ends. -/
def scan (due : List String) (atStart : Bool) :
    Nat → List Char → Option (List Token) × List Caution
  | 0, _ => (none, [])
  | fuel + 1, cs =>
      if atStart && due.isEmpty then
        match lineStart 0 0 cs with
        | none => (none, [])
        | some (column, []) => (if column = 0 then some [] else none, [])
        | some (_, '\n' :: rest) => scan due true fuel rest
        | some (_, '#' :: rest) => scan due true fuel ((skipLine rest).drop 1)
        | some (column, line) => if column = 0 then scan due false fuel line else (none, [])
      else
        match cs with
        | [] => (if due.isEmpty then some [] else none, [])
        | '\n' :: rest =>
            if due.isEmpty then
              let (tokens?, cautions) := scan due true fuel rest
              (tokens?.map fun tokens => .lineEnd :: tokens, cautions)
            else scan due false fuel rest
        | '#' :: rest => scan due false fuel (skipLine rest)
        | '\\' :: rest =>
            match rest with
            | '\n' :: line => if line.isEmpty then (none, []) else scan due false fuel line
            | _ => (none, [])
        | c :: rest =>
            if c = ' ' ∨ c = '\t' ∨ c = '\x0c' then scan due false fuel rest
            else
              match readToken cs with
              | none => (none, [])
              | some r =>
                  let after? :=
                    match r.found with
                    | .sign s => bracketsAfter due s
                    | _ => some due
                  match after? with
                  | none => (none, r.cautions)
                  | some after =>
                      let (tokens?, cautions) := scan after false fuel r.rest
                      (tokens?.map fun tokens => r.found :: tokens, r.cautions ++ cautions)

/-- A text whose line ends are line feeds. -/
def withLineFeeds : List Char → List Char
  | '\r' :: '\n' :: rest => '\n' :: withLineFeeds rest
  | '\r' :: rest => '\n' :: withLineFeeds rest
  | c :: rest => c :: withLineFeeds rest
  | [] => []

/-- The tokens of an expression, if its characters are tokens, and the
cautions about them. -/
def listOf (cs : List Char) : Option (List Token) × List Caution :=
  let lines := withLineFeeds cs
  scan [] true (2 * lines.length + 2) lines

end Token

end CommandConsole.Expression
