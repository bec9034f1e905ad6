/-
Texts in which objects stand.

Such a text has fields between braces: an expression, perhaps how its object
is shown, and perhaps a format, in which fields may stand again. A brace
that is meant itself is written twice.
-/
import CommandConsole.Expression.Token

namespace CommandConsole.Expression.Template

/-- A piece of a text in which objects stand. -/
inductive Piece where
  | text (s : String)
  /-- An expression as it is spelled, the text before its object if the
  expression is shown itself, and the way in which its object is shown. -/
  | field (source : List Char) (shown : Option String) (conversion : Option Char)
      (format : List Piece)

/-- A brace that opens a field. -/
def openBrace : Char := '\x7b'

/-- A brace that closes a field. -/
def closeBrace : Char := '\x7d'

-- ================================================================= sources

/-- The bracket that closes another one. -/
def closing? (c : Char) : Option Char :=
  if c = '(' then some ')'
  else if c = '[' then some ']'
  else if c = openBrace then some closeBrace
  else none

/-- The source of an expression in a field, and the characters from the one
that ends it. Inside a text between quotes and inside brackets, of which
some are due, no character ends it. -/
def sourceAt (quote : Option (List Char)) (due : List Char) :
    Nat → List Char → Option (List Char × List Char)
  | 0, _ => none
  | _ + 1, [] => none
  | fuel + 1, c :: rest =>
      let taking (n : Nat) (quote : Option (List Char)) (due : List Char) :
          Option (List Char × List Char) :=
        (sourceAt quote due fuel ((c :: rest).drop n)).map fun (source, tail) =>
          ((c :: rest).take n ++ source, tail)
      if c = '\\' then none
      else
        match quote with
        | some mark =>
            if mark.isPrefixOf (c :: rest) then taking mark.length none due
            else taking 1 quote due
        | none =>
            if c = '\'' ∨ c = '"' then
              let mark := if [c, c].isPrefixOf rest then [c, c, c] else [c]
              taking mark.length (some mark) due
            else if c = '#' then none
            else
              match closing? c with
              | some other => taking 1 none (other :: due)
              | none =>
                  if due.isEmpty && (c = '!' || c = ':' || c = closeBrace || c = '='
                      || c = '<' || c = '>') then
                    if rest.head? = some '=' && c != ':' && c != closeBrace then
                      taking 2 none due
                    else if c = '<' || c = '>' then taking 1 none due
                    else some ([], c :: rest)
                  else if c = ')' || c = ']' || c = closeBrace then
                    match due with
                    | other :: others => if other = c then taking 1 none others else none
                    | [] => none
                  else taking 1 none due

/-- A blank between an equals sign and what follows it. -/
def isBlankAfterSign (c : Char) : Bool :=
  c == ' ' || (9 ≤ c.toNat && c.toNat ≤ 13)

/-- The text that shows an expression itself, if an equals sign follows its
source. -/
def shownAt (source : List Char) : List Char → Option String × List Char
  | '=' :: rest =>
      let blanks := rest.takeWhile isBlankAfterSign
      (some (String.ofList (source ++ '=' :: blanks)), rest.dropWhile isBlankAfterSign)
  | cs => (none, cs)

/-- The letter that says how an object is shown, if there is one. -/
def conversionAt : List Char → Option (Option Char × List Char)
  | '!' :: letter :: rest =>
      if letter = 's' ∨ letter = 'r' ∨ letter = 'a' then some (some letter, rest) else none
  | '!' :: [] => none
  | cs => some (none, cs)

-- ================================================================ literals

/-- How a literal part of a text ends. -/
inductive LiteralEnd where
  /-- Before a field, before the end of a format, or at the end. -/
  | plain
  /-- With a brace that is meant itself. -/
  | doubled

/-- The literal part at the start of a text, `depth` levels inside another
one, and what follows it. The braces around the name of a character belong to
it. -/
def literalAt (isRaw : Bool) (depth : Nat) (inName : Bool) :
    List Char → Option (List Char × LiteralEnd × List Char)
  | [] => some ([], .plain, [])
  | '\\' :: c :: rest =>
      if inName || isRaw || c = openBrace || c = closeBrace then
        (literalAt isRaw depth inName (c :: rest)).map fun (cs, mark, tail) =>
          ('\\' :: cs, mark, tail)
      else
        let isNamed := c = 'N' && rest.head? = some openBrace
        (literalAt isRaw depth isNamed rest).map fun (cs, mark, tail) =>
          ('\\' :: c :: cs, mark, tail)
  | c :: rest =>
      if !inName && (c = openBrace || c = closeBrace) then
        if depth = 0 && rest.head? = some c then some ([c], .doubled, rest.drop 1)
        else if depth = 0 && c = closeBrace then none
        else some ([], .plain, c :: rest)
      else
        (literalAt isRaw depth (inName && c ≠ closeBrace) rest).map fun (cs, mark, tail) =>
          (c :: cs, mark, tail)

-- ================================================================== pieces

/-- The depth at which no field may stand. -/
def maxDepth : Nat := 2

/-- A blank that does not make a source an expression. -/
def isBlankSource (c : Char) : Bool :=
  c == ' ' || c == '\t' || c == '\n' || c == '\r' || c.toNat == 12

mutual

/-- The pieces of a text, `depth` levels inside another one, the cautions
about it, and what follows it: nothing, or the brace that ends a format. -/
def piecesAt (isRaw : Bool) (depth : Nat) :
    Nat → List Char → Option (List Piece × List Caution × List Char)
  | 0, _ => none
  | fuel + 1, cs => do
      let (literal, mark, rest) ← literalAt isRaw depth false cs
      let kind : TextKind := ⟨false, isRaw, true⟩
      let (row, doubts) ← decode kind (literal.length + 1) literal
      let cautions := doubts.take 1
      let text := Piece.text (String.ofList (row.map Char.ofNat))
      match mark, rest with
      | .doubled, rest =>
          let (pieces, more, tail) ← piecesAt isRaw depth fuel rest
          some (text :: pieces, cautions ++ more, tail)
      | .plain, [] => some ([text], cautions, [])
      | .plain, c :: source =>
          if c = closeBrace then some ([text], cautions, c :: source)
          else
            let (field, inner, after) ← fieldAt isRaw depth fuel source
            let (pieces, more, tail) ← piecesAt isRaw depth fuel after
            some (text :: field :: pieces, cautions ++ inner ++ more, tail)

/-- The field after its opening brace, the cautions about it, and what
follows it. -/
def fieldAt (isRaw : Bool) (depth : Nat) :
    Nat → List Char → Option (Piece × List Caution × List Char)
  | 0, _ => none
  | fuel + 1, cs => do
      guard (depth < maxDepth)
      let (source, afterSource) ← sourceAt none [] (cs.length + 1) cs
      guard (!source.all isBlankSource)
      let (shown, afterShown) := shownAt source afterSource
      let (conversion, afterLetter) ← conversionAt afterShown
      let (format, cautions, rest, isFormatted) ←
        match afterLetter with
        | ':' :: start =>
            (piecesAt isRaw (depth + 1) fuel start).map fun (pieces, cautions, tail) =>
              (pieces, cautions, tail, true)
        | cs => some ([], [], cs, false)
      let usual := if shown.isSome && !isFormatted then some 'r' else none
      match rest with
      | c :: tail =>
          if c = closeBrace then
            some (.field source shown (conversion.or usual) format, cautions, tail)
          else none
      | [] => none

end

/-- The pieces of a text in which objects stand, and the cautions about
it. -/
def pieces (isRaw : Bool) (body : List Char) : Option (List Piece × List Caution) :=
  match piecesAt isRaw 0 (2 * body.length + 2) body with
  | some (found, cautions, []) => some (found, cautions)
  | _ => none

end CommandConsole.Expression.Template
