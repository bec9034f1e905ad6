/-
The operations of texts and of rows of bytes that are called by their names.

Both are rows of characters here. A byte of the first 128 is the character of
that number, and any other byte is a character that belongs to no class.
-/
import CommandConsole.Expression.Item
import CommandConsole.Expression.Signature
import CommandConsole.Object.Encoding
import CommandConsole.Text.Letter
import CommandConsole.Text.Search

namespace CommandConsole.Expression

-- ================================================================= letters

/-- A row of characters: a text or some bytes, as the name of the class
says. -/
structure Letters where
  cls : String
  row : List Char

namespace Letters

/-- The number above which characters stand that are bytes of no class. -/
def classless : Nat := 0xE000

/-- A byte as a character. The separators among the first 128 are no blanks
among bytes. -/
def ofByte (n : Nat) : Char :=
  if n < 0x80 && !(0x1C ≤ n && n ≤ 0x1F) then Char.ofNat n else Char.ofNat (classless + n)

/-- The byte that a character is. -/
def toByte (c : Char) : Nat := if c.toNat < classless then c.toNat else c.toNat - classless

/-- What an expression stands for as a row of characters. -/
def of? (m : Meaning) : Option Letters :=
  match m with
  | .object (.text s) => some ⟨"str", s.toList⟩
  | .object (.bytes row) => some ⟨"bytes", row.map ofByte⟩
  | .buffer "bytearray" row => some ⟨"bytearray", row.map ofByte⟩
  | _ => none

/-- It is a text. -/
def isText (l : Letters) : Bool := l.cls = "str"

/-- Other characters as a row of the same class. -/
def make (l : Letters) (cs : List Char) : Meaning :=
  if l.isText then .text (String.ofList cs)
  else if l.cls = "bytes" then .object (.bytes (cs.map toByte))
  else .buffer l.cls (cs.map toByte)

end Letters

-- =============================================================== arguments

/-- The refusal of arguments of an operation that takes none. -/
def takesNone (cls key : String) (given : Nat) : Problem :=
  mistaken (cls ++ "." ++ key ++ "() takes no arguments (" ++ toString given ++ " given)")

/-- The refusal of arguments of an operation that takes one. -/
def takesOne (cls key : String) (given : Nat) : Problem :=
  mistaken (cls ++ "." ++ key ++ "() takes exactly one argument (" ++ toString given
    ++ " given)")

/-- The text that an argument must be. -/
def textIn (m : Meaning) (words : String) : Except Problem (List Char) :=
  match m.toObject.bare with
  | .text s => .ok s.toList
  | x => .error (mistaken (words ++ Problem.longName x.className))

/-- The text that an argument with a place or a name of its own must be. -/
def textArgument (m : Meaning) (key which : String) : Except Problem (List Char) :=
  match m.toObject.bare with
  | .text s => .ok s.toList
  | x =>
      .error (mistaken (key ++ "() argument " ++ which ++ "must be str, not "
        ++ Problem.longName x.placeName))

/-- The bytes that an argument must be. -/
def bytesIn (m : Meaning) : Except Problem (List Nat) :=
  match m.byteRow? with
  | some row => .ok row
  | none =>
      .error (mistaken
        ("a bytes-like object is required, not '" ++ Problem.longName m.className ++ "'"))

/-- An argument that is a row of characters like another one. -/
def likeIn (l : Letters) (m : Meaning) (words : String) : Except Problem (List Char) := do
  if l.isText then textIn m words else return (← bytesIn m).map Letters.ofByte

/-- What is looked for in a row of characters. A number is a byte. -/
def soughtIn (l : Letters) (m : Meaning) : Except Problem (List Char) := do
  if l.isText then textIn m "must be str, not "
  else
    match m.byteRow?, m.integer? with
    | some row, _ => return row.map Letters.ofByte
    | none, some n =>
        if 0 ≤ n && n < 256 then return [Letters.ofByte n.toNat]
        else throw (.told .valueError "byte must be in range(0, 256)")
    | none, none =>
        throw (mistaken ("argument should be integer or bytes-like object, not '"
          ++ Problem.longName m.className ++ "'"))

/-- A count that is not limited if it is below zero. -/
def limitOf (m? : Option Meaning) : Except Problem (Option Nat) := do
  match m? with
  | none => return none
  | some m =>
      let n ← sizeNumber m
      return if n < 0 then none else some n.toNat

/-- The bounds of a part of a row with `length` items, as two arguments tell
them; none if it starts behind the end. -/
def boundsOf (length : Nat) (arguments : List Meaning) : Except Problem (Option (Nat × Nat)) := do
  let place (m? : Option Meaning) (usual : Int) : Except Problem Int := do
    let some m := m? | return usual
    let n := (← boundOf? m).getD usual
    return if n < 0 then max 0 (n + Int.ofNat length) else n
  let low ← place arguments[0]? 0
  let high ← place arguments[1]? length
  let high := min high.toNat length
  return if high < low.toNat then none else some (low.toNat, high)

/-- A text of a row of characters. -/
def textOfChars (cs : List Char) : Meaning := .text (String.ofList cs)

/-- Refuses a count of arguments of an operation whose last ones can be left
out. -/
def requireSome (key : String) (most given : Nat) : Except Problem Unit :=
  if given > most then .error (.tooManyArguments (key ++ "()") most given)
  else if given = 0 then
    .error (mistaken (key ++ "() takes at least 1 argument (0 given)"))
  else .ok ()

-- ================================================================== places

/-- The first or the last place of a row of characters in a part of another
one. -/
def placeIn (l : Letters) (key : String) (arguments : List Meaning) :
    Except Problem (Option Nat) := do
  requireSome key 3 arguments.length
  match arguments with
  | [] => return none
  | sought :: bounds =>
      let bounds? ← boundsOf l.row.length bounds
      let sought ← soughtIn l sought
      let some (low, high) := bounds? | return none
      let places := Text.placesOf sought ((l.row.take high).drop low)
      return (if key.startsWith "r" then places.getLast? else places.head?).map (low + ·)

/-- How often a row of characters stands in a part of another one. -/
def countIn (l : Letters) (arguments : List Meaning) : Except Problem Nat := do
  requireSome "count" 3 arguments.length
  match arguments with
  | [] => return 0
  | sought :: bounds =>
      let bounds? ← boundsOf l.row.length bounds
      let sought ← soughtIn l sought
      let some (low, high) := bounds? | return 0
      return (Text.separatePlaces sought ((l.row.take high).drop low)).length

/-- A row of characters starts with another one or ends with it, or with one
of some. -/
def endMeets (l : Letters) (key : String) (arguments : List Meaning) : Except Problem Bool := do
  requireSome key 3 arguments.length
  match arguments with
  | [] => return false
  | sought :: bounds =>
      let bounds? ← boundsOf l.row.length bounds
      let meets (choice : List Char) : Bool :=
        match bounds? with
        | none => false
        | some (low, high) =>
            let whole := (l.row.take high).drop low
            if key = "startswith" then choice.isPrefixOf whole
            else choice.reverse.isPrefixOf whole.reverse
      let noun := if l.isText then "str" else "bytes"
      match sought with
      | .tuple items =>
          let words := "tuple for " ++ key ++ " must only contain str, not "
          let rec anyMeets : List Meaning → Except Problem Bool
            | [] => .ok false
            | m :: rest => do
                if meets (← likeIn l m words) then return true else anyMeets rest
          anyMeets items
      | m =>
          let words := key ++ " first arg must be " ++ noun ++ " or a tuple of " ++ noun ++ ", not "
          match likeIn l m words with
          | .ok choice => return meets choice
          | .error _ => throw (mistaken (words ++ Problem.longName m.className))

-- ================================================================== pieces

/-- The pieces of a row of characters, from the left or from the right. -/
def splitBy (l : Letters) (key : String) (places : List (Option Meaning)) :
    Except Problem Meaning := do
  let isBack := key = "rsplit"
  let most ← limitOf (places[1]?).join
  let rows ←
    match places.head?.join with
    | none | some (.object .none) =>
        pure (if isBack then Text.wordsBack most l.row
          else Text.words most (l.row.length + 1) l.row)
    | some mark =>
        let mark ← likeIn l mark "must be str or None, not "
        if mark.isEmpty then throw (.told .valueError "empty separator")
        pure (if isBack then Text.piecesBack most mark l.row else Text.pieces most mark l.row)
  return .list (rows.map l.make)

/-- A row of characters parted at the first or the last place of another
one. -/
def parted (l : Letters) (key : String) (m : Meaning) : Except Problem Meaning := do
  let mark ← likeIn l m "must be str, not "
  if mark.isEmpty then throw (.told .valueError "empty separator")
  let places := Text.placesOf mark l.row
  let three (a b c : List Char) : Meaning := .tuple ([a, b, c].map l.make)
  match if key = "rpartition" then places.getLast? else places.head? with
  | some i => return three (l.row.take i) mark (l.row.drop (i + mark.length))
  | none => return if key = "rpartition" then three [] [] l.row else three l.row [] []

/-- A row of characters without blanks, or without some characters, at its
ends. -/
def stripped (l : Letters) (key : String) (arguments : List Meaning) :
    Except Problem Meaning := do
  requireBetween key 0 1 arguments.length
  let isMeant ←
    match arguments.head? with
    | none | some (.object .none) => pure Text.isBlank
    | some m => do
        let chars ←
          match likeIn l m "", l.isText with
          | .error _, true => throw (mistaken (key ++ " arg must be None or str"))
          | result, _ => result
        pure fun c => chars.contains c
  let cs := if key = "rstrip" then l.row else l.row.dropWhile isMeant
  return l.make (if key = "lstrip" then cs else Text.dropEnd isMeant cs)

/-- Characters in the place of each place of others. -/
def replacedBy (l : Letters) (arguments : List Meaning) : Except Problem Meaning := do
  requireBetween "replace" 2 3 arguments.length
  let piece (i : Nat) : Except Problem (List Char) :=
    let m := arguments.getD i .absent
    if l.isText then textArgument m "replace" (toString (i + 1) ++ " ") else likeIn l m ""
  let old ← piece 0
  let new ← piece 1
  return l.make (Text.replaced (← limitOf arguments[2]?) old new l.row)

/-- The character that fills a row up to a width. -/
def fillIn (l : Letters) (key : String) (m? : Option Meaning) : Except Problem Char := do
  match m? with
  | none => return ' '
  | some m =>
      if l.isText then
        match ← textIn m "The fill character must be a unicode character, not " with
        | [c] => return c
        | _ => throw (mistaken "The fill character must be exactly one character long")
      else
        match m, m.byteRow? with
        | .buffer "memoryview" _, _ | _, none =>
            throw (mistaken (key ++ "() argument 2 must be a byte string of length 1, not "
              ++ Problem.longName m.toObject.placeName))
        | _, some [n] => return Letters.ofByte n
        | _, some _ =>
            throw (mistaken (key ++ "() argument 2 must be a byte string of length 1, not "
              ++ Problem.longName m.className))

/-- A row of characters filled up to a width: its missing characters stand on
the right, on the left or on both sides. -/
def padded (l : Letters) (key : String) (arguments : List Meaning) : Except Problem Meaning := do
  requireBetween key 1 2 arguments.length
  let width := min (← sizeNumber (arguments.headD .absent)) Object.maxBits
  let c ← fillIn l key arguments[1]?
  let missing := (width - l.row.length).toNat
  let before :=
    if key = "ljust" then 0
    else if key = "rjust" then missing
    else missing / 2 + (missing % 2) * (width.toNat % 2)
  return l.make (List.replicate before c ++ l.row ++ List.replicate (missing - before) c)

/-- A row of characters filled up with zeros behind its sign. -/
def zeroPadded (l : Letters) (m : Meaning) : Except Problem Meaning := do
  let width := min (← sizeNumber m) Object.maxBits
  let zeros := List.replicate (width - l.row.length).toNat '0'
  match l.row with
  | '+' :: rest => return l.make ('+' :: zeros ++ rest)
  | '-' :: rest => return l.make ('-' :: zeros ++ rest)
  | cs => return l.make (zeros ++ cs)

/-- Rows of characters, which must be like another one. -/
def pieceRows (l : Letters) (position : Nat) : List Meaning → Except Problem (List (List Char))
  | [] => .ok []
  | m :: rest =>
      match likeIn l m "" with
      | .ok cs => do return cs :: (← pieceRows l (position + 1) rest)
      | .error _ =>
          .error (if l.isText then .notTextItem position m.className
            else mistaken ("sequence item " ++ toString position
              ++ ": expected a bytes-like object, " ++ Problem.longName m.className ++ " found"))

/-- Rows of characters with another one in between. -/
def joinedBy (l : Letters) (m : Meaning) : Except Problem Meaning := do
  match m.items? with
  | some items => return l.make (l.row.intercalate (← pieceRows l 0 items))
  | none => throw (mistaken "can only join an iterable")

-- ================================================================== tables

/-- What a table makes of a character. -/
def translatedChar (table : Meaning) (c : Char) : Except Problem (List Char) :=
  match itemOf table (.number c.toNat) with
  | .ok (.object .none) => .ok []
  | .ok (.object (.text s)) => .ok s.toList
  | .ok m =>
      match m.integer? with
      | some n =>
          if 0 ≤ n && n < 0x110000 then .ok [Char.ofNat n.toNat]
          else .error (.told .valueError "character mapping must be in range(0x110000)")
      | none =>
          .error (mistaken "character mapping must return integer, None or str")
  | .error p =>
      if p.kind = .keyError || p.kind = .indexError || p.kind = .lookupError then .ok [c]
      else .error p

/-- Bytes with what a table makes of each of them, but without some of
them. -/
def translatedBytes (l : Letters) (places : List (Option Meaning)) : Except Problem Meaning := do
  let table? ←
    match places.head?.join with
    | none | some (.object .none) => pure none
    | some m => do
        let table ← bytesIn m
        if table.length ≠ 256 then
          throw (.told .valueError "translation table must be 256 characters long")
        pure (some table)
  let without ←
    match (places[1]?).join with
    | none => pure []
    | some m => bytesIn m
  let kept := (l.row.map Letters.toByte).filter fun n => !without.contains n
  let changed := kept.map fun n => (table?.map fun table => table.getD n n).getD n
  return l.make (changed.map Letters.ofByte)

/-- A table from characters to what stands in their places, from a dictionary
or from two or three texts. -/
def tableOfChars (arguments : List Meaning) : Except Problem Meaning := do
  requireBetween "maketrans" 1 3 arguments.length
  match arguments with
  | [.dict entries] =>
      let rows ← entries.mapM fun (key, m) =>
        match key, key.integer? with
        | .object (.text s), _ =>
            match s.toList with
            | [c] => Except.ok (Meaning.number c.toNat, m)
            | _ =>
                .error (.told .valueError "string keys in translate table must be of length 1")
        | key, some _ => .ok (key, m)
        | _, none =>
            .error (mistaken "keys in translate table must be strings or integers")
      return .dict (Meaning.unitedEntries [] rows)
  | [_] =>
      throw (mistaken
        "if you give only one argument to maketrans it must be a dict")
  | first :: others =>
      let texts ← others.zipIdx.mapM fun (m, i) =>
        textArgument m "maketrans" (toString (i + 2) ++ " ")
      let .object (.text s) := first
        | throw (mistaken
            "first maketrans argument must be a string if there is a second argument")
      let second := texts.headD []
      if s.length ≠ second.length then
        throw (.told .valueError
          "the first two maketrans arguments must have equal length")
      let rows := (s.toList.zip second).map fun (c, d) =>
        (Meaning.number c.toNat, Meaning.number d.toNat)
      let dropped := (texts.getD 1 []).map fun c => (Meaning.number c.toNat, Meaning.absent)
      return .dict (Meaning.unitedEntries [] (rows ++ dropped))
  | [] => throw (.atLeast "maketrans" 1 0)

/-- A table from bytes to others. -/
def tableOfBytes (arguments : List Meaning) : Except Problem Meaning := do
  requireBetween "maketrans" 2 2 arguments.length
  let old ← bytesIn (arguments.headD .absent)
  let new ← bytesIn (arguments.getD 1 .absent)
  if old.length ≠ new.length then
    throw (.told .valueError "maketrans arguments must have same length")
  let pairs := (old.zip new).reverse
  return .object (.bytes ((List.range 256).map fun n => (pairs.lookup n).getD n))

-- ================================================================ encodings

/-- An encoding, and the way to handle errors, that two arguments name. -/
def encodingIn (key : String) (places : List (Option Meaning)) :
    Except Problem (Encoding × String) := do
  let named (i : Nat) (which usual : String) : Except Problem String :=
    match (places[i]?).join with
    | none => .ok usual
    | some m => (textArgument m key ("'" ++ which ++ "' ")).map String.ofList
  let encoding ← named 0 "encoding" "utf-8"
  let errors ← named 1 "errors" "strict"
  return (← Encoding.ofName encoding, errors)

/-- Digits in groups of some bytes, counted from the end or, if the size is
below zero, from the start, with a mark in between. -/
def groupedBytes (mark : Char) (size : Int) (row : List Nat) : List Char :=
  let count := row.length
  (row.zipIdx.map fun (n, i) =>
    let place := if size > 0 then count - i else i
    let isMarked := i > 0 && size ≠ 0 && place % size.natAbs = 0
    (if isMarked then [mark] else []) ++ Text.hexDigits 2 n).flatten

/-- Bytes in digits of base sixteen. -/
def hexOfBytes (row : List Nat) (places : List (Option Meaning)) : Except Problem Meaning := do
  let size ←
    match (places[1]?).join with
    | none => pure 1
    | some m => smallNumber m
  match places.head?.join with
  | none => return textOfChars (row.flatMap (Text.hexDigits 2))
  | some mark =>
      let cs ←
        match mark, mark.byteRow? with
        | .object (.text s), _ => pure s.toList
        | _, some bytes => pure (bytes.map Char.ofNat)
        | m, none =>
            match m.size? with
            | none => throw (.noLength m.className)
            | some 1 => throw (mistaken "sep must be str or bytes.")
            | some _ => throw (.told .valueError "sep must be length 1.")
      match cs with
      | [c] =>
          if c.toNat ≥ 128 then throw (.told .valueError "sep must be ASCII.")
          return textOfChars (groupedBytes c size row)
      | _ => throw (.told .valueError "sep must be length 1.")

/-- The value of a digit of base sixteen. -/
def hexValue? (c : Char) : Option Nat :=
  if '0' ≤ c && c ≤ '9' then some (c.toNat - '0'.toNat)
  else if 'a' ≤ c && c ≤ 'f' then some (c.toNat - 'a'.toNat + 10)
  else if 'A' ≤ c && c ≤ 'F' then some (c.toNat - 'A'.toNat + 10)
  else none

/-- The bytes that digits of base sixteen spell, from a position on. Blanks
may stand between bytes. -/
def bytesOfHex (position : Nat) : List Char → Except Problem (List Nat)
  | [] => .ok []
  | c :: rest =>
      let refused (i : Nat) : Problem :=
        .told .valueError
          ("non-hexadecimal number found in fromhex() arg at position " ++ toString i)
      if c = ' ' || (9 ≤ c.toNat && c.toNat ≤ 13) then bytesOfHex (position + 1) rest
      else
        match hexValue? c, rest with
        | none, _ => .error (refused position)
        | some _, [] => .error (refused (position + 1))
        | some high, d :: rest =>
            match hexValue? d with
            | none => .error (refused (position + 1))
            | some low => do return (16 * high + low) :: (← bytesOfHex (position + 2) rest)

-- ============================================================== operations

/-- Texts that tell whether all characters of a row are of a class, by the
names of the operations. -/
def classTest? (key : String) : Option (List Char → Bool) :=
  match key with
  | "isalpha" => some (Text.allOf Text.isLetter)
  | "isdigit" => some (Text.allOf Text.isDigit)
  | "isdecimal" => some (Text.allOf Text.isDecimal)
  | "isnumeric" => some (Text.allOf Text.isNumeric)
  | "isalnum" => some (Text.allOf fun c => Text.isLetter c || Text.isNumeric c)
  | "isspace" => some (Text.allOf Text.isBlank)
  | "isascii" => some fun cs => cs.all fun c =>
      c.toNat < 128 || (Letters.classless ≤ c.toNat && Letters.toByte c < 128)
  | "isprintable" => some fun cs => cs.all Text.isPrintable
  | "isidentifier" => some Text.isIdentifier
  | "isupper" => some Text.isAllUpper
  | "islower" => some Text.isAllLower
  | "istitle" => some Text.isTitle
  | _ => none

/-- What the operations without arguments make of characters, by their
names. -/
def recased? (key : String) : Option (List Char → List Char) :=
  match key with
  | "upper" => some fun cs => cs.flatMap Text.upperChar
  | "lower" => some (Text.lowerFrom [])
  | "casefold" => some Text.folded
  | "title" => some (Text.titleFrom [])
  | "swapcase" => some (Text.swappedFrom [])
  | "capitalize" => some Text.capitalized
  | _ => none

/-- An operation of a row of characters that takes one argument. -/
def oneArgumentOperation? (l : Letters) (key : String) :
    Option (Meaning → Except Problem Meaning) :=
  match key with
  | "join" => some (joinedBy l)
  | "partition" | "rpartition" => some (parted l key)
  | "removeprefix" => some fun m => do
      let mark ← if l.isText then textArgument m key "" else likeIn l m ""
      return l.make (if mark.isPrefixOf l.row then l.row.drop mark.length else l.row)
  | "removesuffix" => some fun m => do
      let mark ← if l.isText then textArgument m key "" else likeIn l m ""
      return l.make (if mark.reverse.isPrefixOf l.row.reverse
        then l.row.take (l.row.length - mark.length) else l.row)
  | "zfill" => some (zeroPadded l)
  | "translate" =>
      if l.isText then some fun m => do
        return l.make (← l.row.mapM (translatedChar m)).flatten
      else none
  | _ => none

/-- The places of the arguments of an operation of characters that takes some
of them by their names. -/
def letterSignature? (l : Letters) (key : String) : Option Signature :=
  match key with
  | "split" | "rsplit" => some { name := key, formals := ["sep", "maxsplit"] }
  | "splitlines" => some { name := key, formals := ["keepends"] }
  | "encode" | "decode" => some { name := key, formals := ["encoding", "errors"] }
  | "expandtabs" => some { name := key, formals := ["tabsize"] }
  | "hex" => some { name := key, formals := ["sep", "bytes_per_sep"] }
  | "translate" =>
      if l.isText then none
      else some { name := key, formals := ["", "delete"], required := 1 }
  | _ => none

/-- An operation of characters whose arguments fill their places. -/
def filledLetterOperation (l : Letters) (key : String) (places : List (Option Meaning)) :
    Except Problem Meaning := do
  match key with
  | "split" | "rsplit" => splitBy l key places
  | "splitlines" =>
      let keeps ←
        match places.head?.join with
        | some m => smallNumber m
        | none => pure 0
      let ends (c : Char) : Bool := if l.isText then Text.endsLine c else c = '\n' || c = '\r'
      return .list ((Text.lines ends (keeps ≠ 0) (l.row.length + 1) l.row).map l.make)
  | "encode" =>
      let (encoding, errors) ← encodingIn key places
      return .object (.bytes (← encoding.encode errors l.row))
  | "decode" =>
      let (encoding, errors) ← encodingIn key places
      return textOfChars (← encoding.decode errors (l.row.map Letters.toByte))
  | "expandtabs" =>
      let width ←
        match places.head?.join with
        | some m => smallNumber m
        | none => pure 8
      return l.make (Text.withoutTabs (min width Object.maxBits).toNat 0 l.row)
  | "hex" => hexOfBytes (l.row.map Letters.toByte) places
  | _ => translatedBytes l places

/-- An operation of a row of characters. -/
def letterOperation (l : Letters) (key : String) (arguments : List Meaning)
    (entries : List (String × Meaning)) : Except Problem Meaning := do
  match letterSignature? l key with
  | some signature => filledLetterOperation l key (← signature.fill arguments entries)
  | none =>
      refuseNames (l.cls ++ "." ++ key) entries
      match classTest? key, recased? key, oneArgumentOperation? l key with
      | some test, _, _ =>
          if arguments.isEmpty then return .flag (test l.row)
          else throw (takesNone l.cls key arguments.length)
      | _, some change, _ =>
          if arguments.isEmpty then return l.make (change l.row)
          else throw (takesNone l.cls key arguments.length)
      | _, _, some perform =>
          match arguments with
          | [m] => perform m
          | arguments => throw (takesOne l.cls key arguments.length)
      | none, none, none =>
          match key with
          | "strip" | "lstrip" | "rstrip" => stripped l key arguments
          | "replace" => replacedBy l arguments
          | "startswith" | "endswith" => return .flag (← endMeets l key arguments)
          | "find" | "rfind" =>
              return .number (((← placeIn l key arguments).map Int.ofNat).getD (-1))
          | "index" | "rindex" =>
              match ← placeIn l key arguments with
              | some i => return .number i
              | none =>
                  throw (.told .valueError
                    (if l.isText then "substring not found" else "subsection not found"))
          | "count" => return .number (← countIn l arguments)
          | "center" | "ljust" | "rjust" => padded l key arguments
          | _ => return .absent

end CommandConsole.Expression
