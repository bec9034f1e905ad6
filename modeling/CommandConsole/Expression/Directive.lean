/-
Texts with directives, which objects take the places of.

A directive starts with a percent sign. Behind it may stand a key in
parentheses, flags, a width and a precision; a letter at its end tells how
the object is written. Objects take the places in order, unless keys tell
which ones are meant.
-/
import CommandConsole.Expression.Format
import CommandConsole.Expression.Item

namespace CommandConsole.Expression

open Number

/-- A number in a directive: it is written there, or the next object tells
it. -/
inductive DirectiveNumber where
  | written (n : Nat)
  | given

/-- A directive. -/
structure Directive where
  key : Option String
  flags : List Char
  width : Option DirectiveNumber
  precision : Option DirectiveNumber
  letter : Char

namespace Directive

/-- A directive that ends too early. -/
def incomplete : Problem := .told .valueError "incomplete format"

/-- The key in parentheses at the start of some characters, where `depth`
parentheses are open. -/
def keyAt (depth : Nat) : List Char → Except Problem (List Char × List Char)
  | [] => .error (.told .valueError "incomplete format key")
  | c :: rest =>
      if c = ')' && depth = 0 then .ok ([], rest)
      else do
        let depth := if c = '(' then depth + 1 else if c = ')' then depth - 1 else depth
        let (key, tail) ← keyAt depth rest
        return (c :: key, tail)

/-- The number at the start of some characters. -/
def numberAt (cs : List Char) : Option DirectiveNumber × List Char :=
  match cs with
  | '*' :: rest => (some .given, rest)
  | cs =>
      let (n?, rest) := Layout.numberAt cs
      (n?.map .written, rest)

/-- A character is a flag of a directive. -/
def isFlag (c : Char) : Bool := ['-', '+', ' ', '#', '0'].contains c

/-- The directive at the start of some characters, which follow its percent
sign. -/
def read (cs : List Char) : Except Problem (Directive × List Char) := do
  let (key, cs) ←
    match cs with
    | '(' :: rest => do
        let (key, rest) ← keyAt 0 rest
        pure (some (String.ofList key), rest)
    | cs => pure (none, cs)
  let flags := cs.takeWhile isFlag
  let (width, cs) := numberAt (cs.dropWhile isFlag)
  let (precision, cs) :=
    match cs with
    | '.' :: rest =>
        let (n?, rest) := numberAt rest
        (some (n?.getD (.written 0)), rest)
    | cs => (none, cs)
  let cs :=
    match cs with
    | c :: rest => if ['h', 'l', 'L'].contains c then rest else cs
    | [] => cs
  match cs with
  | letter :: rest => return (⟨key, flags, width, precision, letter⟩, rest)
  | [] => throw incomplete

-- ================================================================= objects

/-- An object that has items under keys may fill directives by their keys,
so that it need not fill one in order. -/
def hasKeys (isBytes : Bool) : Meaning → Bool
  | .list _ => true
  | .dict _ => true
  | .buffer cls _ => !isBytes || cls ≠ "bytearray"
  | .type t => !t.isClass
  | .object (.view _) => true
  | .object (.bytes _) => !isBytes
  | .object (.range _ _ _) => true
  | _ => false

/-- The objects that fill the directives of a text in order. -/
def fillings : Meaning → List Meaning
  | .tuple items => items
  | m => [m]

/-- The next of some objects. -/
def nextOf (objects : List Meaning) : Except Problem (Meaning × List Meaning) :=
  match objects with
  | m :: rest => .ok (m, rest)
  | [] => .error (.told .typeError "not enough arguments for format string")

/-- The number of a directive, and the objects that are left. -/
def numberOf (n? : Option DirectiveNumber) (objects : List Meaning) :
    Except Problem (Option Int × List Meaning) := do
  match n? with
  | none => return (none, objects)
  | some (.written n) => return (some n, objects)
  | some .given =>
      let (m, rest) ← nextOf objects
      match m.toObject.integer? with
      | some n =>
          if farPosition n then
            throw (.told .overflowError "Python int too large to convert to C ssize_t")
          return (some n, rest)
      | none => throw (.told .typeError "* wants int")

-- ================================================================= writing

/-- The key of a directive among bytes or among characters. -/
def keyOf (isBytes : Bool) (key : String) : Meaning :=
  if isBytes then .object (.bytes (key.toList.map Char.toNat)) else .text key

/-- A text filled up to the width of a layout. -/
def filledText (l : Layout) (s : String) : String := l.filled '>' [] s.toList

/-- A whole number in a layout, with zeros up to the precision. -/
def wholeText (l : Layout) (mark : String) (base : Nat) (change : Char → Char) (n : Int) :
    String :=
  let digits := (Nat.toDigits base n.natAbs).map change
  let zeros := List.replicate (min ((l.precision.getD 0) - digits.length) Object.maxBits) '0'
  l.ofDigits (decide (n < 0)) mark.toList (zeros ++ digits)

/-- The whole number of an object for a letter. -/
def wholeFor (letter : Char) (m : Meaning) : Except Problem Int := do
  let isPlain := ['d', 'i', 'u'].contains letter
  match m.toObject.integer?, m.toObject.bare with
  | some n, _ => return n
  | none, x =>
      let isNumber :=
        match x with
        | .float _ | .decimal _ | .fraction _ => true
        | _ => false
      if isPlain && isNumber then x.toInteger
      else
        throw (.told .typeError
          ("%" ++ String.ofList [letter] ++ " format: "
            ++ (if isPlain then "a real number" else "an integer") ++ " is required, not "
            ++ Problem.longName m.className))

/-- The floating-point number of an object. -/
def floatFor (m : Meaning) : Except Problem Binary64 :=
  (m.toObject.toFloat?).getD
    (.error (.told .typeError ("must be real number, not " ++ Problem.longName m.className)))

/-- The byte of an object, as a character. -/
def byteFor (m : Meaning) : Except Problem String :=
  match m.byteRow?, m.integer? with
  | some [n], _ => .ok (String.ofList [Char.ofNat n])
  | none, some n =>
      if 0 ≤ n && n < 256 then .ok (String.ofList [Char.ofNat n.toNat])
      else .error (.told .overflowError "%c arg not in range(256)")
  | _, _ =>
      .error (.told .typeError "%c requires an integer in range(256) or a single byte")

/-- The bytes of an object, as characters. -/
def bytesFor (m : Meaning) : Except Problem String :=
  match m.byteRow? with
  | some row => .ok (String.ofList (row.map Char.ofNat))
  | none =>
      .error (.told .typeError
        ("%b requires a bytes-like object, or an object that implements __bytes__, not '"
          ++ Problem.shortName m.className ++ "'"))

/-- The character of an object. -/
def characterFor (m : Meaning) : Except Problem String :=
  match m.toObject.bare, m.toObject.integer? with
  | .text s, _ =>
      if s.length = 1 then .ok s
      else .error (.told .typeError "%c requires int or char")
  | _, some n =>
      if 0 ≤ n && n < 0x110000 then .ok (String.ofList [Char.ofNat n.toNat])
      else .error (.told .overflowError "%c arg not in range(0x110000)")
  | _, none => .error (.told .typeError "%c requires int or char")

/-- The layout of a directive with a width and a precision. A width below
zero puts the object on the left. -/
def layoutOf (d : Directive) (width precision : Option Int) : Layout :=
  let isLeft := d.flags.contains '-' || width.any (· < 0)
  let isNumeric := !(['s', 'r', 'a', 'c'].contains d.letter)
  let isZero := d.flags.contains '0' && !isLeft && isNumeric
  { fill := if isZero then '0' else ' '
    side := some (if isLeft then '<' else if isZero then '=' else '>')
    sign :=
      if d.flags.contains '+' then some '+' else if d.flags.contains ' ' then some ' ' else none
    plainZero := false
    marked := d.flags.contains '#'
    width := (width.getD 0).natAbs
    grouping := none
    precision := precision.map Int.toNat
    letter := some d.letter }

/-- An object as a directive writes it among bytes or among characters. The
letter of the directive stands at a position. -/
def write (isBytes : Bool) (d : Directive) (l : Layout) (position : Nat) (m : Meaning) :
    Except Problem String := do
  let shown (s : String) : Except Problem String :=
    let cs := s.toList
    .ok (filledText l (String.ofList (cs.take (l.precision.getD cs.length))))
  match d.letter with
  | 's' => shown (← if isBytes then bytesFor m else m.shown)
  | 'r' =>
      let s ← m.spelled
      shown (if isBytes then asciiOnly s else s)
  | 'a' => shown (asciiOnly (← m.spelled))
  | 'c' => return filledText l (← if isBytes then byteFor m else characterFor m)
  | 'd' | 'i' | 'u' =>
      let n ← wholeFor d.letter m
      if Object.isShort n then return wholeText l "" 10 id n else throw .unspellable
  | 'o' => return wholeText l "0o" 8 id (← wholeFor d.letter m)
  | 'x' => return wholeText l "0x" 16 id (← wholeFor d.letter m)
  | 'X' => return wholeText l "0X" 16 Char.toUpper (← wholeFor d.letter m)
  | 'e' | 'E' | 'f' | 'F' | 'g' | 'G' => l.ofFloat "float" (← floatFor m)
  | c =>
      if c = 'b' && isBytes then return ← shown (← bytesFor m)
      throw (.told .valueError
        ("unsupported format character '" ++ (if 31 < c.toNat && c.toNat < 127 then
          String.ofList [c] else "?") ++ "' (0x" ++ String.ofList (Nat.toDigits 16 c.toNat)
          ++ ") at index " ++ toString position))

/-- A text, or bytes as characters, with objects in the places of its
directives, and the objects that are left. The text is the end of one with
`length` characters, and `whole` is what its directives are filled from. -/
def filledIn (isBytes : Bool) (whole : Meaning) (length : Nat) :
    Nat → List Meaning → List Char → Except Problem (List Char × List Meaning)
  | 0, objects, _ => .ok ([], objects)
  | _ + 1, objects, [] => .ok ([], objects)
  | fuel + 1, objects, '%' :: '%' :: rest => do
      let (tail, left) ← filledIn isBytes whole length fuel objects rest
      return ('%' :: tail, left)
  | fuel + 1, objects, '%' :: rest => do
      let (d, rest) ← read rest
      let objects ←
        match d.key with
        | none => pure objects
        | some key => do
            if !hasKeys isBytes whole then throw (.told .typeError "format requires a mapping")
            pure [← itemOf whole (keyOf isBytes key)]
      let (width, objects) ← numberOf d.width objects
      let (precision, objects) ← numberOf d.precision objects
      let (m, objects) ← nextOf objects
      let body ← write isBytes d (layoutOf d width precision) (length - rest.length - 1) m
      let (tail, left) ← filledIn isBytes whole length fuel objects rest
      return (body.toList ++ tail, left)
  | fuel + 1, objects, c :: rest => do
      let (tail, left) ← filledIn isBytes whole length fuel objects rest
      return (c :: tail, left)

end Directive

/-- Characters with some objects in the places of their directives. -/
def interpolateChars (isBytes : Bool) (cs : List Char) (m : Meaning) :
    Except Problem (List Char) := do
  let (cs, left) ←
    Directive.filledIn isBytes m cs.length (cs.length + 1) (Directive.fillings m) cs
  if left.isEmpty || Directive.hasKeys isBytes m then return cs
  else
    throw (.told .typeError
      ("not all arguments converted during " ++ (if isBytes then "bytes" else "string")
        ++ " formatting"))

/-- A text with some objects in the places of its directives. -/
def interpolate (s : String) (m : Meaning) : Except Problem Meaning := do
  return .text (String.ofList (← interpolateChars false s.toList m))

/-- Bytes with some objects in the places of their directives. -/
def interpolateBytes (row : List Nat) (m : Meaning) : Except Problem (List Nat) := do
  return (← interpolateChars true (row.map Char.ofNat) m).map Char.toNat

end CommandConsole.Expression
