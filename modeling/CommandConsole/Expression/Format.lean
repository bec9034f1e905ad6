/-
Laying objects out in texts.

A layout tells a width, on which side of it an object stands and what fills
the rest, and how a number is written. Texts and numbers have layouts; other
objects are laid out as they are shown, and refuse any layout that says
more.
-/
import CommandConsole.Expression.Meaning
import CommandConsole.Object.Arithmetic

namespace CommandConsole.Expression

open Number

/-- A character of the first 128, or its escape. -/
def asciiChar (c : Char) : List Char :=
  if c.toNat < 128 then [c] else Text.escape c.toNat

/-- A text in which only the first 128 characters stand. -/
def asciiOnly (s : String) : String := String.ofList (s.toList.flatMap asciiChar)

-- ================================================================= layouts

/-- How an object is laid out. -/
structure Layout where
  fill : Char
  /-- The side of the object: `<`, `>`, `^` or `=`, which parts a number from
  its sign. -/
  side : Option Char
  sign : Option Char
  /-- A zero has no minus sign. -/
  plainZero : Bool
  /-- The mark of a base is written. -/
  marked : Bool
  width : Nat
  grouping : Option Char
  precision : Option Nat
  /-- The letter of the way in which a number is written. -/
  letter : Option Char

namespace Layout

/-- A character is a side. -/
def isSide (c : Char) : Bool := c == '<' || c == '>' || c == '^' || c == '='

/-- The fill and the side at the start of a layout. -/
def sideAt : List Char → (Option Char × Option Char) × List Char
  | fill :: side :: rest =>
      if isSide side then ((some fill, some side), rest)
      else if isSide fill then ((none, some fill), side :: rest)
      else ((none, none), fill :: side :: rest)
  | [c] => if isSide c then ((none, some c), []) else ((none, none), [c])
  | [] => ((none, none), [])

/-- The number at the start of a layout. -/
def numberAt (cs : List Char) : Option Nat × List Char :=
  let digits := cs.takeWhile Char.isDigit
  let n := digits.foldl (fun n c => 10 * n + (c.toNat - '0'.toNat)) 0
  (if digits.isEmpty then none else some n, cs.dropWhile Char.isDigit)

/-- One of some characters at the start of a layout. -/
def oneAt (choices : List Char) : List Char → Option Char × List Char
  | c :: rest => if choices.contains c then (some c, rest) else (none, c :: rest)
  | [] => (none, [])

/-- A refusal of a layout. -/
def refused (message : String) : Problem := .told .valueError message

/-- The class of an object in a message about layouts. -/
def unknownLetter (c : Char) (cls : String) : Problem :=
  let shown :=
    if 32 < c.toNat && c.toNat < 128 then String.ofList [c]
    else "\\x" ++ String.ofList (Nat.toDigits 16 c.toNat)
  refused ("Unknown format code '" ++ shown ++ "' for object of type '" ++ cls ++ "'")

/-- The letters of the ways to write a number in which its digits can be
grouped by a mark. -/
def groupingLetters (mark : Char) : List Char :=
  ['d', 'e', 'E', 'f', 'F', 'g', 'G', '%'] ++ if mark = '_' then ['b', 'o', 'x', 'X'] else []

/-- The refusal of a mark between digits. -/
def noGrouping (mark letter : Char) : Problem :=
  refused ("Cannot specify '" ++ String.ofList [mark] ++ "' with '"
    ++ String.ofList [letter] ++ "'.")

/-- The layout that a text tells for an object of a class. -/
def ofText (cls s : String) : Except Problem Layout := do
  let ((fill, side), rest) := sideAt s.toList
  let (sign, rest) := oneAt ['+', '-', ' '] rest
  let (plainZero, rest) := oneAt ['z'] rest
  let (mark, rest) := oneAt ['#'] rest
  let (zero, rest) := if fill.isSome then (none, rest) else oneAt ['0'] rest
  let (width, rest) := numberAt rest
  let (grouping, rest) := oneAt [',', '_'] rest
  let (point, rest) := oneAt ['.'] rest
  let (precision, rest) := if point.isSome then numberAt rest else (none, rest)
  if point.isSome && precision.isNone then
    throw (refused "Format specifier missing precision")
  if (width.getD 0) ≥ 2 ^ 63 || (precision.getD 0) ≥ 2 ^ 63 then
    throw (refused "Too many decimal digits in format string")
  let side := if zero.isSome && side.isNone && cls != "str" then some '=' else side
  let fill := fill.getD (if zero.isSome then '0' else ' ')
  let letter ←
    match rest with
    | [] => pure none
    | [c] => pure (some c)
    | _ =>
        throw (refused
          ("Invalid format specifier '" ++ s ++ "' for object of type '" ++ cls ++ "'"))
  let shown := letter.getD (if cls = "str" then 's' else 'd')
  match grouping.filter fun mark => !(groupingLetters mark).contains shown with
  | some c => throw (noGrouping c shown)
  | none =>
      return ⟨fill, side, sign, plainZero.isSome, mark.isSome, width.getD 0, grouping, precision,
        letter⟩

/-- A text with something before it, filled up to the width of a layout. -/
def filled (l : Layout) (usual : Char) (before body : List Char) : String :=
  let missing := min (l.width - (before.length + body.length)) Object.maxBits
  let row (n : Nat) : List Char := List.replicate n l.fill
  let whole := before ++ body
  String.ofList <|
    match l.side.getD usual with
    | '<' => whole ++ row missing
    | '^' => row (missing / 2) ++ whole ++ row (missing - missing / 2)
    | '=' => before ++ row missing ++ body
    | _ => row missing ++ whole

/-- A text in a layout. -/
def ofString (l : Layout) (s : String) : Except Problem String := do
  match l.letter with
  | some c => if c ≠ 's' then throw (unknownLetter c "str")
  | none => pure ()
  if l.sign = some ' ' then
    throw (refused "Space not allowed in string format specifier")
  if l.sign.isSome then
    throw (refused "Sign not allowed in string format specifier")
  if l.plainZero then
    throw (refused "Negative zero coercion (z) not allowed in string format specifier")
  if l.marked then
    throw (refused "Alternate form (#) not allowed in string format specifier")
  if l.side = some '=' then
    throw (refused "'=' alignment not allowed in string format specifier")
  let cs := s.toList
  return l.filled '<' [] (cs.take (l.precision.getD cs.length))

/-- Digits in groups of a size with a mark in between. -/
def grouped (size : Nat) (mark : Option Char) (digits : List Char) : List Char :=
  match mark with
  | none => digits
  | some mark =>
      (digits.zipIdx.map fun (c, i) =>
        if 0 < i && (digits.length - i) % size = 0 then [mark, c] else [c]).flatten

/-- Digits with zeros in front of them, so many that in groups they take up a
number of places at least. -/
def zeroFilled (size places : Nat) (digits : List Char) : List Char :=
  let count := (List.range places).find? fun n => 0 < n && n + (n - 1) / size ≥ places
  List.replicate ((count.getD 0) - digits.length) '0' ++ digits

/-- The digits of a number in the groups of a layout, between some other
characters. Where zeros fill the rest of the width, they are in groups,
too. -/
def inGroups (l : Layout) (size others : Nat) (digits : List Char) : List Char :=
  let isFilled := l.grouping.isSome && l.fill = '0' && l.side = some '='
  let places := min l.width Object.maxBits - others
  grouped size l.grouping (if isFilled then zeroFilled size places digits else digits)

/-- What stands before the digits of a number. -/
def signOf (l : Layout) (isNegative : Bool) : List Char :=
  if isNegative then ['-']
  else
    match l.sign with
    | some '+' => ['+']
    | some ' ' => [' ']
    | _ => []

/-- A number in a layout: its digits, and whether it is negative. -/
def ofDigits (l : Layout) (isNegative : Bool) (mark digits : List Char) : String :=
  l.filled '>' (l.signOf isNegative ++ (if l.marked then mark else [])) digits

/-- The digits of a positive fraction, rounded to a count of them, and the
power of ten of the first one. -/
def leadingDigits (count : Nat) (q : Rat) : List Char × Int :=
  let n := q.num.natAbs
  let guess : Int := ((toString n).length : Int) - (toString q.den).length
  let reaches : Bool := n * 10 ^ (-guess).toNat ≥ q.den * 10 ^ guess.toNat
  let power := if reaches then guess else guess - 1
  let shift : Int := (count : Int) - 1 - power
  let rounded := Binary64.roundQuotient (n * 10 ^ shift.toNat) (q.den * 10 ^ (-shift).toNat)
  if rounded = 10 ^ count then ((toString (10 ^ (count - 1))).toList, power + 1)
  else ((toString rounded).toList, power)

/-- The digits of a fraction that is not negative, rounded to a count of
them, and the power of ten of the first one, which is zero for zero. -/
def someDigits (count : Nat) (q : Rat) : List Char × Int :=
  if q.num = 0 then (List.replicate count '0', 0) else leadingDigits count q

/-- A fraction that is not negative with a number of digits after its
point. -/
def fixed (places : Nat) (q : Rat) : List Char × List Char :=
  let scaled := Binary64.roundQuotient (q.num.natAbs * 10 ^ places) q.den
  let digits := (toString scaled).toList
  let digits := List.replicate (places + 1 - digits.length) '0' ++ digits
  (digits.take (digits.length - places), digits.drop (digits.length - places))

/-- The mark of a power of ten behind the digits of a number. -/
def powerMark (power : Int) : List Char :=
  let digits := (toString power.natAbs).toList
  'e' :: (if power < 0 then '-' else '+')
    :: (List.replicate (2 - digits.length) '0' ++ digits)

/-- A row of digits without the zeros at its end. -/
def withoutZeros (digits : List Char) : List Char := Text.dropEnd (· == '0') digits

/-- The digits of a number: those before its point, those after it, and the
mark of a power of ten. -/
abbrev Digits := List Char × List Char × List Char

/-- A fraction that is not negative with as many digits as are asked for,
which has the mark of a power of ten if it would be long without it. -/
def general (l : Layout) (count : Nat) (isPlain : Bool) (q : Rat) : Digits :=
  let (digits, power) := someDigits count q
  let trimmed (row : List Char) : List Char := if l.marked then row else withoutZeros row
  if power < -4 || power ≥ (count : Int) - (if isPlain then 1 else 0) then
    (digits.take 1, trimmed (digits.drop 1), powerMark power)
  else
    let (whole, rest) := fixed ((count : Int) - 1 - power).toNat q
    let rest := trimmed rest
    (whole, if isPlain && rest.isEmpty then ['0'] else rest, [])

/-- The digits of a number as a letter asks for them. -/
def digitsFor (l : Layout) (letter : Option Char) (q : Rat) : Digits :=
  let count := min (l.precision.getD 6) 1000
  match letter with
  | some 'e' | some 'E' =>
      let (digits, power) := someDigits (count + 1) q
      (digits.take 1, digits.drop 1, powerMark power)
  | some 'f' | some 'F' =>
      let (whole, rest) := fixed count q
      (whole, rest, [])
  | some '%' =>
      let (whole, rest) := fixed count q
      (whole, rest, ['%'])
  | letter => l.general (max 1 count) letter.isNone q

/-- The digits of the shortest text that a number is read back from. -/
def shortDigits (x : Binary64) : Digits :=
  let cs := (if x.hasMinus then x.negated else x).text.toList
  let whole := cs.takeWhile Char.isDigit
  match cs.dropWhile Char.isDigit with
  | '.' :: rest => (whole, rest.takeWhile Char.isDigit, rest.dropWhile Char.isDigit)
  | rest => (whole, [], rest)

/-- The letters of the ways in which a floating-point number is written. -/
def floatLetters : List Char := ['e', 'E', 'f', 'F', 'g', 'G', 'n', '%']

/-- The digits of a finite number in a layout. -/
def digitsOf (l : Layout) (x : Binary64) (q : Rat) : Digits :=
  if l.letter.isNone && l.precision.isNone then shortDigits x else l.digitsFor l.letter q.abs

/-- A floating-point number in a layout. -/
def ofFloat (l : Layout) (cls : String) (x : Binary64) : Except Problem String :=
  let x := if l.letter = some '%' then x.times (.ofInt 100) else x
  let made (isNegative : Bool) (body : List Char) : Except Problem String :=
    let body := if l.letter.any Char.isUpper then body.map Char.toUpper else body
    .ok (l.filled '>' (l.signOf isNegative) body)
  match l.letter.filter (fun c => !floatLetters.contains c), x.toRat? with
  | some c, _ => .error (unknownLetter c cls)
  | none, none =>
      made x.hasMinus ((if x = .nan then "nan" else "inf").toList
        ++ if l.letter = some '%' then ['%'] else [])
  | none, some q =>
      let (whole, rest, mark) := l.digitsOf x q
      let isZero := (whole ++ rest).all (· == '0')
      let point := if rest.isEmpty && !l.marked then [] else ['.']
      let isNegative := x.hasMinus && !(l.plainZero && isZero)
      let before := (l.signOf isNegative).length
      made isNegative
        (l.inGroups 3 (before + point.length + rest.length + mark.length) whole
          ++ point ++ rest ++ mark)

/-- A whole number as a character in a layout. -/
def ofCode (l : Layout) (n : Int) : Except Problem String :=
  let refusal (what : String) : Except Problem String :=
    .error (refused (what ++ " not allowed with integer format specifier 'c'"))
  if l.sign.isSome then refusal "Sign"
  else if l.marked then refusal "Alternate form (#)"
  else if n ≥ 2 ^ 63 || n < -2 ^ 63 then
    .error (.told .overflowError "Python int too large to convert to C long")
  else if 0 ≤ n && n < 0x110000 then .ok (l.filled '>' [] [Char.ofNat n.toNat])
  else .error (.told .overflowError "%c arg not in range(0x110000)")

/-- A whole number in a layout. -/
def ofInteger (l : Layout) (cls : String) (n : Int) : Except Problem String :=
  let inBase (mark : String) (base size : Nat) (change : Char → Char) : Except Problem String :=
    let digits := (Nat.toDigits base n.natAbs).map change
    let before := (l.signOf (decide (n < 0))).length + if l.marked then mark.length else 0
    .ok (l.ofDigits (decide (n < 0)) mark.toList (l.inGroups size before digits))
  if l.letter.any floatLetters.contains && l.letter ≠ some 'n' then
    match Object.floatOf n with
    | .ok x => l.ofFloat cls x
    | .error p => .error p
  else if l.letter.any fun c => !(['d', 'n', 'b', 'o', 'x', 'X', 'c'].contains c) then
    .error (unknownLetter (l.letter.getD ' ') cls)
  else if l.precision.isSome then
    .error (refused "Precision not allowed in integer format specifier")
  else if l.plainZero then
    .error (refused "Negative zero coercion (z) not allowed in integer format specifier")
  else
    match l.letter with
    | some 'b' => inBase "0b" 2 4 id
    | some 'o' => inBase "0o" 8 4 id
    | some 'x' => inBase "0x" 16 4 id
    | some 'X' => inBase "0X" 16 4 Char.toUpper
    | some 'c' => l.ofCode n
    | _ => if Object.isShort n then inBase "" 10 3 id else .error .unspellable

end Layout

/-- The text of an object that is shown in a certain way: as it is shown in
messages, as it is written in code, or so with the first 128 characters
only. -/
def converted (conversion : Option Char) (m : Meaning) : Except Problem Meaning := do
  match conversion with
  | some 'r' => return .text (← m.spelled)
  | some 'a' => return .text (asciiOnly (← m.spelled))
  | some _ => return .text (← m.shown)
  | none => return m

/-- An object in the layout that a text tells. -/
def laidOut (m : Meaning) (layout : String) : Except Problem String := do
  let x := m.toObject
  let cls := x.className
  if layout = "" then return ← x.shown
  match x with
  | .text s => (← Layout.ofText cls layout).ofString s
  | .float y => (← Layout.ofText cls layout).ofFloat cls y
  | .complex _ _ =>
      let l ← Layout.ofText cls layout
      return l.filled '>' [] x.written.toList
  | x =>
      match x.integer? with
      | some n => (← Layout.ofText cls layout).ofInteger cls n
      | none =>
          throw (.told .typeError
            ("unsupported format string passed to " ++ cls ++ ".__format__"))

end CommandConsole.Expression
