/-
The operations of numbers that are called by their names.
-/
import CommandConsole.Expression.Construction
import CommandConsole.Expression.TextOperation

namespace CommandConsole.Expression

open Number

-- =================================================================== bytes

/-- The bytes of a number, the lowest ones first. -/
def lowBytes (n : Nat) : Nat → List Nat
  | 0 => []
  | count + 1 => n % 256 :: lowBytes (n / 256) count

/-- The places of the arguments of an operation that makes bytes of a number,
or a number of bytes. -/
def bytesSignature (key : String) : Signature :=
  if key = "to_bytes" then
    { name := key, formals := ["length", "byteorder", "signed"], positions := 2 }
  else { name := key, formals := ["bytes", "byteorder", "signed"], required := 1, positions := 2 }

/-- The order of the bytes of a number: its highest ones are the first ones,
or its lowest ones. -/
def highFirst (m? : Option Meaning) (key : String) : Except Problem Bool := do
  let some m := m? | return true
  match String.ofList (← textArgument m key "'byteorder' ") with
  | "big" => return true
  | "little" => return false
  | _ => throw (.told .valueError "byteorder must be either 'little' or 'big'")

/-- The bytes of a whole number. -/
def bytesOfNumber (n : Int) (places : List (Option Meaning)) : Except Problem Meaning := do
  let place (i : Nat) : Option Meaning := (places[i]?).join
  let length ←
    match place 0 with
    | some m => sizeNumber m
    | none => pure 1
  let isHigh ← highFirst (place 1) "to_bytes"
  let isSigned := ((place 2).map Meaning.truthy).getD false
  if length < 0 then throw (.told .valueError "length argument must be non-negative")
  if n < 0 && !isSigned then
    throw (.told .overflowError "can't convert negative int to unsigned")
  let size := min length.toNat Object.maxBits
  let limit : Int := 256 ^ size
  let isFit :=
    if isSigned then (-limit ≤ 2 * n && 2 * n < limit) || (n = 0 || n = -1) && size = 0
    else n < limit
  if !isFit || (n = -1 && size = 0) then
    throw (.told .overflowError "int too big to convert")
  let row := lowBytes (if n < 0 then n + limit else n).toNat size
  return .object (.bytes (if isHigh then row.reverse else row))

/-- The whole number of some bytes. -/
def numberOfBytes (places : List (Option Meaning)) : Except Problem Meaning := do
  let place (i : Nat) : Option Meaning := (places[i]?).join
  let m := (place 0).getD .absent
  let isHigh ← highFirst (place 1) "from_bytes"
  let isSigned := ((place 2).map Meaning.truthy).getD false
  let row ←
    match m.byteRow?, m.items? with
    | some row, _ => pure row
    | none, some items =>
        if m.className = "str" then throw (mistaken "cannot convert 'str' object to bytes")
        else items.mapM (byteOf "bytes")
    | none, none =>
        throw (mistaken
          ("cannot convert '" ++ Problem.longName m.className ++ "' object to bytes"))
  let row := if isHigh then row else row.reverse
  let n : Nat := row.foldl (fun n byte => 256 * n + byte) 0
  let isNegative := isSigned && 2 * n ≥ 256 ^ row.length && n ≠ 0
  return .number (if isNegative then (n : Int) - (256 ^ row.length : Nat) else (n : Int))

-- ====================================================== base sixteen

/-- A floating-point number in digits of base sixteen. -/
def hexadecimal (x : Binary64) : String :=
  match x with
  | .finite negative m e =>
      let isSmall := m < 2 ^ 52
      let lead := if isSmall then "0" else "1"
      let exponent : Int := if m = 0 then 0 else if isSmall then -1022 else e + 52
      let digits := Nat.toDigits 16 (m % 2 ^ 52)
      let body := String.ofList (List.replicate (13 - digits.length) '0' ++ digits)
      (if negative then "-" else "") ++ "0x" ++ lead ++ "." ++ (if m = 0 then "0" else body)
        ++ "p" ++ (if exponent < 0 then "" else "+") ++ toString exponent
  | x => x.text

/-- A fraction as a pair of whole numbers. -/
def ratioOf (q : Rat) : Meaning := .tuple [.number q.num, .number q.den]

/-- The digits of base sixteen of a number that a text spells: its sign, its
digits before and after the point, and the power of two behind them. -/
def hexParts? (cs : List Char) : Option (Bool × List Char × List Char × Int) := do
  let (isNegative, cs) :=
    match cs with
    | '-' :: rest => (true, rest)
    | '+' :: rest => (false, rest)
    | cs => (false, cs)
  let cs :=
    match cs with
    | '0' :: 'x' :: rest | '0' :: 'X' :: rest => rest
    | cs => cs
  let isDigit (c : Char) : Bool := (hexValue? c).isSome
  let whole := cs.takeWhile isDigit
  let (rest, cs) :=
    match cs.dropWhile isDigit with
    | '.' :: tail => (tail.takeWhile isDigit, tail.dropWhile isDigit)
    | tail => ([], tail)
  guard (!(whole ++ rest).isEmpty)
  match cs with
  | [] => return (isNegative, whole, rest, 0)
  | c :: tail =>
      guard (c = 'p' || c = 'P')
      let (isBelow, digits) :=
        match tail with
        | '-' :: digits => (true, digits)
        | '+' :: digits => (false, digits)
        | digits => (false, digits)
      guard (!digits.isEmpty && digits.all Char.isDigit)
      let power : Int := digits.foldl (fun n c => 10 * n + (c.toNat - '0'.toNat)) 0
      return (isNegative, whole, rest, if isBelow then -power else power)

/-- The floating-point number that digits of base sixteen spell. -/
def floatOfHex (s : String) : Except Problem Object :=
  let cs := Text.dropEnds Text.isBlank s.toList
  let refused : Problem :=
    .told .valueError "invalid hexadecimal floating-point string"
  let tooLarge : Problem :=
    .told .overflowError "hexadecimal value too large to represent as a float"
  match Token.toFloat (String.ofList (cs.map Char.toLower)), hexParts? cs with
  | .ok (.float x), none => if x.isFinite then .error refused else .ok (.float x)
  | _, none => .error refused
  | _, some (isNegative, whole, rest, power) =>
      let n := (whole ++ rest).foldl (fun n c => 16 * n + (hexValue? c).getD 0) 0
      let power := power - 4 * (rest.length : Int)
      if n = 0 then .ok (.float (.ofRat isNegative 0))
      else if (n.log2 : Int) + power > 2000 then .error tooLarge
      else if (n.log2 : Int) + power < -2000 then .ok (.float (.ofRat isNegative 0))
      else
        match Binary64.ofQuotient isNegative (n * 2 ^ power.toNat) (2 ^ (-power).toNat) with
        | .infinity _ => .error tooLarge
        | x => .ok (.float x)

-- ============================================================== operations

/-- An operation of a number. -/
def numberOperation (x : Object) (key : String) (arguments : List Meaning)
    (entries : List (String × Meaning)) : Except Problem Meaning := do
  let cls := if x.integer?.isSome then "int" else x.className
  match x.integer?, key with
  | some n, "to_bytes" => bytesOfNumber n (← (bytesSignature key).fill arguments entries)
  | _, _ =>
      refuseNames (cls ++ "." ++ key) entries
      if !arguments.isEmpty then throw (takesNone cls key arguments.length)
      match x.bare, x.integer?, key with
      | _, some n, "bit_length" => return .number (bitLength n)
      | _, some n, "bit_count" => return .number (bitCount n)
      | _, some n, "conjugate" => return .number n
      | _, some n, "as_integer_ratio" => return ratioOf n
      | .float y, _, "conjugate" => return .object (.float y)
      | .float y, _, "is_integer" => return .flag y.toInt?.isSome
      | .float y, _, "hex" => return .text (hexadecimal y)
      | .float y, _, "as_integer_ratio" =>
          match y.toRat? with
          | some q => return ratioOf q
          | none =>
              if y = .nan then
                throw (.told .valueError "cannot convert NaN to integer ratio")
              else throw (.told .overflowError "cannot convert Infinity to integer ratio")
      | .complex re im, _, "conjugate" => return .object (.complex re im.negated)
      | _, _, _ => return .absent

end CommandConsole.Expression
