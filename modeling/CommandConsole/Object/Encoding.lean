/-
Codes by which texts are rows of bytes.
-/
import CommandConsole.Problem

namespace CommandConsole

/-- A code by which characters are bytes. -/
inductive Encoding where
  | utf8
  /-- The same behind a mark, which need not be there when it is read. -/
  | markedUtf8
  | ascii
  | latin
  /-- Numbers of two or of four bytes, of which the greater ones come first or
  last, behind a mark of their order if there is one. -/
  | wide (isDouble isBig isMarked : Bool)
deriving DecidableEq

namespace Encoding

/-- The name of an encoding in a message. -/
def label : Encoding → String
  | .utf8 | .markedUtf8 => "utf-8"
  | .ascii => "ascii"
  | .latin => "latin-1"
  | .wide isDouble isBig _ =>
      (if isDouble then "utf-32-" else "utf-16-") ++ if isBig then "be" else "le"

/-- The number above all codes of characters that an encoding has as single
bytes. -/
def limit (e : Encoding) : Nat :=
  match e with
  | .latin => 256
  | .wide _ _ _ => 0
  | _ => 128

/-- The encoding with a name. -/
def named? (s : String) : Option Encoding :=
  match String.ofList (s.toList.map fun c => if c = '-' || c = ' ' then '_' else c.toLower) with
  | "utf_8" | "utf8" | "u8" | "utf" | "cp65001" => some .utf8
  | "utf_8_sig" => some .markedUtf8
  | "ascii" | "us_ascii" | "us" | "646" | "cp367" => some .ascii
  | "latin_1" | "latin1" | "iso_8859_1" | "iso8859_1" | "iso8859" | "8859" | "cp819" | "latin"
  | "l1" => some .latin
  | "utf_16" | "utf16" | "u16" => some (.wide false false true)
  | "utf_16_le" | "utf_16le" => some (.wide false false false)
  | "utf_16_be" | "utf_16be" => some (.wide false true false)
  | "utf_32" | "utf32" | "u32" => some (.wide true false true)
  | "utf_32_le" | "utf_32le" => some (.wide true false false)
  | "utf_32_be" | "utf_32be" => some (.wide true true false)
  | _ => none

/-- The encoding with a name, if there is one. -/
def ofName (s : String) : Except Problem Encoding :=
  match named? s with
  | some e => .ok e
  | none => .error (.told .lookupError ("unknown encoding: " ++ s))

-- ================================================================= writing

/-- A number as a row of bytes, of which the greater ones come first or
last. -/
def inBytes (isDouble isBig : Bool) (n : Nat) : List Nat :=
  let row := (List.range (if isDouble then 4 else 2)).map fun i => n / 256 ^ i % 256
  if isBig then row.reverse else row

/-- The numbers of at most two bytes that stand for a character. -/
def halves (n : Nat) : List Nat :=
  if n < 0x10000 then [n]
  else [0xD800 + (n - 0x10000) / 0x400, 0xDC00 + (n - 0x10000) % 0x400]

/-- The bytes of a character, if an encoding has it. -/
def bytes? (e : Encoding) (c : Char) : Option (List Nat) :=
  if c.toNat < e.limit then some [c.toNat]
  else
    match e with
    | .utf8 | .markedUtf8 => some ((String.ofList [c]).toUTF8.toList.map UInt8.toNat)
    | .ascii | .latin => none
    | .wide isDouble isBig _ =>
        some ((if isDouble then [c.toNat] else halves c.toNat).flatMap (inBytes isDouble isBig))

/-- The mark before the bytes of a text in an encoding. -/
def mark : Encoding → List Nat
  | .markedUtf8 => [0xEF, 0xBB, 0xBF]
  | .wide isDouble isBig true => inBytes isDouble isBig 0xFEFF
  | _ => []

/-- The refusal of the characters of a text at a place that an encoding does
not have. -/
def unencodable (e : Encoding) (place : Nat) (run : List Char) : Problem :=
  let which :=
    match run with
    | [c] => " '" ++ String.ofList (Text.escape c.toNat) ++ "' in position " ++ toString place
    | run => "s in position " ++ toString place ++ "-" ++ toString (place + run.length - 1)
  .told .unicodeEncodeError
    ("'" ++ e.label ++ "' codec can't encode character" ++ which
      ++ ": ordinal not in range(" ++ toString e.limit ++ ")")

/-- No way to handle errors has a name. -/
def unknownHandler (errors : String) : Problem :=
  .told .lookupError ("unknown error handler name '" ++ errors ++ "'")

/-- What stands in the place of a character that an encoding does not have,
in a way to handle errors. -/
def standIn? (errors : String) (c : Char) : Option (List Char) :=
  match errors with
  | "ignore" => some []
  | "replace" => some ['?']
  | "backslashreplace" => some (Text.escape c.toNat)
  | "xmlcharrefreplace" => some (("&#" ++ toString c.toNat ++ ";").toList)
  | _ => none

/-- The bytes of a text in an encoding, where errors are handled in a way. -/
def encode (e : Encoding) (errors : String) (cs : List Char) : Except Problem (List Nat) :=
  match cs.mapM e.bytes? with
  | some rows => .ok (e.mark ++ rows.flatten)
  | none =>
      let isMissing (c : Char) : Bool := (e.bytes? c).isNone
      let place := (cs.takeWhile (!isMissing ·)).length
      let run := (cs.drop place).takeWhile isMissing
      match cs.mapM fun c => (e.bytes? c).or ((standIn? errors c).map (·.map Char.toNat)) with
      | some rows => .ok rows.flatten
      | none =>
          .error (if errors = "strict" then unencodable e place run else unknownHandler errors)

-- ================================================================= reading

/-- The number of bytes of the character that starts with a byte, and the
least and the greatest byte that may follow it. -/
def wholeSize? (n : Nat) : Option (Nat × Nat × Nat) :=
  if n < 0x80 then some (1, 0, 0)
  else if n < 0xC2 then none
  else if n < 0xE0 then some (2, 0x80, 0xBF)
  else if n < 0xF0 then
    some (3, if n = 0xE0 then 0xA0 else 0x80, if n = 0xED then 0x9F else 0xBF)
  else if n < 0xF5 then
    some (4, if n = 0xF0 then 0x90 else 0x80, if n = 0xF4 then 0x8F else 0xBF)
  else none

/-- The refusal of a row of bytes: which of them, and why. -/
def undecodable (e : Encoding) (row : List Nat) (place count : Nat) (reason : String) :
    Problem :=
  let which :=
    if count = 1 then
      " 0x" ++ String.ofList (Text.hexDigits 2 (row.getD place 0)) ++ " in position "
        ++ toString place
    else "s in position " ++ toString place ++ "-" ++ toString (place + count - 1)
  .told .unicodeDecodeError
    ("'" ++ e.label ++ "' codec can't decode byte" ++ which ++ ": " ++ reason)

/-- The number of bytes of the character at the start of a row, or how many
of them are refused, and why. -/
def sizeAt (row : List Nat) : Except (Nat × String) Nat :=
  match row with
  | [] => .ok 0
  | n :: rest =>
      match wholeSize? n with
      | none => .error (1, "invalid start byte")
      | some (size, least, greatest) =>
          let meets (i m : Nat) : Bool :=
            if i = 0 then least ≤ m && m ≤ greatest else 0x80 ≤ m && m ≤ 0xBF
          let next := rest.take (size - 1)
          let sound := ((next.zipIdx.takeWhile fun (m, i) => meets i m).length)
          if sound = size - 1 then .ok size
          else if sound = next.length then .error (sound + 1, "unexpected end of data")
          else .error (sound + 1, "invalid continuation byte")

/-- The number that the bytes of a character tell. -/
def codeOf (row : List Nat) : Nat :=
  match row with
  | [] => 0
  | [n] => n
  | n :: rest =>
      rest.foldl (fun code m => 64 * code + m % 64) (n % 2 ^ (6 - rest.length))

/-- The number that some bytes make, of which the greater ones come first or
last. -/
def ofBytes (isBig : Bool) (row : List Nat) : Nat :=
  (if isBig then row else row.reverse).foldl (fun n m => 256 * n + m) 0

/-- The number of bytes of the character at the start of a row of wide
numbers, and its code, or how many of them are refused, and why. -/
def wideAt (isDouble isBig : Bool) (row : List Nat) : Except (Nat × String) (Nat × Nat) :=
  let size := if isDouble then 4 else 2
  let n := ofBytes isBig (row.take size)
  let isHalf (n : Nat) : Bool := 0xD800 ≤ n && n < 0xE000
  if row.length < size then .error (row.length, "truncated data")
  else if isDouble then
    if isHalf n then .error (4, "code point in surrogate code point range(0xd800, 0xe000)")
    else if n ≥ 0x110000 then .error (4, "code point not in range(0x110000)")
    else .ok (4, n)
  else if !isHalf n then .ok (2, n)
  else if n ≥ 0xDC00 then .error (2, "illegal encoding")
  else if row.length < 4 then .error (row.length, "unexpected end of data")
  else
    let m := ofBytes isBig ((row.drop 2).take 2)
    if 0xDC00 ≤ m && m < 0xE000 then
      .ok (4, 0x10000 + 0x400 * (n - 0xD800) + (m - 0xDC00))
    else .error (2, "illegal UTF-16 surrogate")

/-- The number of bytes of the character at the start of a row, and its code,
or how many of them are refused, and why. -/
def characterAt (e : Encoding) (row : List Nat) : Except (Nat × String) (Nat × Nat) :=
  match e with
  | .utf8 | .markedUtf8 => (sizeAt row).map fun size => (size, codeOf (row.take size))
  | .wide isDouble isBig _ => wideAt isDouble isBig row
  | e =>
      let n := row.headD 0
      if n < e.limit then .ok (1, n)
      else .error (1, "ordinal not in range(" ++ toString e.limit ++ ")")

/-- What stands in the place of bytes that spell nothing, in a way to handle
errors. -/
def replacement? (errors : String) (row : List Nat) : Option (List Char) :=
  match errors with
  | "ignore" => some []
  | "replace" => some [Char.ofNat 0xFFFD]
  | "backslashreplace" => some (row.flatMap fun n => '\\' :: 'x' :: Text.hexDigits 2 n)
  | _ => none

/-- The text that a row of bytes spells from a place on, where errors are
handled in a way. -/
def decodeFrom (e : Encoding) (errors : String) (row : List Nat) :
    Nat → Nat → Except Problem (List Char)
  | 0, _ => .ok []
  | fuel + 1, place => do
      let rest := row.drop place
      if rest.isEmpty then return []
      match e.characterAt rest with
      | .ok (size, code) =>
          return Char.ofNat code :: (← decodeFrom e errors row fuel (place + max 1 size))
      | .error (count, reason) =>
          match replacement? errors (rest.take count) with
          | some cs => return cs ++ (← decodeFrom e errors row fuel (place + count))
          | none =>
              throw (if errors = "strict" then undecodable e row place count reason
                else unknownHandler errors)

/-- The text that a row of bytes is in an encoding, where errors are handled
in a way. -/
def decode (e : Encoding) (errors : String) (row : List Nat) : Except Problem (List Char) :=
  let fuel := row.length + 1
  match e with
  | .markedUtf8 =>
      decodeFrom e errors (if e.mark.isPrefixOf row then row.drop e.mark.length else row) fuel 0
  | .wide isDouble _ true =>
      let orders : List Encoding := [.wide isDouble false true, .wide isDouble true true]
      match orders.find? fun order => order.mark.isPrefixOf row with
      | some order => decodeFrom order errors row fuel order.mark.length
      | none => decodeFrom (.wide isDouble false false) errors row fuel 0
  | e => decodeFrom e errors row fuel 0

end Encoding

end CommandConsole
