/-
Decimal digits of every script, and the numbers they spell.

Unicode lays out the ten digits of a script in order, so a table of the
zeros is enough to know the value of every digit.
-/
import CommandConsole.Number.Bits
import CommandConsole.Text.Blank

namespace CommandConsole.Number

/-- The zeros of the scripts that have decimal digits, in ascending
order. -/
def zeros : List Nat :=
  [0x30, 0x660, 0x6F0, 0x7C0, 0x966, 0x9E6, 0xA66, 0xAE6, 0xB66, 0xBE6,
   0xC66, 0xCE6, 0xD66, 0xDE6, 0xE50, 0xED0, 0xF20, 0x1040, 0x1090,
   0x17E0, 0x1810, 0x1946, 0x19D0, 0x1A80, 0x1A90, 0x1B50, 0x1BB0,
   0x1C40, 0x1C50, 0xA620, 0xA8D0, 0xA900, 0xA9D0, 0xA9F0, 0xAA50,
   0xABF0, 0xFF10, 0x104A0, 0x10D30, 0x11066, 0x110F0, 0x11136, 0x111D0,
   0x112F0, 0x11450, 0x114D0, 0x11650, 0x116C0, 0x11730, 0x118E0,
   0x11950, 0x11C50, 0x11D50, 0x11DA0, 0x16A60, 0x16AC0, 0x16B50,
   0x1D7CE, 0x1D7D8, 0x1D7E2, 0x1D7EC, 0x1D7F6, 0x1E140, 0x1E2F0,
   0x1E950, 0x1FBF0]

/-- The value of a decimal digit of any script. -/
def digit? (c : Char) : Option Nat :=
  (zeros.find? fun first => first ≤ c.toNat && c.toNat < first + 10).map
    fun first => c.toNat - first

/-- The value of a digit of a base up to thirty-six, written in ASCII. -/
def digitOf? (base : Nat) (c : Char) : Option Nat :=
  let n := c.toNat
  let value? :=
    if 48 ≤ n && n ≤ 57 then some (n - 48)
    else if 97 ≤ n && n ≤ 122 then some (n - 87)
    else if 65 ≤ n && n ≤ 90 then some (n - 55)
    else none
  value?.filter (· < base)

/-- The number spelled by a row of digits, the most significant first. -/
def ofDigits (base : Nat) (digits : List Nat) : Nat :=
  digits.foldl (fun n d => n * base + d) 0

/-- The rest of a row of digits, in which an underscore may stand between
two of them: the digits read, and what follows them. -/
def moreDigits (read? : Char → Option Nat) :
    List Char → List Nat × List Char
  | [] => ([], [])
  | '_' :: c :: rest =>
      match read? c with
      | some d => let (ds, tail) := moreDigits read? rest; (d :: ds, tail)
      | none => ([], '_' :: c :: rest)
  | c :: rest =>
      match read? c with
      | some d => let (ds, tail) := moreDigits read? rest; (d :: ds, tail)
      | none => ([], c :: rest)

/-- A row of at least one digit, in which an underscore may stand between
two of them. -/
def digitRow? (read? : Char → Option Nat) :
    List Char → Option (List Nat × List Char)
  | [] => none
  | c :: rest =>
      match read? c with
      | some d =>
          let (ds, tail) := moreDigits read? rest
          some (d :: ds, tail)
      | none => none

/-- A sign, if there is one, and what follows it: `true` for a minus. -/
def signed : List Char → Bool × List Char
  | '-' :: rest => (true, rest)
  | '+' :: rest => (false, rest)
  | cs => (false, cs)

-- ============================================================ plain digits

/-- The six characters that may stand around a number once it is written
in plain digits. -/
def isSpace (c : Char) : Bool :=
  c.toNat = 32 || (9 ≤ c.toNat && c.toNat ≤ 13)

/-- A character of a number in plain digits: digits of every script become
ASCII digits, and blanks outside ASCII become spaces. What is neither
becomes a question mark, which no number holds. -/
def plainChar (c : Char) : Char :=
  if c.toNat < 127 then c
  else if Text.isBlank c then ' '
  else
    match digit? c with
    | some d => Char.ofNat (48 + d)
    | none => '?'

/-- A row of characters in plain digits. It ends after the first character
that is foreign to numbers, as far as it is not ASCII. -/
def plainRow : List Char → List Char
  | [] => []
  | c :: rest =>
      if plainChar c = '?' ∧ c ≠ '?' then ['?'] else plainChar c :: plainRow rest

/-- The characters of a text in plain digits. One in ASCII alone is in
plain digits already. -/
def plainChars (s : String) : List Char :=
  if s.toList.all fun c => c.toNat < 128 then s.toList else plainRow s.toList

/-- A text in plain digits, without the spaces around it. -/
def plain (s : String) : List Char := Text.dropEnds isSpace (plainChars s)

end CommandConsole.Number
