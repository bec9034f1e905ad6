/-
A text between quotes, as it stands in a message.

The quotes are single ones, unless the text holds a single quote and no
double one. Inside them a backslash and the chosen quote are written with
a backslash, and an unprintable character is written by its code point.
-/
import CommandConsole.Number.Bits
import CommandConsole.Text.Blank
import CommandConsole.Text.UnprintableTable

namespace CommandConsole.Text

/-- A printable character stands for itself between quotes. -/
def isPrintable (c : Char) : Bool := !inRuns unprintableRuns c.toNat

/-- The last `width` hexadecimal digits of a number, in lower case. -/
def hexDigits (width n : Nat) : List Char :=
  ((List.range width).map fun place =>
    Nat.digitChar (n / 16 ^ place % 16)).reverse

/-- A code point written as an escape, with as few digits as its size
allows: two, four or eight. -/
def escape (n : Nat) : List Char :=
  if n < 0x100 then '\\' :: 'x' :: hexDigits 2 n
  else if n < 0x10000 then '\\' :: 'u' :: hexDigits 4 n
  else '\\' :: 'U' :: hexDigits 8 n

/-- A character as it is written between quotes of the given kind. -/
def quotedChar (quote c : Char) : List Char :=
  if c = quote ∨ c = '\\' then ['\\', c]
  else if c = '\n' then ['\\', 'n']
  else if c = '\r' then ['\\', 'r']
  else if c = '\t' then ['\\', 't']
  else if isPrintable c then [c]
  else escape c.toNat

/-- The quote that a text is put between. -/
def quoteFor (cs : List Char) : Char :=
  if cs.contains '\'' && !cs.contains '"' then '"' else '\''

/-- A text between quotes. -/
def quoted (s : String) : String :=
  let quote := quoteFor s.toList
  String.ofList (quote :: s.toList.flatMap (quotedChar quote) ++ [quote])

end CommandConsole.Text
