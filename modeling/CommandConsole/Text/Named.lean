/-
Characters by their names.

Most names stand in a table. An ideograph is named by its code, and a
syllable of letters that are put together by these letters.
-/
import CommandConsole.Text.NameTable

namespace CommandConsole.Text

/-- The characters of a row with their names. -/
def NameRow.entries (row : NameRow) : List (String × Nat) :=
  ((row.lines.flatMap fun line => line.splitOn ";").zipIdx).map fun (rest, i) =>
    (row.start ++ rest, row.first + i)

/-- The code of a character whose name stands in a table. Small letters are
as good as large ones. -/
def listedName? (s : String) : Option Nat :=
  let key := String.ofList (s.toList.map Char.toUpper)
  let rows := nameRows.filter fun row => row.start.toList.isPrefixOf key.toList
  (rows.findSome? fun row => row.entries.lookup key).or
    ((otherNames.find? fun entry => entry.2 = key).map (·.1))

-- ============================================================== ideographs

/-- The codes of the ideographs that are named by their codes. -/
def ideographRuns : List (Nat × Nat) :=
  [(0x3400, 0x4DBF), (0x4E00, 0x9FFF), (0x20000, 0x2A6DF), (0x2A700, 0x2B738),
   (0x2B740, 0x2B81D), (0x2B820, 0x2CEA1), (0x2CEB0, 0x2EBE0), (0x30000, 0x3134A)]

/-- The value of a digit of base sixteen that is no small letter. -/
def largeHexDigit? (c : Char) : Option Nat :=
  if '0' ≤ c && c ≤ '9' then some (c.toNat - '0'.toNat)
  else if 'A' ≤ c && c ≤ 'F' then some (c.toNat - 'A'.toNat + 10)
  else none

/-- The code of an ideograph with a name. -/
def ideographNamed? (s : String) : Option Nat := do
  let start := "CJK UNIFIED IDEOGRAPH-".toList
  guard (start.isPrefixOf s.toList)
  let digits ← (s.toList.drop start.length).mapM largeHexDigit?
  guard (digits.length = 4 || digits.length = 5)
  let n := digits.foldl (fun n digit => 16 * n + digit) 0
  guard (ideographRuns.any fun run => run.1 ≤ n && n ≤ run.2)
  return n

-- =============================================================== syllables

/-- The letters that syllables start with. -/
def firstLetters : List String :=
  ["G", "GG", "N", "D", "DD", "R", "M", "B", "BB", "S", "SS", "", "J", "JJ", "C", "K", "T", "P",
   "H"]

/-- The vowels of syllables. -/
def vowels : List String :=
  ["A", "AE", "YA", "YAE", "EO", "E", "YEO", "YE", "O", "WA", "WAE", "OE", "YO", "U", "WEO", "WE",
   "WI", "YU", "EU", "YI", "I"]

/-- The letters that syllables end with. -/
def lastLetters : List String :=
  ["", "G", "GG", "GS", "N", "NJ", "NH", "D", "L", "LG", "LM", "LB", "LS", "LT", "LP", "LH", "M",
   "B", "BS", "S", "SS", "NG", "J", "C", "K", "T", "P", "H"]

/-- The code of a syllable with a name. -/
def syllableNamed? (s : String) : Option Nat :=
  let start := "HANGUL SYLLABLE "
  firstLetters.zipIdx.findSome? fun (first, i) =>
    vowels.zipIdx.findSome? fun (vowel, j) =>
      (lastLetters.zipIdx.find? fun (last, _) => start ++ first ++ vowel ++ last = s).map
        fun (_, k) => 0xAC00 + (i * vowels.length + j) * lastLetters.length + k

/-- The code of the character with a name. -/
def characterNamed? (s : String) : Option Nat :=
  ((ideographNamed? s).or (listedName? s)).or (syllableNamed? s)

end CommandConsole.Text
