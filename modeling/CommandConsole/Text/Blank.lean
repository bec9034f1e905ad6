/-
Blank characters and what can be done with them: trimming the ends of a
text, cutting it into words, and dropping every blank.

The class is the one of the Unicode property White_Space, together with
the four information separators U+001C to U+001F. It is wider than
`Char.isWhitespace`, which knows four ASCII characters only
(`isBlank_of_isWhitespace`).
-/

namespace CommandConsole.Text

/-- The runs of blank code points, both ends included, in ascending
order. -/
def blankRuns : List (Nat × Nat) :=
  [(0x09, 0x0D), (0x1C, 0x20), (0x85, 0x85), (0xA0, 0xA0),
   (0x1680, 0x1680), (0x2000, 0x200A), (0x2028, 0x2029),
   (0x202F, 0x202F), (0x205F, 0x205F), (0x3000, 0x3000)]

/-- A code point lies in one of the runs. -/
def inRuns (runs : List (Nat × Nat)) (n : Nat) : Bool :=
  runs.any fun run => run.1 ≤ n && n ≤ run.2

/-- A blank character separates words and is trimmed from the ends of a
name. -/
def isBlank (c : Char) : Bool := inRuns blankRuns c.toNat

/-- Whatever the core library calls white space is blank. -/
theorem isBlank_of_isWhitespace {c : Char} (h : c.isWhitespace = true) :
    isBlank c = true := by
  simp only [Char.isWhitespace, Bool.or_eq_true, decide_eq_true_eq] at h
  rcases h with ((rfl | rfl) | rfl) | rfl <;> decide

-- ================================================================ trimming

/-- A list of characters without those at its end that satisfy `p`. -/
def dropEnd (p : Char → Bool) (cs : List Char) : List Char :=
  (cs.reverse.dropWhile p).reverse

/-- A list of characters without those at either end that satisfy `p`. -/
def dropEnds (p : Char → Bool) (cs : List Char) : List Char :=
  dropEnd p (cs.dropWhile p)

/-- A text without the blanks at its two ends. -/
def trim (s : String) : String := String.ofList (dropEnds isBlank s.toList)

/-- A text without the characters at its end that equal `c`. -/
def trimEndOf (c : Char) (s : String) : String :=
  String.ofList (dropEnd (· == c) s.toList)

/-- A text that holds nothing but blanks. -/
def isBlankText (s : String) : Bool := s.toList.all isBlank

-- =================================================================== words

/-- A text without any of its blanks. -/
def withoutBlanks (s : String) : String :=
  String.ofList (s.toList.filter fun c => !isBlank c)

end CommandConsole.Text
