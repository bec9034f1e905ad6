/-
Looking for a text in another one, and taking a text apart.

Texts are rows of characters here. A place is the number of characters
before it.
-/
import CommandConsole.Text.Blank

namespace CommandConsole.Text

-- ================================================================== places

/-- The places at which a text stands in another one, also those at which it
overlaps itself. -/
def placesOf (sought cs : List Char) : List Nat :=
  (List.range (cs.length + 1)).filter fun i => sought.isPrefixOf (cs.drop i)

/-- The places among ascending ones that stand at least `step` apart. -/
def apart (step : Nat) (least : Nat) : List Nat → List Nat
  | [] => []
  | i :: rest => if least ≤ i then i :: apart step (i + step) rest else apart step least rest

/-- The places at which a text stands in another one, from the left, so that
no two of them overlap. -/
def separatePlaces (sought cs : List Char) : List Nat :=
  apart (max 1 sought.length) 0 (placesOf sought cs)

/-- The places at which a text stands in another one, from the right, so
that no two of them overlap. The rightmost one is the first. -/
def separatePlacesBack (sought cs : List Char) : List Nat :=
  (separatePlaces sought.reverse cs.reverse).map fun i => cs.length - i - sought.length

-- ================================================================== pieces

/-- The pieces of a text between some ascending places, at each of which
`width` characters are left out. -/
def piecesAt (width start : Nat) (cs : List Char) : List Nat → List (List Char)
  | [] => [cs.drop start]
  | i :: rest => (cs.drop start).take (i - start) :: piecesAt width (i + width) cs rest

/-- A number of items of a row, or all of them. -/
def atMost {α : Type} (most : Option Nat) (row : List α) : List α :=
  match most with
  | some n => row.take n
  | none => row

/-- The pieces of a text between the places of another one, of which at most
some count from the left. -/
def pieces (most : Option Nat) (mark cs : List Char) : List (List Char) :=
  piecesAt mark.length 0 cs (atMost most (separatePlaces mark cs))

/-- The pieces of a text between the places of another one, of which at most
some count from the right. -/
def piecesBack (most : Option Nat) (mark cs : List Char) : List (List Char) :=
  piecesAt mark.length 0 cs (atMost most (separatePlacesBack mark cs)).reverse

/-- The words of a text between blanks. After `most` of them, what is left is
one word with its blanks. -/
def words (most : Option Nat) : Nat → List Char → List (List Char)
  | 0, _ => []
  | fuel + 1, cs =>
      let cs := cs.dropWhile isBlank
      if cs.isEmpty then []
      else if most = some 0 then [cs]
      else
        cs.takeWhile (!isBlank ·) ::
          words (most.map (· - 1)) fuel (cs.dropWhile (!isBlank ·))

/-- The words of a text between blanks, of which the last ones count. -/
def wordsBack (most : Option Nat) (cs : List Char) : List (List Char) :=
  ((words most (cs.length + 1) cs.reverse).map List.reverse).reverse

/-- A text with another one in the place of each place of a third one, of
which at most some count. -/
def replaced (most : Option Nat) (old new cs : List Char) : List Char :=
  if old.isEmpty then
    let marked := atMost most (List.range (cs.length + 1))
    (List.range (cs.length + 1)).flatMap fun i =>
      (if marked.contains i then new else []) ++ (cs.drop i).take 1
  else new.intercalate (pieces most old cs)

/-- A character ends a line. -/
def endsLine (c : Char) : Bool :=
  [0x0A, 0x0B, 0x0C, 0x0D, 0x1C, 0x1D, 0x1E, 0x85, 0x2028, 0x2029].contains c.toNat

/-- The lines of a text, with what ends them or without, where some
characters end lines. -/
def lines (ends : Char → Bool) (keepsEnds : Bool) : Nat → List Char → List (List Char)
  | 0, _ => []
  | fuel + 1, cs =>
      let body := cs.takeWhile (!ends ·)
      match cs.dropWhile (!ends ·) with
      | [] => if body.isEmpty then [] else [body]
      | '\r' :: '\n' :: rest =>
          (if keepsEnds then body ++ ['\r', '\n'] else body) :: lines ends keepsEnds fuel rest
      | c :: rest => (if keepsEnds then body ++ [c] else body) :: lines ends keepsEnds fuel rest

/-- A text with blanks in the place of each tab, up to the next column that
is a multiple of `width`. -/
def withoutTabs (width column : Nat) : List Char → List Char
  | [] => []
  | '\t' :: rest =>
      let missing := if width = 0 then 0 else width - column % width
      List.replicate missing ' ' ++ withoutTabs width (column + missing) rest
  | c :: rest =>
      c :: withoutTabs width (if c = '\n' || c = '\r' then 0 else column + 1) rest

end CommandConsole.Text
