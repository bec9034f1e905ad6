/-
How similar two texts are, and the texts of a list that are most similar
to a given one.

The similarity of two texts is twice the number of characters that match
in them over the number of all their characters. Which characters match is
found by looking for the longest part that the texts share, and then in
the same way for what stands before it and what stands after it. In a long
text the characters that are too frequent do not begin a part.
-/
import CommandConsole.Text.Blank

namespace CommandConsole.Text

/-- From how many characters on a text is long. -/
def longText : Nat := 200

/-- A character is too frequent to begin a part of a text: it makes up more
than a hundredth of a long text. -/
def isPopular (text : List Char) (c : Char) : Bool :=
  decide (longText ≤ text.length) && decide (text.length / 100 + 1 < text.count c)

/-- A part that two texts share: where it begins in either, and its
length. -/
structure Match where
  left : Nat
  right : Nat
  size : Nat

/-- The lengths of the shared parts that end at a character of the first
text and at each of the second, from the lengths for the character before.
`above` starts with the length that belongs before the first one. -/
def rowOfLengths (popular : Char → Bool) (c : Char) : Nat → List Nat → List Char → List Nat
  | before, above, d :: rest =>
      let here := if c = d && !popular d then before + 1 else 0
      here :: rowOfLengths popular c (above.headD 0) (above.drop 1) rest
  | _, _, [] => []

/-- The best match so far, after the lengths that belong to the character
at `i` of the first text; `j` counts the characters of the second. -/
def bestInRow (i : Nat) : Nat → List Nat → Match → Match
  | _, [], best => best
  | j, size :: rest, best =>
      bestInRow i (j + 1) rest
        (if size > best.size then ⟨i + 1 - size, j + 1 - size, size⟩ else best)

/-- The longest part that two texts share and that no frequent character
begins or ends, the first one if there are several. -/
def longestFrom (popular : Char → Bool) (b : List Char) :
    Nat → List Nat → List Char → Match → Match
  | _, _, [], best => best
  | i, above, c :: rest, best =>
      let row := rowOfLengths popular c 0 above b
      longestFrom popular b (i + 1) row rest (bestInRow i 0 row best)

/-- The number of characters that two rows have in common from the start
on. -/
def commonStart : List Char → List Char → Nat
  | x :: xs, y :: ys => if x = y then commonStart xs ys + 1 else 0
  | _, _ => 0

/-- The longest part that two texts share, extended over the equal
characters next to it. -/
def longestMatch (popular : Char → Bool) (a b : List Char) : Match :=
  let m := longestFrom popular b 0 [] a ⟨0, 0, 0⟩
  let back := commonStart (a.take m.left).reverse (b.take m.right).reverse
  let left := m.left - back
  let right := m.right - back
  let size := m.size + back
  ⟨left, right, size + commonStart (a.drop (left + size)) (b.drop (right + size))⟩

/-- The number of characters that match in two texts. -/
def matching (popular : Char → Bool) : Nat → List Char → List Char → Nat
  | 0, _, _ => 0
  | fuel + 1, a, b =>
      let m := longestMatch popular a b
      if m.size = 0 then 0
      else
        m.size + matching popular fuel (a.take m.left) (b.take m.right)
          + matching popular fuel (a.drop (m.left + m.size)) (b.drop (m.right + m.size))

/-- A quotient of two whole numbers, the similarity of two texts. Two empty
texts are as similar as can be. -/
structure Similarity where
  /-- Twice the number of characters that match. -/
  shared : Nat
  /-- The number of all characters. -/
  total : Nat

namespace Similarity

/-- The similarity of two texts. -/
def between (a b : String) : Similarity :=
  let x := a.toList
  let y := b.toList
  if x.length + y.length = 0 then ⟨1, 1⟩
  else ⟨2 * matching (isPopular y) (x.length + 1) x y, x.length + y.length⟩

/-- A similarity is not below another one. -/
def atLeast (p q : Similarity) : Bool := q.shared * p.total ≤ p.shared * q.total

/-- The similarity from which on two texts are close. -/
def cutoff : Similarity := ⟨3, 5⟩

end Similarity

/-- A text and its similarity come before another one: the more similar
text does, and of two that are as similar the greater one. -/
def closer (p q : Similarity × String) : Bool :=
  if p.1.atLeast q.1 then !q.1.atLeast p.1 || decide (q.2 ≤ p.2) else false

/-- The candidates that are close to a text, the closest ones first, at
most `count` of them. -/
def closeMatches (text : String) (candidates : List String) (count : Nat) :
    List String :=
  let scored := candidates.map fun s => (Similarity.between s text, s)
  let close := scored.filter fun p => p.1.atLeast Similarity.cutoff
  ((close.mergeSort closer).take count).map (·.2)

end CommandConsole.Text
