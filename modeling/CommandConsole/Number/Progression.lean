/-
The whole numbers from one up to another one, by steps.
-/
namespace CommandConsole.Number

/-- The number of whole numbers from `first` up to `last`, which is not one of
them, by steps of `pace`. -/
def progressionSize (first last pace : Int) : Nat :=
  if 0 < pace then ((last - first + pace - 1) / pace).toNat
  else ((first - last - pace - 1) / (-pace)).toNat

/-- The greatest number of whole numbers that are counted one by one. -/
def maxCounted : Nat := 1000000

/-- The whole numbers from `first` up to `last` by steps of `pace`, of which
no more than some are counted. -/
def progression (first last pace : Int) : List Int :=
  (List.range (min (progressionSize first last pace) maxCounted)).map fun i =>
    first + Int.ofNat i * pace

/-- The whole numbers of two progressions are the same ones: as many, from
the same first one by the same steps, as far as there are some. -/
def sameProgression (a b : Int × Int × Int) : Bool :=
  let size := progressionSize a.1 a.2.1 a.2.2
  size == progressionSize b.1 b.2.1 b.2.2
    && (size == 0 || (a.1 == b.1 && (size == 1 || a.2.2 == b.2.2)))

end CommandConsole.Number
