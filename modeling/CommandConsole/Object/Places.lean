/-
The order in which the items of a set are met.

A set keeps its items at places, of which there are a power of two and more
than half as many again as items. The place of an item is what is left of
its number modulo the count of places, or one of the next free ones. The
items are met by their places. Where an item has no number that is known,
they are met in the order in which they came.

The order of a new set depends on how it comes to be: items that come one by
one are put at new places as there are more of them, and the items of another
set are put at places for all of them at once.
-/
import CommandConsole.Object.Hash
import CommandConsole.Object.Items

namespace CommandConsole

/-- The items of a set at their places, with their numbers. -/
abbrev Places (α : Type) := Array (Option (Int × α))

namespace Places

variable {α : Type}

/-- The least power of two that is greater than a count, of at least eight
and at most `2 ^ 20`. -/
def sizeAbove (count : Nat) : Nat :=
  (((List.range 21).drop 3).find? fun bits => 2 ^ bits > count).elim (2 ^ 20) (2 ^ ·)

/-- Places without items. -/
def ofSize (size : Nat) : Places α := Array.replicate size none

/-- The first free place for a number, from a place on. Nine neighbours are
looked at before the rest of the number leads elsewhere. -/
def freePlace (places : Places α) : Nat → Nat → Nat → Nat
  | 0, place, _ => place
  | fuel + 1, place, rest =>
      let count := if place + 9 < places.size then 10 else 1
      match (List.range count).find? fun i => (places.getD (place + i) none).isNone with
      | some i => place + i
      | none =>
          let rest := rest / 32
          freePlace places fuel ((5 * place + 1 + rest) % places.size) rest

/-- Puts an item at its place. -/
def put (places : Places α) (entry : Int × α) : Places α :=
  let place := freePlace places (places.size + 64) (entry.1 % places.size).toNat
    (entry.1 % 2 ^ 64).toNat
  places.setIfInBounds place (some entry)

/-- The items at places, by their places. -/
def entries (places : Places α) : List (Int × α) := places.toList.filterMap id

/-- All items at places of another count. -/
def resized (places : Places α) (size : Nat) : Places α :=
  places.entries.foldl put (ofSize size)

/-- There are too few places for a number of items. -/
def areFew (places : Places α) (used : Nat) : Bool := 5 * used ≥ 3 * (places.size - 1)

/-- Puts an item at its place, and all items at new places if there are too
few free ones. -/
def add (places : Places α) (entry : Int × α) : Places α :=
  let places := places.put entry
  let used := places.entries.length
  if places.areFew used then places.resized (sizeAbove (4 * used)) else places

/-- The places of a set with those of some items, after there were made enough
for all items of another set, of which there are `count`. -/
def merge (places : Places α) (count : Nat) (row : List (Int × α)) : Places α :=
  let used := places.entries.length + count
  row.foldl add (if places.areFew used then places.resized (sizeAbove (2 * used)) else places)

/-- The places of items that come one by one. -/
def oneByOne (row : List (Int × α)) : Places α := row.foldl add (ofSize 8)

/-- The count of places of a number of items that come one by one. -/
def sizeOneByOne (count : Nat) : Nat :=
  (List.range count).foldl
    (fun size i => if 5 * (i + 1) ≥ 3 * (size - 1) then sizeAbove (4 * (i + 1)) else size) 8

/-- The count of places of a number of items that come at once. -/
def sizeAtOnce (count : Nat) : Nat := if 5 * count < 21 then 8 else sizeAbove (2 * count)

/-- How often an item is met whose number tells a place before that of the
item that is met before it. -/
def descents (size : Nat) (row : List (Int × α)) : Nat :=
  ((row.zip row.tail).filter fun (x, y) => y.1 % size < x.1 % size).length

/-- The items of a set seem to be at as many places as there are for items that
come at once: then a copy has them at the same places. -/
def isCompact (row : List (Int × α)) : Bool :=
  let count := row.length
  let size := sizeAtOnce count
  sizeOneByOne count = size || descents size row ≤ descents (sizeOneByOne count) row

/-- The places of the items of another set, which come at once. -/
def atOnce (row : List (Int × α)) : Places α := merge (ofSize 8) row.length row

end Places

/-- How the items of a set are told from each other: by numbers, as far as
they are known, and by whether they are the same. -/
structure Keys (α : Type) where
  number? : α → Option Int
  same : α → α → Bool

namespace Keys

variable {α : Type}

/-- Some items with their numbers, if all of them have one. -/
def numbered (k : Keys α) (items : List α) : Option (List (Int × α)) :=
  items.mapM fun x => (k.number? x).map (·, x)

/-- The items of two rows in the order of the places that they are put at. If
not all of them have numbers, they stay in the order in which they came. -/
def placed (k : Keys α) (put : List (Int × α) → List (Int × α) → Places α)
    (xs ys : List α) : List α :=
  match k.numbered xs, k.numbered ys with
  | some a, some b => ((put a b).entries).map (·.2)
  | _, _ => xs ++ ys

/-- The items of a set to which they are added one after the other. -/
def oneByOne (k : Keys α) (items : List α) : List α :=
  k.placed (fun row _ => .oneByOne row) items []

/-- The items of a set that is made of another set, whose items come in the
order in which they are met there. -/
def atOnce (k : Keys α) (items : List α) : List α :=
  match k.numbered items with
  | some row => if Places.isCompact row then items else ((Places.atOnce row).entries).map (·.2)
  | none => items

/-- The items of a set that is made of a set to which they were added one after
the other. Where both have as many places, they are met in the same order. -/
def rebuilt (k : Keys α) (items : List α) : List α :=
  let first := k.oneByOne items
  if Places.sizeOneByOne items.length = Places.sizeAtOnce items.length then first
  else k.placed (fun row _ => .atOnce row) first []

/-- The items of one row that stand in another one, or those that do not. -/
def selected (k : Keys α) (within : Bool) (xs ys : List α) : List α :=
  xs.filter fun x => (ys.any fun y => k.same y x) == within

/-- The items of a set to which others are added one after the other. -/
def extended (k : Keys α) (items others : List α) : List α :=
  k.placed (fun row more => more.foldl Places.add (.atOnce row)) items
    (k.selected false others items)

/-- The items of a set with those of another one. -/
def either (k : Keys α) (xs ys : List α) : List α :=
  k.placed (fun row more => (Places.atOnce row).merge ys.length more) xs (k.selected false ys xs)

/-- The items that two sets share. The smaller one is walked through. -/
def both (k : Keys α) (xs ys : List α) : List α :=
  if ys.length > xs.length then k.oneByOne (k.selected true xs ys)
  else k.oneByOne (k.selected true ys xs)

/-- The items of a set that another one does not have. A set that is far
larger is copied first. -/
def without (k : Keys α) (xs ys : List α) : List α :=
  if xs.length / 4 > ys.length then k.selected false (k.atOnce xs) ys
  else k.oneByOne (k.selected false xs ys)

/-- The items that only one of two sets has, beginning with the second one. -/
def oneOf (k : Keys α) (xs ys : List α) : List α :=
  let shared := k.selected true ys xs
  k.selected false (k.extended ys xs) shared

end Keys

namespace Object

/-- How objects are told from each other as items of sets. -/
def keys : Keys Object := ⟨hash?, fun x y => x.same y⟩

/-- The set of some objects. -/
def setOf (items : List Object) : Object := .set (keys.oneByOne (distinct items))

/-- An object that its owner alone can change: a row becomes a tuple, a
dictionary a view of itself and a set a frozen one. -/
def frozen : Object → Object
  | .list items => .tuple items
  | .namedTuple _ fields => .tuple (fields.map (·.2))
  | .range first last pace => .tuple ((Number.progression first last pace).map .int)
  | .dict entries => .view entries
  | .set items => .frozenSet (keys.atOnce items)
  | x => x

end Object

end CommandConsole
