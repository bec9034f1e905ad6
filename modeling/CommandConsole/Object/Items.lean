/-
The objects that a walk through an object meets.
-/
import CommandConsole.Number.Bits
import CommandConsole.Object.Basic

namespace CommandConsole.Object

/-- The characters of a text, each of them as a text. -/
def characters (s : String) : List Object :=
  s.toList.map fun c => .text (String.ofList [c])

/-- A row of objects without those that are equal to an earlier one. -/
def distinct (items : List Object) : List Object :=
  go [] items
where
  go (seen : List Object) : List Object → List Object
    | [] => []
    | x :: rest =>
        if seen.any fun other => other.same x then go seen rest
        else x :: go (x :: seen) rest

/-- The objects that a walk through an object meets, if it can be walked
through. A combination of flags consists of single flags, and a single flag
of itself. -/
def items? : Object → Option (List Object)
  | .text s => some (characters s)
  | .bytes row => some (row.map fun n => .int (Int.ofNat n))
  | .list items => some items
  | .tuple items => some items
  | .set items => some items
  | .frozenSet items => some items
  | .dict entries => some (entries.map (·.1))
  | .view entries => some (entries.map (·.1))
  | .namedTuple _ fields => some (fields.map (·.2))
  | .range first last pace => some ((Number.progression first last pace).map .int)
  | .member enumeration name value parts =>
      match enumeration.style with
      | .text => value.items?
      | .flags => some (flagItems enumeration name value parts)
      | .openFlags => some (flagItems enumeration name value parts)
      | _ => Option.none
  | _ => Option.none
where
  /-- The single flags that a member consists of. -/
  flagItems (enumeration : EnumerationClass) (name : Option String) (value : Object)
      (parts : List Object) : List Object :=
    if name.isSome && Number.isPowerOfTwo (value.whole?.getD 0) then
      [.member enumeration name value parts]
    else parts

/-- The number of items of an object, if it tells one. -/
def size? (x : Object) : Option Nat :=
  match x with
  | .member enumeration _ value _ =>
      if enumeration.hasFlags then some (Number.bitCount (value.whole?.getD 0))
      else x.items?.map List.length
  | .range first last pace => some (Number.progressionSize first last pace)
  | x => x.items?.map List.length

end CommandConsole.Object
