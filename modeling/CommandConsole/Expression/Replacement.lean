/-
Texts with fields in braces, which arguments take the places of.

A field names an argument by its position or by its name, and may go on to
an attribute or an item of it. Fields without a name take the arguments in
order. Behind an exclamation mark stands how the argument is shown, behind a
colon its layout, in which fields may stand in their turn. A brace that is
text is written twice.
-/
import CommandConsole.Expression.Attribute
import CommandConsole.Expression.Format
import CommandConsole.Expression.Item

namespace CommandConsole.Expression

namespace Replacement

/-- A refusal of a text with fields. -/
def refused (message : String) : Problem := .told .valueError message

/-- How the fields so far named the arguments. -/
inductive Numbering where
  | unknown
  /-- In order: so many fields have no name. -/
  | inOrder (count : Nat)
  /-- By numbers. -/
  | byNumber

/-- The arguments that fill fields: those with positions, if there can be
some, and what has an argument for a name. -/
structure Arguments where
  positional? : Option (List Meaning)
  named : String → Except Problem Meaning

/-- The name of a field at the start of some characters. What stands between
brackets belongs to it. -/
def nameAt (inBrackets : Bool) : List Char → Except Problem (List Char × List Char)
  | [] => .error (refused "expected '\x7d' before end of string")
  | c :: rest =>
      if !inBrackets && (c = '\x7d' || c = ':' || c = '!') then .ok ([], c :: rest)
      else if !inBrackets && c = '\x7b' then
        .error (refused "unexpected '\x7b' in field name")
      else do
        let (label, tail) ← nameAt (c = '[' || (inBrackets && c ≠ ']')) rest
        return (c :: label, tail)

/-- The layout of a field, up to the brace that closes it, where `depth`
braces are open inside it. -/
def layoutAt (depth : Nat) : List Char → Except Problem (List Char × List Char)
  | [] => .error (refused "unmatched '\x7b' in format spec")
  | c :: rest =>
      if c = '\x7d' && depth = 0 then .ok ([], rest)
      else do
        let depth := if c = '\x7b' then depth + 1 else if c = '\x7d' then depth - 1 else depth
        let (layout, tail) ← layoutAt depth rest
        return (c :: layout, tail)

/-- A field: its name, how the argument is shown, and its layout. -/
structure Field where
  label : List Char
  conversion : Option Char
  layout : List Char

/-- The field at the start of some characters, which follow its brace. -/
def fieldAt (cs : List Char) : Except Problem (Field × List Char) := do
  let (label, rest) ← nameAt false cs
  match rest with
  | '!' :: [] =>
      throw (refused "end of string while looking for conversion specifier")
  | '!' :: c :: '\x7d' :: rest => return (⟨label, some c, []⟩, rest)
  | '!' :: c :: ':' :: rest =>
      let (layout, rest) ← layoutAt 0 rest
      return (⟨label, some c, layout⟩, rest)
  | '!' :: _ :: [] => throw (refused "unmatched '\x7b' in format spec")
  | '!' :: _ => throw (refused "expected ':' after conversion specifier")
  | ':' :: rest =>
      let (layout, rest) ← layoutAt 0 rest
      return (⟨label, none, layout⟩, rest)
  | rest => return (⟨label, none, []⟩, rest.drop 1)

/-- The number that some characters spell, if they are digits. -/
def numberOf? (cs : List Char) : Option Nat :=
  match Layout.numberAt cs with
  | (some n, []) => some n
  | _ => none

/-- What the end of a name of a field goes on to: attributes and items. -/
def followed : Nat → Meaning → List Char → Except Problem Meaning
  | 0, m, _ => .ok m
  | _ + 1, m, [] => .ok m
  | fuel + 1, m, '.' :: rest => do
      let isPart (c : Char) : Bool := c ≠ '.' && c ≠ '['
      let key := rest.takeWhile isPart
      if key.isEmpty then throw (refused "Empty attribute in format string")
      followed fuel (← attributeOf m m (String.ofList key)) (rest.dropWhile isPart)
  | fuel + 1, m, '[' :: rest => do
      let key := rest.takeWhile (· ≠ ']')
      match rest.dropWhile (· ≠ ']') with
      | [] => throw (refused "Missing ']' in format string")
      | _ :: tail =>
          if key.isEmpty then throw (refused "Empty attribute in format string")
          let index : Meaning :=
            match numberOf? key with
            | some n => .object (.int n)
            | none => .text (String.ofList key)
          followed fuel (← itemOf m index) tail
  | _ + 1, _, _ =>
      .error (refused "Only '.' or '[' may follow ']' in format field specifier")

/-- The argument at a position. -/
def argumentAt (arguments : Arguments) (n : Nat) : Except Problem Meaning :=
  match arguments.positional? with
  | none => .error (refused "Format string contains positional fields")
  | some positional =>
      match positional[n]? with
      | some m => .ok m
      | none =>
          .error (.told .indexError
            ("Replacement index " ++ toString n ++ " out of range for positional args tuple"))

/-- The argument that the name of a field tells, and how fields name
arguments from there on. -/
def argumentOf (arguments : Arguments) (numbering : Numbering) (name : List Char) :
    Except Problem (Meaning × Numbering) := do
  let isPart (c : Char) : Bool := c ≠ '.' && c ≠ '['
  let first := name.takeWhile isPart
  let (m, numbering) ←
    match first.isEmpty, numberOf? first, numbering with
    | true, _, .byNumber =>
        throw (refused
          "cannot switch from manual field specification to automatic field numbering")
    | true, _, .inOrder n => do pure (← argumentAt arguments n, Numbering.inOrder (n + 1))
    | true, _, .unknown => do pure (← argumentAt arguments 0, Numbering.inOrder 1)
    | false, some _, .inOrder _ =>
        throw (refused
          "cannot switch from automatic field numbering to manual field specification")
    | false, some n, _ => do pure (← argumentAt arguments n, Numbering.byNumber)
    | false, none, numbering =>
        do pure (← arguments.named (String.ofList first), numbering)
  return (← followed (name.length + 1) m (name.dropWhile isPart), numbering)

/-- An argument as a letter asks for it to be shown. -/
def shownAs (conversion : Option Char) (m : Meaning) : Except Problem Meaning :=
  match conversion with
  | none => .ok m
  | some c =>
      if c = 'r' || c = 's' || c = 'a' then converted conversion m
      else
        .error (refused
          ("Unknown conversion specifier " ++ if c.toNat > 32 && c.toNat < 127 then
            String.ofList [c] else "\\x" ++ String.ofList (Nat.toDigits 16 c.toNat)))

/-- A text with arguments in the places of its fields, and how the fields
name arguments. Layouts hold fields up to a depth. -/
def filled (arguments : Arguments) :
    Nat → Nat → Numbering → List Char → Except Problem (List Char × Numbering)
  | 0, _, numbering, _ => .ok ([], numbering)
  | _ + 1, _, numbering, [] => .ok ([], numbering)
  | fuel + 1, depth, numbering, c :: rest => do
      let plain (c : Char) (rest : List Char) : Except Problem (List Char × Numbering) := do
        let (tail, numbering) ← filled arguments fuel depth numbering rest
        return (c :: tail, numbering)
      match c, rest with
      | '\x7b', '\x7b' :: rest => plain c rest
      | '\x7d', '\x7d' :: rest => plain c rest
      | '\x7d', _ => throw (refused "Single '\x7d' encountered in format string")
      | '\x7b', [] => throw (refused "Single '\x7b' encountered in format string")
      | '\x7b', rest =>
          let (field, rest) ← fieldAt rest
          let (m, numbering) ← argumentOf arguments numbering field.label
          let m ← shownAs field.conversion m
          if depth ≤ 1 && field.layout.contains '\x7b' then
            throw (refused "Max string recursion exceeded")
          let (layout, numbering) ← filled arguments fuel (depth - 1) numbering field.layout
          let body ← laidOut m (String.ofList layout)
          let (tail, numbering) ← filled arguments fuel depth numbering rest
          return (body.toList ++ tail, numbering)
      | c, rest => plain c rest

end Replacement

/-- A text with arguments in the places of its fields. -/
def replaceWith (s : String) (arguments : Replacement.Arguments) : Except Problem Meaning := do
  let cs := s.toList
  let (row, _) ← Replacement.filled arguments (cs.length + 1) 2 .unknown cs
  return .text (String.ofList row)

/-- A text with arguments in the places of its fields. -/
def replaceFields (s : String) (positional : List Meaning) (named : List (String × Meaning)) :
    Except Problem Meaning :=
  replaceWith s ⟨some positional, fun key =>
    match named.lookup key with
    | some m => .ok m
    | none => .error (.noSuchKey (.text key))⟩

/-- A text with the items of an object in the places of its fields. -/
def replaceFrom (s : String) (m : Meaning) : Except Problem Meaning :=
  replaceWith s ⟨none, fun key => itemOf m (.text key)⟩

end CommandConsole.Expression
