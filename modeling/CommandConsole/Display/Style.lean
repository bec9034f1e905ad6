/-
Styles of text: how they are named, and the codes that a terminal knows
them by.

The name of a style is a row of words: attributes, colours, `on` before the
colour of the ground, and `not` before an attribute that is taken away. A
name with a word that is none of these stands for the style that changes
nothing.
-/
import CommandConsole.Display.Colour
import CommandConsole.Display.Theme

namespace CommandConsole.Display

/-- What a style may do to a text beside colouring it. -/
inductive Attribute where
  | bold
  | dim
  | italic
  | underline
  | blink
  | rapidBlink
  | reverse
  | conceal
  | strike
  | doubleUnderline
  | frame
  | encircle
  | overline
deriving DecidableEq

namespace Attribute

/-- The attribute that a word names, in full or in short. -/
def named? (word : String) : Option Attribute :=
  match word with
  | "bold" => some .bold
  | "b" => some .bold
  | "dim" => some .dim
  | "d" => some .dim
  | "italic" => some .italic
  | "i" => some .italic
  | "underline" => some .underline
  | "u" => some .underline
  | "blink" => some .blink
  | "blink2" => some .rapidBlink
  | "reverse" => some .reverse
  | "r" => some .reverse
  | "conceal" => some .conceal
  | "c" => some .conceal
  | "strike" => some .strike
  | "s" => some .strike
  | "underline2" => some .doubleUnderline
  | "uu" => some .doubleUnderline
  | "frame" => some .frame
  | "encircle" => some .encircle
  | "overline" => some .overline
  | "o" => some .overline
  | _ => none

/-- The attributes with their codes, in the order in which a terminal is
told them. -/
def codes : List (Attribute × String) :=
  [(.bold, "1"), (.dim, "2"), (.italic, "3"), (.underline, "4"), (.blink, "5"),
   (.rapidBlink, "6"), (.reverse, "7"), (.conceal, "8"), (.strike, "9"),
   (.doubleUnderline, "21"), (.frame, "51"), (.encircle, "52"), (.overline, "53")]

end Attribute

/-- The style of a piece of text. -/
structure Style where
  attributes : List Attribute
  colour : Option Colour
  /-- The colour behind the text. -/
  ground : Option Colour
deriving DecidableEq

namespace Style

/-- The style that changes nothing. -/
def plain : Style := ⟨[], none, none⟩

/-- The style with one attribute taken away. -/
def without (style : Style) (a : Attribute) : Style :=
  { style with attributes := style.attributes.filter (· != a) }

/-- The style with one attribute more. -/
def adding (style : Style) (a : Attribute) : Style :=
  { style with attributes := a :: (style.without a).attributes }

-- ================================================================= reading

/-- The style with what a row of words adds to it. -/
def ofWords (style : Style) : List String → Except StyleRefusal Style
  | [] => .ok style
  | word :: rest =>
      match Text.lower word, rest with
      | "on", [] => .error .unknown
      | "not", [] => .error .unknown
      | "link", [] => .error .unknown
      | "on", next :: rest =>
          match Colour.read next with
          | .ok colour => ofWords { style with ground := some colour } rest
          | .error e => .error e
      | "not", next :: rest =>
          match Attribute.named? next with
          | some a => ofWords (style.without a) rest
          | none => .error .unknown
      | "link", _ :: rest => ofWords style rest
      | name, rest =>
          match Attribute.named? name with
          | some a => ofWords (style.adding a) rest
          | none =>
              match Colour.read name with
              | .ok colour => ofWords { style with colour := some colour } rest
              | .error e => .error e

/-- The words of a text. -/
def words (s : String) : List String :=
  ((s.toList.splitOnP Text.isBlank).filter (!·.isEmpty)).map String.ofList

/-- The style that a name stands for. -/
def ofName (name : String) : Except StyleRefusal Style :=
  ofWords plain (words ((themeStyles.lookup name).getD name))

/-- The style that an object in the place of a name stands for. A name that
cannot be read stands for the style that changes nothing, like whatever
does not count as true. -/
def ofObject (x : Object) : Except Problem Style :=
  match x with
  | .text name =>
      match ofName name with
      | .ok style => .ok style
      | .error .unknown => .ok plain
      | .error (.number p) => .error p
  | x =>
      if !x.truthy then .ok plain
      else
        match x.unhashable? with
        | some cls => .error (.unhashable cls)
        | none => .error (.noMethod x.className "strip")

-- =================================================================== codes

/-- The codes of a style, in the order in which a terminal is told them. -/
def codes (style : Style) : List String :=
  ((Attribute.codes.filter fun entry => style.attributes.contains entry.1).map (·.2))
    ++ (style.colour.map (Colour.codes false)).getD []
    ++ (style.ground.map (Colour.codes true)).getD []

end Style

end CommandConsole.Display
