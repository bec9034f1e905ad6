/-
Completions of a partial name.

Every identifier that starts with the partial name in lower case completes
it: names first, then aliases, both in the order of the commands. A
completion keeps what was typed and adds the rest of the identifier.
-/
import CommandConsole.Registry

namespace CommandConsole

/-- A completion of a partial name, with the command it leads to. -/
structure Completion where
  text : String
  command : Outline

namespace Completion

/-- An identifier starts with a partial name in lower case. -/
def starts (lowered identifier : String) : Bool :=
  lowered.toList.isPrefixOf identifier.toList

/-- What was typed, followed by the characters of an identifier that stand
after as many as were typed. -/
def extended (typed identifier : String) : String :=
  typed ++ String.ofList (identifier.toList.drop typed.toList.length)

/-- The completions that the names of some commands make. -/
def ofNames (typed : String) (outlines : List Outline) : List Completion :=
  (outlines.filter fun o => starts (Text.lower typed) o.name).map fun o =>
    ⟨extended typed o.name, o⟩

/-- The completions that the aliases of a command make. -/
def ofAliases (typed : String) (o : Outline) : List Completion :=
  (o.aliases.filter fun s => starts (Text.lower typed) s).map fun s =>
    ⟨extended typed s, o⟩

/-- The completions of a partial name among some commands. A blank one has
none. -/
def all (typed : String) (outlines : List Outline) : List Completion :=
  if Text.isBlankText typed then []
  else ofNames typed outlines ++ outlines.flatMap (ofAliases typed)

/-- The completions of the partial name that an operation was given. -/
def allOf (typed : Object) (outlines : List Outline) :
    Except Problem (List Completion) :=
  match typed with
  | .text s => .ok (all s outlines)
  | _ => .error .suggestionNotText

end Completion

end CommandConsole
