/-
Parsers: how tokens are converted for parameters.

A caller may register a parser for a type, and with it a zero value. The
first registration of a type stands. A token is converted along the first
of these routes that is open:

- `null` or `~`, if the argument may be absent or the type has no zero
  value: the absent object;
- `default`, if the argument may be absent: the absent object;
- `default` or `~`, if the type has a zero value: that value;
- the parser of the type;
- the conversion that the type itself brings.

The two words count in any case.
-/
import CommandConsole.Parameter
import CommandConsole.Ty.Conversion

namespace CommandConsole

/-- A registered parser, which makes a program of type `ρ` from a token. -/
structure ParserEntry (ρ : Type) where
  type : Ty
  parse : String → ρ
  /-- The zero value of the type, if one was given. -/
  default? : Option Object

/-- The registered parsers. -/
structure Parsers (ρ : Type) where
  entries : List (ParserEntry ρ)

/-- What is offered as a parser. -/
inductive ParserCandidate (ρ : Type) where
  | routine (parse : String → ρ)
  | object (x : Object)

/-- The route along which a token is converted. -/
inductive Route (ρ : Type) where
  /-- The absent object. -/
  | absent
  /-- The zero value of the type, or the type's own conversion. -/
  | convert (c : Conversion)
  /-- The parser of the type, to be called with the token. -/
  | parse (program : ρ)
  /-- There is none. -/
  | unknown

/-- The words for the absent object. -/
def nullWords : List String := ["null", "~"]

/-- The words for the zero value. -/
def defaultWords : List String := ["default", "~"]

namespace Parsers

variable {ρ : Type}

/-- No parsers. -/
def empty : Parsers ρ := ⟨[]⟩

/-- A type that can be looked up. -/
def key (type : Ty) : Except Problem Ty :=
  match type.unhashable? with
  | some cls => .error (.unhashable cls)
  | none => .ok type

/-- The entry of a type. -/
def entry? (ps : Parsers ρ) (type : Ty) : Option (ParserEntry ρ) :=
  ps.entries.find? fun e => e.type.same type

/-- The zero value that was registered for a type. -/
def default? (ps : Parsers ρ) (type : Ty) : Option Object :=
  (ps.entry? type).bind (·.default?)

/-- A type has a parser. -/
def contains (ps : Parsers ρ) (type : Ty) : Bool := (ps.entry? type).isSome

/-- A value type has a zero value: a number or an enumeration, or a type
that one was registered for. -/
def isValueType (ps : Parsers ρ) (type : Ty) : Bool :=
  (ps.default? type).isSome || type.isPrimitive || type.isEnumeration

/-- Some route converts tokens for a type. -/
def supports (ps : Parsers ρ) (type : Ty) : Bool :=
  ps.contains type || type.isClass

/-- Registers a parser. Answers whether it was registered, and the
parsers. -/
def register (ps : Parsers ρ) (type : Ty) (candidate : ParserCandidate ρ)
    (default? : Option Object) : Except Problem (Bool × Parsers ρ) :=
  match candidate with
  | .object _ => .error .parserNotCallable
  | .routine parse => do
      let type ← key type
      if ps.contains type then return (false, ps)
      else return (true, ⟨ps.entries ++ [⟨type, parse, default?⟩]⟩)

/-- The zero value of a type. -/
def zero (ps : Parsers ρ) (type : Ty) : Conversion :=
  match key type with
  | .error p => .problem p
  | .ok type =>
      match ps.default? type with
      | some x => .object x
      | none => type.blank

/-- The route along which a token is converted once the words for an
argument that may be absent are excluded. -/
def routeByType (ps : Parsers ρ) (token : String) (type : Ty) : Route ρ :=
  if ps.isValueType type && defaultWords.contains (Text.lower token) then
    .convert (ps.zero type)
  else
    match ps.entry? type with
    | some e => .parse (e.parse token)
    | none => if type.isClass then .convert (type.convert token) else .unknown

/-- The route along which a token is converted for a parameter. -/
def route (ps : Parsers ρ) (token : String) (p : Parameter) :
    Except Problem (Route ρ) :=
  let lowered := Text.lower token
  if p.nullable then
    if nullWords.contains lowered || lowered == "default" then .ok .absent
    else (key p.type).map (ps.routeByType token)
  else do
    let type ← key p.type
    if !ps.isValueType type && nullWords.contains lowered then return .absent
    else return ps.routeByType token type

end Parsers

end CommandConsole
