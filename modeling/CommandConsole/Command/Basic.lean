/-
Commands.

A command has a canonical name and a set of canonical aliases. Both are
its identifiers: what it answers to. It has parameters, a routine that
receives an argument for each of them, and perhaps another routine that
runs when no argument is given.
-/
import CommandConsole.Command.Routine
import CommandConsole.Object.Hash
import CommandConsole.Object.Items
import CommandConsole.Parameter
import CommandConsole.Text.Casing

namespace CommandConsole

open Display

/-- What a command shows of itself. -/
structure Outline where
  name : String
  /-- The aliases in ascending order. -/
  aliases : List String
  descr : String
  parameters : List Parameter
  /-- The command was registered by a caller, not by the console. -/
  custom : Bool

namespace Outline

/-- A text in its place in a row of texts in ascending order, in which no
text stands twice. -/
def insertText (s : String) : List String → List String
  | [] => [s]
  | t :: rest =>
      if s = t then t :: rest
      else if s < t then s :: t :: rest
      else t :: insertText s rest

/-- Texts in ascending order, each of them once. -/
def sortTexts (texts : List String) : List String := texts.foldr insertText []

/-- The aliases that some spellings give a command of the given name: their
canonical forms, but for empty ones and for the name itself. -/
def aliasSet (name : String) (spellings : List String) : List String :=
  sortTexts ((spellings.map Text.canonical).filter fun s => s != "" && s != name)

/-- What a command answers to. -/
def identifiers (o : Outline) : List String := insertText o.name o.aliases

/-- The command was registered by the console itself. -/
def builtin (o : Outline) : Bool := !o.custom

/-- One of some spellings is an alias of the command. -/
def hasAlias (o : Outline) (spellings : List String) : Bool :=
  spellings.any fun s => s != "" && o.aliases.contains (Text.canonical s)

/-- One of some objects spells an alias of the command. What does not
count as true is passed over. -/
def hasAliasOf (o : Outline) : List Object → Except Problem Bool
  | [] => .ok false
  | x :: rest =>
      if !x.truthy then o.hasAliasOf rest
      else
        match x.asText "canonicalize()" with
        | .ok s => if o.hasAlias [s] then .ok true else o.hasAliasOf rest
        | .error p => .error p

/-- How a command is used: its name and the usage of its parameters. -/
def usage (o : Outline) : String :=
  " ".intercalate (o.name :: o.parameters.map Parameter.usage)

/-- The usage of the parameters after the first `count` ones. -/
def remainingUsage (o : Outline) (count : Nat) : String :=
  " ".intercalate ((o.parameters.drop count).map Parameter.usage)

/-- The usage of a command with its parts in styles of their own. -/
def styled (o : Outline) : Styled :=
  .named o.name "bold" :: o.parameters.flatMap fun p => .bare " " :: p.styled

/-- A set of texts as it is written in code. -/
def writtenSet (texts : List String) : String :=
  (Object.frozenSet (texts.map .text)).written

/-- A command as a descriptor. -/
def descriptor (o : Outline) : Descriptor :=
  ⟨"command",
    [("name", Text.quoted o.name), ("aliases", writtenSet o.aliases),
     ("descr", Text.quoted o.descr),
     ("parameters", Object.parenthesized (o.parameters.map fun p => p.descriptor.written)),
     ("custom", (Object.bool o.custom).written)]⟩

/-- A command as a descriptor whose fields are the entries of a dictionary,
each under its name with an underscore in front. -/
def withEntries (o : Outline) (entries : List (Object × Object)) :
    Except Problem Descriptor := do
  let fields ← o.descriptor.fields.mapM fun (name, _) => do
    let key := "_" ++ name
    match entries.find? fun entry => entry.1.same (.text key) with
    | some entry => return (name, entry.2.frozen.written)
    | none => throw (.noAttribute "Command" key)
  return ⟨o.descriptor.label, fields⟩

/-- Setting an attribute of a command, and the command as a descriptor after
it. Only attributes with an underscore in front can be set. -/
def assign (o : Outline) (field : String) (x : Object) :
    Except Problem (Except Problem Descriptor) :=
  match field.toList with
  | '_' :: name => do
      Descriptor.checkAssigned "Command" field x
      if field = "__dict__" then
        match x with
        | .dict entries => return o.withEntries entries
        | _ => return .ok o.descriptor
      else if field = "__rich_repr__" then return .error (.notCallable x.className)
      else return .ok (o.descriptor.withField (String.ofList name) x.frozen.written)
  | _ => .error (.immutable "command")

end Outline

/-- A command whose routines make programs of type `ρ`. -/
structure Command (ρ : Type) where
  outline : Outline
  /-- The routine that receives the arguments. -/
  callback : List Object → ρ
  /-- The routine that runs when no argument is given. -/
  default? : Option (List Object → ρ)

-- ============================================================ construction

/-- What stands in the place of the parameters of a command. -/
inductive ParameterItem where
  | parameter (p : Parameter)
  | object (x : Object)

/-- Two objects are the same parameter. What is no parameter is none. -/
def ParameterItem.same : ParameterItem → ParameterItem → Bool
  | .parameter p, .parameter q => p.same q
  | .object x, .object y => x.same y
  | _, _ => false

/-- The class of the object that keeps an item from being a key. -/
def ParameterItem.unhashable? : ParameterItem → Option String
  | .parameter p => p.type.unhashable?
  | .object x => x.unhashable?

/-- Two types are told to be the same key at first. -/
def Ty.sameHash : Ty → Ty → Bool
  | .value x, .value y => x.sameHash y
  | a, b => a.same b

/-- Two objects are told to be the same key at first. -/
def ParameterItem.sameHash : ParameterItem → ParameterItem → Bool
  | .parameter p, .parameter q => { p with type := q.type }.same q && p.type.sameHash q.type
  | .object x, .object y => x.sameHash y
  | _, _ => false

/-- Two objects can be keys, and they are told to be the same one at
first. -/
def ParameterItem.sameKey (a b : ParameterItem) : Except Problem Bool :=
  match a.unhashable?, b.unhashable? with
  | some cls, _ => .error (.unhashable cls)
  | none, some cls => .error (.unhashable cls)
  | none, none => .ok (a.sameHash b)

/-- What a command is made from. -/
structure CommandDraft (ρ : Type) where
  name : Object
  callback : Callee ρ
  aliases : Object
  descr : Object
  /-- A row of parameters, or an object in its place. -/
  parameters : Except Object (List ParameterItem)
  default? : Option (Callee ρ)

namespace Command

/-- The spellings of aliases that an object holds: a text holds them with
commas in between. -/
def aliasSpellings (x : Object) : Except Problem (List String) :=
  match x with
  | .text s => .ok ((s.toList.splitOn ',').map String.ofList)
  | x =>
      match x.items? with
      | none => .error .aliasesNotTexts
      | some items =>
          items.mapM fun item =>
            match item with
            | .text s => .ok s
            | _ => .error .aliasNotText

/-- The parameters in a row of objects, if it holds nothing else. -/
def parametersIn (row : Except Object (List ParameterItem)) :
    Except Problem (List Parameter) :=
  match row with
  | .error x =>
      match x.items? with
      | none => .error .parametersNotIterable
      | some [] => .ok []
      | some _ => .error .parametersNotParameters
  | .ok items =>
      items.mapM fun item =>
        match item with
        | .parameter p => .ok p
        | .object _ => .error .parametersNotParameters

/-- A routine for a role that passes it `count` arguments. -/
def routineFor {ρ : Type} (role : Role) (count : Nat) (callee : Callee ρ) :
    Except Problem (List Object → ρ) :=
  match callee with
  | .object _ => .error (.routineNotCallable role)
  | .routine r =>
      if r.accepts count then .ok r.run else .error (.routineArity role count)

/-- The default routine of a draft, which only a command with parameters
has. -/
def defaultFor {ρ : Type} (parameters : List Parameter) (default? : Option (Callee ρ)) :
    Except Problem (Option (List Object → ρ)) :=
  match default? with
  | none => .ok none
  | some callee =>
      if parameters.isEmpty then .error .defaultWithoutParameters
      else (routineFor .default 0 callee).map some

/-- The command that a draft describes. -/
def ofDraft {ρ : Type} (draft : CommandDraft ρ) : Except Problem (Command ρ) := do
  let .text name := draft.name | throw (.fieldNotText "command" .name)
  let .text descr := draft.descr | throw (.fieldNotText "command" .descr)
  let parameters ← parametersIn draft.parameters
  let default? ← defaultFor parameters draft.default?
  let spellings ← aliasSpellings draft.aliases
  let callback ← routineFor .callback parameters.length draft.callback
  let canonical := Text.canonical name
  return {
    outline := {
      name := canonical
      aliases := Outline.aliasSet canonical spellings
      descr := Text.trim descr
      parameters := parameters
      custom := false }
    callback := callback
    default? := default? }

end Command

end CommandConsole
