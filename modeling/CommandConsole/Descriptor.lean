/-
Descriptors: objects that show their fields by name and let nobody change
them.

The label of a descriptor is the name of its class in small letters, with
a hyphen before each capital letter but the first character.
-/
import CommandConsole.Object.Places
import CommandConsole.Problem
import CommandConsole.Text.Casing

namespace CommandConsole

/-- A capital letter of ASCII. -/
def isCapital (c : Char) : Bool := 'A'.toNat ≤ c.toNat && c.toNat ≤ 'Z'.toNat

/-- A name with a hyphen before each of its capital letters. -/
def hyphenated (cs : List Char) : List Char :=
  cs.flatMap fun c => if isCapital c then ['-', c] else [c]

/-- The label of a class of descriptors. -/
def descriptorLabel (name : String) : String :=
  match name.toList with
  | [] => ""
  | first :: rest => Text.lower (String.ofList (first :: hyphenated rest))

/-- The fields of a descriptor as they are written in code. -/
structure Descriptor where
  label : String
  fields : List (String × String)

namespace Descriptor

/-- A descriptor as it is written in code. -/
def written (d : Descriptor) : String :=
  d.label ++ "(" ++
    ", ".intercalate (d.fields.map fun field => field.1 ++ "=" ++ field.2) ++ ")"

/-- The same descriptor with another value in one of its fields, if it has
that field. -/
def withField (d : Descriptor) (name written : String) : Descriptor :=
  { d with fields := d.fields.map fun field =>
      if field.1 = name then (name, written) else field }

/-- What an object of a class keeps and what it is cannot be set to any
object, and what refers to it from outside cannot be set at all. -/
def checkAssigned (cls field : String) (x : Object) : Except Problem Unit :=
  match field, x with
  | "__dict__", .dict _ => .ok ()
  | "__dict__", x =>
      .error (.told .typeError
        ("__dict__ must be set to a dictionary, not a '" ++ Problem.longName x.className ++ "'"))
  | "__class__", x =>
      .error (.told .typeError
        ("__class__ must be set to a class, not '" ++ Problem.longName x.className
          ++ "' object"))
  | "__weakref__", _ =>
      .error (.told .attributeError
        ("attribute '__weakref__' of '" ++ Problem.operandName cls
          ++ "' objects is not writable"))
  | _, _ => .ok ()

end Descriptor

-- ====================================================== descriptor classes

/-- A class of descriptors: the fields it publishes, and those it shows if
these are others. -/
structure DescriptorClass where
  name : String
  fields : List String
  displayed? : Option (List String)
  /-- The class brings a written form of its own. -/
  ownForm : Bool

namespace DescriptorClass

/-- The fields that a descriptor of the class shows. -/
def displayed (c : DescriptorClass) : List String :=
  if c.ownForm then ["own"] else c.displayed?.getD c.fields

/-- What a descriptor of the class has beside its fields. -/
def attribute? (c : DescriptorClass) (kept : List (String × Object)) :
    String → Option Object
  | "__typename__" => some (.text (descriptorLabel c.name))
  | "__introspectable__" => some (.tuple (c.fields.map .text))
  | "__displayable__" => c.displayed?.map fun fields => .tuple (fields.map .text)
  | "__dict__" => some (.dict (kept.map fun (name, x) => (.text ("_" ++ name), x)))
  | "__doc__" => some .none
  | _ => none

/-- The object that a descriptor keeps under a name with an underscore in
front. -/
def kept? (kept : List (String × Object)) (name : String) : Option Object :=
  match name.toList with
  | '_' :: field => kept.lookup (String.ofList field)
  | _ => none

/-- The object that a descriptor shows under a name. It keeps the objects of
its fields under their names with an underscore in front, and gives them
away frozen. -/
def read (c : DescriptorClass) (kept : List (String × Object)) (name : String) :
    Except Problem Object :=
  if c.fields.contains name then
    match kept.lookup name with
    | some x => .ok x.frozen
    | none => .error (.noAttribute c.name ("_" ++ name))
  else
    match (kept? kept name).or (c.attribute? kept name) with
    | some x => .ok x
    | none => .error (.noAttribute c.name name)

/-- A descriptor of the class as it is written in code. -/
def written (c : DescriptorClass) (kept : List (String × Object)) :
    Except Problem String :=
  if c.ownForm then .ok "own"
  else do
    let fields ← c.displayed.mapM fun field => do
      return (field, (← c.read kept field).written)
    return (⟨descriptorLabel c.name, fields⟩ : Descriptor).written

/-- Setting a field of a descriptor of the class: those that it publishes
cannot be set. -/
def assign (c : DescriptorClass) (field : String) : Except Problem Unit :=
  if c.fields.contains field then .error (.noSetter c.name field)
  else Descriptor.checkAssigned c.name field (.int 1)

end DescriptorClass

end CommandConsole
