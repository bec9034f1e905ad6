/-
The attributes of types and of objects.

A class has the attributes that it defines, those of the classes it comes
from, and those that every class has for itself. A type with arguments has
the attributes of its class, and the operations of an object are the
attributes of its class.
-/
import CommandConsole.Expression.Documentation
import CommandConsole.Expression.Meaning

namespace CommandConsole.Expression

open BuiltinClass (ancestors parents)
open Meaning (text named flag number absent)

/-- The name of a class without its module. -/
def plainName (cls : String) : String :=
  String.ofList (cls.toList.reverse.takeWhile (· ≠ '.')).reverse

/-- The class among some that defines an attribute, and what the attribute
is. -/
def definition? (classes : List String) (name : String) : Option (String × AttributeKind) :=
  classes.findSome? fun cls =>
    (AttributeRow.all.find? fun row =>
      row.cls = cls && row.names.contains name).map fun row => (cls, row.kind)

/-- The names of the attributes of an object of a class, in their order. -/
def attributeNames (cls : String) : List String :=
  let rows := AttributeRow.all.filter fun row => (ancestors cls).contains row.cls
  let names :=
    (rows.flatMap AttributeRow.names ++ ["__doc__"]).mergeSort (fun s t => decide (s ≤ t))
  names.eraseReps

/-- The built-in class with a name. -/
def classNamed (name : String) : Meaning :=
  .type <|
    match name with
    | "NoneType" => .absent
    | "types.GenericAlias" => .host "types" "GenericAlias"
    | "types.UnionType" => .host "types" "UnionType"
    | name => (Ty.named? name).getD (.builtin (.other name))

/-- The text that tells something, or the absent object. -/
def textOrAbsent (s? : Option String) : Meaning := (s?.map text).getD absent

/-- A row of classes. -/
def classRow (names : List String) : Meaning := .tuple (names.map classNamed)

-- ================================================================= classes

/-- The module of a class. -/
def homeOf (t : Ty) : String :=
  match t with
  | .host home _ => home
  | _ => "builtins"

/-- What a class tells about itself, by the name of the attribute. -/
def classFact? (t : Ty) (name : String) : Option Meaning :=
  let cls := (t.name?).getD ""
  match name with
  | "__name__" | "__qualname__" => some (text cls)
  | "__module__" => some (text (homeOf t))
  | "__class__" => some (classNamed "type")
  | "__mro__" => some (classRow (ancestors cls))
  | "__bases__" => some (classRow (parents cls))
  | "__base__" => some (((parents cls).head?.map classNamed).getD absent)
  | "__doc__" => some (textOrAbsent (Documentation.classes.lookup cls))
  | "__text_signature__" => some (textOrAbsent (Documentation.classSignatures.lookup cls))
  | "__dict__" => some (.object (named "mappingproxy" none "mappingproxy(\x7b...\x7d)"))
  | _ => none

/-- An attribute of a class. -/
def ofClass (t : Ty) (name : String) : Except Problem Meaning :=
  let cls := (t.name?).getD ""
  let onClass? := (definition? (ancestors cls) name).filter fun found =>
    cls ≠ "type" || found.2 ≠ .computed && found.2 ≠ .stored
  match classFact? t name, onClass?, definition? ["type", "object"] name with
  | some found, _, _ => .ok found
  | none, some (_, .withheld), _ => .ok absent
  | none, some (owner, .ofClass), _ => .ok (.method (.type t) owner name .ofClass)
  | none, some (owner, kind), _ => .ok (.descriptor owner name kind)
  | none, none, some (owner, .method) => .ok (.method (.type t) owner name .method)
  | none, none, some (owner, .slot) => .ok (.method (.type t) owner name .slot)
  | none, none, _ =>
      if name = "__abstractmethods__" then .error (.told .attributeError name)
      else
        .error (.told .attributeError
          ("type object '" ++ Problem.shortName cls ++ "' has no attribute '" ++ name ++ "'"))

/-- An attribute of a type with arguments. -/
def ofGeneric (owner : Meaning) (origin : BuiltinClass) (arguments : List Ty)
    (unpacked : Bool) (name : String) : Except Problem Meaning :=
  let argument (t : Ty) : Meaning :=
    match t with
    | .value x => .ofObject x
    | t => .type t
  match name with
  | "__origin__" => .ok (.type (.builtin origin))
  | "__args__" => .ok (.tuple (arguments.map argument))
  | "__parameters__" => .ok (.tuple [])
  | "__unpacked__" => .ok (flag unpacked)
  | "__typing_unpacked_tuple_args__" =>
      .ok (if unpacked && origin = .tuple then .tuple (arguments.map argument) else absent)
  | "__class__" => .ok (.type (.host "types" "GenericAlias"))
  | "__mro_entries__" => .ok (.method owner "GenericAlias" name .method)
  | "__copy__" | "__deepcopy__" => .error (.noAttribute "types.GenericAlias" name)
  | name => ofClass (.builtin origin) name

-- ================================================================= objects

/-- The parts of a number by their names. -/
def numberPart? (x : Object) (name : String) : Option Object :=
  match x, name with
  | .float y, "real" => some (.float y)
  | .float _, "imag" => some (.float .zero)
  | .complex re _, "real" => some (.float re)
  | .complex _ im, "imag" => some (.float im)
  | x, name =>
      match x.integer?, name with
      | some n, "real" => some (.int n)
      | some n, "numerator" => some (.int n)
      | some _, "imag" => some (.int 0)
      | some _, "denominator" => some (.int 1)
      | _, _ => none

/-- What a routine tells about itself, by the name of the attribute. -/
def routineFact? (x : Object) (name : String) : Option Meaning :=
  match x with
  | .sealed "builtin_function_or_method" (some label) _ _ =>
      match name with
      | "__name__" | "__qualname__" => some (text label)
      | "__module__" => some (text "builtins")
      | "__self__" =>
          some (.object (named "module" (some "builtins") "<module 'builtins' (built-in)>"))
      | "__doc__" => some (textOrAbsent (Documentation.routines.lookup label))
      | "__text_signature__" =>
          some (textOrAbsent (Documentation.routineSignatures.lookup label))
      | _ => none
  | _ => none

/-- What an operation tells about itself, by the name of the attribute. -/
def operationFact? (m : Meaning) (name : String) : Option Meaning :=
  match m with
  | .method owner home label kind =>
      let cls :=
        match owner with
        | .type t => (t.name?).getD ""
        | m => plainName m.className
      match name with
      | "__name__" => some (text label)
      | "__qualname__" => some (text (cls ++ "." ++ label))
      | "__self__" => some owner
      | "__objclass__" => if kind = .slot then some (classNamed home) else none
      | "__module__" => some absent
      | _ => none
  | .descriptor cls label _ =>
      match name with
      | "__name__" => some (text label)
      | "__qualname__" => some (text (cls ++ "." ++ label))
      | "__objclass__" => some (classNamed cls)
      | _ => none
  | _ => none

/-- The defaults of the formals of a function that meet a condition. -/
def defaultsOf (formals : List (Taking × String × Option Meaning)) (isMeant : Taking → Bool) :
    List (String × Meaning) :=
  formals.filterMap fun (taking, key, default?) =>
    if isMeant taking then default?.map fun m => (key, m) else none

/-- The code of a function with a label. -/
def codeLabelled (label : String) : Meaning :=
  .object (named "code" none ("<code object " ++ label ++ " at 0x, file \"<string>\", line 1>"))

/-- What a function tells about itself, by the name of the attribute. -/
def functionFact? (m : Meaning) (name : String) : Option Meaning :=
  match m with
  | .function _ label _ formals _ =>
      let isNamed (taking : Taking) : Bool := taking = .named
      let byPlace := defaultsOf formals (!isNamed ·)
      let byName := defaultsOf formals isNamed
      match name with
      | "__name__" => some (text "<lambda>")
      | "__qualname__" => some (text label)
      | "__doc__" => some absent
      | "__defaults__" => some (if byPlace.isEmpty then absent else .tuple (byPlace.map (·.2)))
      | "__kwdefaults__" =>
          some (if byName.isEmpty then absent else .dict (byName.map fun (key, m) => (text key, m)))
      | "__annotations__" | "__dict__" => some (.dict [])
      | "__closure__" => some absent
      | "__code__" => some (codeLabelled "<lambda>")
      | "__builtins__" => some (.dict [])
      | _ => none
  | _ => none

/-- What an object that walks tells about itself, by the name of the
attribute. -/
def walkFact? (m : Meaning) (name : String) : Option Meaning :=
  match m with
  | .walk _ "generator" label? _ =>
      let short? := label?.map fun s =>
        String.ofList (s.toList.reverse.takeWhile (· ≠ '.')).reverse
      match name with
      | "__name__" => short?.map text
      | "__qualname__" => label?.map text
      | "gi_code" => short?.map codeLabelled
      | "gi_frame" => short?.map fun s =>
          .object (named "frame" none ("<frame at 0x, file '<string>', line 1, code " ++ s ++ ">"))
      | "gi_running" | "gi_suspended" => some (flag false)
      | "gi_yieldfrom" => some absent
      | _ => none
  | _ => none

/-- What a window on bytes tells about itself, by the name of the
attribute. -/
def windowFact? (m : Meaning) (name : String) : Option Meaning :=
  match m with
  | .buffer "memoryview" row =>
      match name with
      | "nbytes" => some (number row.length)
      | "shape" => some (.tuple [number row.length])
      | "strides" => some (.tuple [number 1])
      | "suboffsets" => some (.tuple [])
      | "itemsize" | "ndim" => some (number 1)
      | "format" => some (text "B")
      | "readonly" | "c_contiguous" | "f_contiguous" | "contiguous" => some (flag true)
      | "obj" => some (.object (.bytes row))
      | _ => none
  | _ => none

/-- What an object keeps under a name. -/
def part? (m : Meaning) (name : String) : Option Meaning :=
  match m, name with
  | .object (.range first _ _), "start" => some (number first)
  | .object (.range _ last _), "stop" => some (number last)
  | .object (.range _ _ pace), "step" => some (number pace)
  | .slice low _ _, "start" => some low
  | .slice _ high _, "stop" => some high
  | .slice _ _ step, "step" => some step
  | .raised _ _ arguments _, "args" => some (.tuple arguments)
  | .raised _ _ _ _, "__dict__" => some (.dict [])
  | .raised _ _ _ fields, key => fields.lookup key
  | .lone _ _ fields, key => fields.lookup key
  | .view _ whole, "mapping" =>
      whole.entries?.map fun entries => .object (.view (Meaning.toEntries entries))
  | .object x, key => ((numberPart? x key).map .ofObject).or (routineFact? x key)
  | m, key =>
      ((operationFact? m key).or (functionFact? m key)).or
        ((walkFact? m key).or (windowFact? m key))

/-- The class of what an expression stands for. -/
def classOf (m : Meaning) : Ty :=
  match m with
  | .type t =>
      if t.isClass then .builtin (.other "type")
      else (Ty.ofObject? t.toObject).getD (.builtin .object)
  | .lone _ x _ => (Ty.ofObject? x).getD (.builtin .object)
  | .object x => (Ty.ofObject? x).getD (.builtin .object)
  | m => (Ty.named? m.className).getD ((Ty.ofObject? m.toObject).getD (.builtin .object))

/-- An attribute of an object, which `owner` stands for. -/
def ofInstance (owner m : Meaning) (name : String) : Except Problem Meaning :=
  let cls := m.className
  match part? m name, name, definition? (ancestors (plainName cls)) name with
  | some found, _, _ => .ok found
  | none, "__class__", _ => .ok (.type (classOf m))
  | none, "__doc__", _ => .ok (textOrAbsent (Documentation.classes.lookup (plainName cls)))
  | none, _, some (_, .withheld) => .ok absent
  | none, _, some (_, .computed) | none, _, some (_, .stored) => .ok absent
  | none, _, some (home, .ofClass) => .ok (.method (.type (classOf m)) home name .ofClass)
  | none, _, some (home, kind) => .ok (.method owner home name kind)
  | none, _, none => .error (.noAttribute cls name)

/-- An attribute that the classes behind one of the classes of an object
define. -/
def ofSuper (owner m : Meaning) (fields : List (String × Meaning)) (name : String) :
    Except Problem Meaning :=
  match fields.lookup name, fields.lookup "__self__", fields.lookup "__self_class__",
      fields.lookup "__thisclass__" with
  | none, some self, some (.type own), some (.type t) =>
      let classes := (ancestors ((own.name?).getD "")).dropWhile (some · ≠ t.name?)
      match definition? (classes.drop 1) name with
      | some (home, .method) => .ok (.method self home name .method)
      | some (home, .slot) => .ok (.method self home name .slot)
      | some (home, .ofClass) => .ok (.method (.type own) home name .ofClass)
      | some (_, .withheld) => .ok absent
      | some (_, .computed) | some (_, .stored) =>
          match part? self name with
          | some found => .ok found
          | none => ofInstance owner m name
      | none => ofInstance owner m name
  | _, _, _, _ => ofInstance owner m name

/-- An attribute of what an expression stands for, where `m` is in the cell
that `owner` is. -/
def attributeOf (owner m : Meaning) (name : String) : Except Problem Meaning :=
  match m with
  | .lone _ (.sealed "super" _ _ _) fields => ofSuper owner m fields name
  | .lone _ (.sealed "method" _ _ _) _ =>
      match ofInstance owner m name with
      | .error (.noAttribute _ _) => .error (.noAttribute "function" name)
      | result => result
  | .type (.generic origin arguments) => ofGeneric owner origin arguments false name
  | .type (.unpacked origin arguments) => ofGeneric owner origin arguments true name
  | .type (.union withBars members) =>
      match name with
      | "__args__" => .ok (.tuple (members.map .type))
      | "__parameters__" => .ok (.tuple [])
      | name => ofInstance owner (.type (.union withBars members)) name
  | .type t => if t.isClass then ofClass t name else ofInstance owner (.type t) name
  | m => ofInstance owner m name

end CommandConsole.Expression
