/-
Converting a token to an object of a class, and the object that a class
makes of nothing.

A class of the host makes its objects itself; all that is known here is
that it is asked to.
-/
import CommandConsole.Number.Fraction
import CommandConsole.Object.Items
import CommandConsole.Text.Casing
import CommandConsole.Ty.Basic

namespace CommandConsole

open Number

/-- What comes of converting a token, or nothing, to an object. -/
inductive Conversion where
  /-- The object is known. -/
  | object (x : Object)
  /-- A class of the host has to make the object of some arguments. -/
  | host (home name : String) (arguments : List Object)
  | problem (p : Problem)

namespace Conversion

/-- A result as a conversion. -/
def ofExcept : Except Problem Object → Conversion
  | .ok x => .object x
  | .error p => .problem p

end Conversion

namespace Token

/-- The truth value that a token spells. -/
def toBool (token : String) : Except Problem Object :=
  match Text.lower (Text.trim token) with
  | "true" => .ok (.bool true)
  | "1" => .ok (.bool true)
  | "false" => .ok (.bool false)
  | "0" => .ok (.bool false)
  | _ => .error (.notBoolean token)

/-- The whole number that a token spells. -/
def toInteger (token : String) : Except Problem Int :=
  match readInteger token with
  | .ok n => .ok n
  | .error .malformed => .error (.notInteger 10 token)
  | .error (.tooLong digits) => .error (.integerTooLong digits)

/-- The complex number that a token spells. -/
def toComplex (token : String) : Except Problem Object :=
  match readComplex token with
  | .ok z => .ok (.complex z.1 z.2)
  | .error .malformed => .error .notComplex
  | .error .misgrouped => .error (.misgroupedComplex token)

/-- The floating-point number that a token spells. -/
def toFloat (token : String) : Except Problem Object :=
  match readReal token with
  | some x => .ok (.float x)
  | none => .error (.notReal token)

/-- The decimal number that a token spells. -/
def toDecimal (token : String) : Except Problem Object :=
  match Decimal.read token with
  | .ok x => .ok (.decimal x)
  | .error .malformed => .error .notDecimal
  | .error .outOfRange => .error .decimalOutOfRange

/-- The fraction that a token spells. -/
def toFraction (token : String) : Except Problem Object :=
  match readFraction token with
  | .ok q => .ok (.fraction q)
  | .error .malformed => .error (.notFraction token)
  | .error (.tooLong digits) => .error (.integerTooLong digits)
  | .error (.zeroDenominator numerator) => .error (.zeroDenominator numerator)
  | .error (.lettersAfterPoint letters) => .error (.notInteger 10 letters)

/-- The member of an enumeration that a token spells: by a name in any
case, the first one in the order of definition, or by a whole number. -/
def toMember (e : Enumeration) (token : String) : Except Problem Object :=
  match e.named.find? fun entry => Text.lower entry.1 == Text.lower token with
  | some entry => .ok entry.2
  | none =>
      match readInteger token with
      | .ok n => e.ofNumber n
      | .error _ => .error (.notMember token e.name)

/-- The classes of what can be raised that take more than a text, with how
many arguments they take. -/
def demandingErrors : List (String × String) :=
  let group := "BaseExceptionGroup.__new__() takes exactly 2 arguments"
  [("UnicodeDecodeError", "function takes exactly 5 arguments"),
   ("UnicodeEncodeError", "function takes exactly 5 arguments"),
   ("UnicodeTranslateError", "function takes exactly 4 arguments"),
   ("BaseExceptionGroup", group), ("ExceptionGroup", group)]

/-- What can be raised, made of a token by a class with a name. -/
def toError (name token : String) : Except Problem Object :=
  match demandingErrors.lookup name with
  | some demand => .error (.told .typeError (demand ++ " (1 given)"))
  | none => .ok (.sealed name none (name ++ "(" ++ Text.quoted token ++ ")") token)

/-- An object of which no more is told than its class and how it is
written. -/
def sealedAs (cls written : String) : Except Problem Object :=
  .ok (.sealed cls none written written)

/-- The object that a token makes for a built-in class by its name. -/
def toOther (name token : String) : Except Problem Object :=
  let refused (message : String) := .error (.told .typeError message)
  let quoted := Text.quoted token
  match name with
  | "type" => .ok (.sealed "type" (some "str") "<class 'str'>" "<class 'str'>")
  | "range" => refused "'str' object cannot be interpreted as an integer"
  | "bytearray" => .error .bytesWithoutEncoding
  | "memoryview" => refused "memoryview: a bytes-like object is required, not 'str'"
  | "slice" => sealedAs name ("slice(None, " ++ quoted ++ ", None)")
  | "map" => refused "map() must have at least two arguments."
  | "filter" => refused "filter expected 2 arguments, got 1"
  | "super" => refused "super() argument 1 must be a type, not str"
  | "classmethod" => sealedAs name ("<classmethod(" ++ quoted ++ ")>")
  | "staticmethod" => sealedAs name ("<staticmethod(" ++ quoted ++ ")>")
  | name => sealedAs name ("<" ++ name ++ " object at 0x>")

/-- The object of a built-in class that a token makes. -/
def toBuiltin (c : BuiltinClass) (token : String) : Except Problem Object :=
  let letters := Object.characters token
  match c with
  | .list => .ok (.list letters)
  | .tuple => .ok (.tuple letters)
  | .dict => if token = "" then .ok (.dict []) else .error (.notPair 0 1)
  | .set => .ok (.set (Object.distinct letters))
  | .frozenSet => .ok (.frozenSet (Object.distinct letters))
  | .bytes => .error .bytesWithoutEncoding
  | .object => .error .objectTakesNothing
  | .error name => toError name token
  | .other name => toOther name token

end Token

namespace Ty

/-- The object of a type that a token makes. A type that is no class makes
none. -/
def convert (type : Ty) (token : String) : Conversion :=
  match type with
  | .bool => .ofExcept (Token.toBool token)
  | .int => .ofExcept ((Token.toInteger token).map .int)
  | .float => .ofExcept (Token.toFloat token)
  | .complex => .ofExcept (Token.toComplex token)
  | .decimal => .ofExcept (Token.toDecimal token)
  | .fraction => .ofExcept (Token.toFraction token)
  | .text => .object (.text token)
  | .enumeration e => .ofExcept (Token.toMember e token)
  | .builtin c => .ofExcept (Token.toBuiltin c token)
  | .host home name => .host home name [.text token]
  | type => .problem (.notCallable type.label)

/-- The object of a built-in class that nothing makes. -/
def emptyObject : BuiltinClass → Object
  | .list => .list []
  | .tuple => .tuple []
  | .dict => .dict []
  | .set => .set []
  | .frozenSet => .frozenSet []
  | .bytes => .bytes []
  | .object => .record "object" []
  | .error name => .sealed name none (name ++ "()") ""
  | .other name => .record name []

/-- The object of a type that nothing makes: a zero, an empty container, or
what the type itself has to say about it. -/
def blank : Ty → Conversion
  | .bool => .object (.bool false)
  | .int => .object (.int 0)
  | .float => .object (.float .zero)
  | .complex => .object (.complex .zero .zero)
  | .decimal => .object (.decimal .zero)
  | .fraction => .object (.fraction 0)
  | .text => .object (.text "")
  | .enumeration e => .ofExcept e.zero
  | .builtin c => .object (emptyObject c)
  | .host home name => .host home name []
  | .absent => .object .none
  | .generic origin _ => .object (emptyObject origin)
  | .unpacked origin _ => .object (emptyObject origin)
  | .listOf _ => .object (.list [])
  | .annotated base _ => base.blank
  | .anything => .problem (.notInstantiable "Any cannot be instantiated")
  | .literal _ => .problem (.notInstantiable "Cannot instantiate typing.Literal")
  | .union withBars _ =>
      .problem (if withBars then .notCallable "types.UnionType"
        else .notInstantiable "Cannot instantiate typing.Union")
  | .reference _ => .problem (.notCallable "ForwardRef")
  | .callable _ _ => .problem .abstractCallable
  | .variable _ => .problem (.notCallable "TypeVar")
  | .value x => .problem (.notCallable x.className)

end Ty

end CommandConsole
