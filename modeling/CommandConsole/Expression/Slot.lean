/-
The operations that operators and built-in routines ask for, called by their
names.

An operation of a class takes operands of some classes only, and tells that
it is not defined for others.
-/
import CommandConsole.Expression.Construction
import CommandConsole.Expression.Directive
import CommandConsole.Expression.Measure
import CommandConsole.Expression.Rounding
import CommandConsole.Expression.TextOperation

namespace CommandConsole.Expression

-- =============================================================== operators

/-- The operator that an operation is for, and whether its object is the
second operand. -/
def operatorOf? (key : String) : Option (Operator × Bool) :=
  match key with
  | "__add__" => some (.add, false)
  | "__radd__" => some (.add, true)
  | "__sub__" => some (.subtract, false)
  | "__rsub__" => some (.subtract, true)
  | "__mul__" => some (.multiply, false)
  | "__rmul__" => some (.multiply, true)
  | "__truediv__" => some (.divide, false)
  | "__rtruediv__" => some (.divide, true)
  | "__floordiv__" => some (.floorDivide, false)
  | "__rfloordiv__" => some (.floorDivide, true)
  | "__mod__" => some (.remainder, false)
  | "__rmod__" => some (.remainder, true)
  | "__lshift__" => some (.shiftLeft, false)
  | "__rlshift__" => some (.shiftLeft, true)
  | "__rshift__" => some (.shiftRight, false)
  | "__rrshift__" => some (.shiftRight, true)
  | "__and__" => some (.both, false)
  | "__rand__" => some (.both, true)
  | "__or__" => some (.either, false)
  | "__ror__" => some (.either, true)
  | "__xor__" => some (.oneOf, false)
  | "__rxor__" => some (.oneOf, true)
  | _ => none

/-- The comparison that an operation is for. -/
def comparatorOf? (key : String) : Option Comparator :=
  match key with
  | "__eq__" => some .equal
  | "__ne__" => some .unequal
  | "__lt__" => some (.relation .less)
  | "__le__" => some (.relation .lessOrEqual)
  | "__gt__" => some (.relation .greater)
  | "__ge__" => some (.relation .greaterOrEqual)
  | _ => none

/-- An object is one of some classes. -/
def isOneOf (classes : List String) (m : Meaning) : Bool := classes.contains m.className

/-- The classes of rows. -/
def rowClasses : List String := ["str", "bytes", "bytearray", "list", "tuple"]

/-- An operation of a class has a result for an operand. -/
def takesOperand (cls : String) (m : Meaning) : Bool :=
  match cls with
  | "int" | "bool" => m.integer?.isSome
  | "float" => m.integer?.isSome || m.className = "float"
  | "complex" => m.toObject.toComplex?.isSome
  | "set" | "frozenset" => isOneOf ["set", "frozenset"] m
  | "dict" => m.className = "dict"
  | "type" | "UnionType" | "GenericAlias" => (unitable? m).isSome
  | "dict_keys" | "dict_items" => true
  | _ => false

/-- An operation of an operator between an object and another one. -/
def operatorSlot (cls : String) (op : Operator) (isSecond : Bool) (x other : Meaning) :
    Except Problem Meaning := do
  if rowClasses.contains cls then
    match op with
    | .multiply =>
        let _ ← wholeNumber other
        operate op x other
    | .remainder =>
        match if isSecond then (other, x) else (x, other) with
        | (.object (.text s), m) => if cls = "str" then interpolate s m else return .notImplemented
        | (.object (.bytes row), m) =>
            if cls = "bytes" then return .object (.bytes (← interpolateBytes row m))
            else return .notImplemented
        | (.buffer "bytearray" row, m) =>
            if cls = "bytearray" then return .buffer cls (← interpolateBytes row m)
            else return .notImplemented
        | _ => return .notImplemented
    | op => operate op x other
  else if takesOperand cls other then
    if isSecond then operate op other x else operate op x other
  else return .notImplemented

/-- The power of an object, perhaps of what is left of it. -/
def powerSlot (cls : String) (isSecond : Bool) (x : Meaning) (arguments : List Meaning) :
    Except Problem Meaning := do
  if arguments.isEmpty then
    throw (mistaken " expected at least 1 argument, got 0")
  if arguments.length > 2 then
    throw (mistaken (" expected at most 2 arguments, got " ++ toString arguments.length))
  let other := arguments.headD .absent
  let rest := (arguments.drop 1).filter fun m => m.className ≠ "NoneType"
  if cls = "float" && !rest.isEmpty then
    throw (mistaken "pow() 3rd argument not allowed unless all arguments are integers")
  if !takesOperand cls other then return .notImplemented
  if cls = "complex" && !rest.isEmpty then throw (.told .valueError "complex modulo")
  if !rest.all (takesOperand cls) then return .notImplemented
  powerOfAll ((if isSecond then [other, x] else [x, other]) ++ rest)

-- ============================================================= comparisons

/-- Objects of a class are compared with another object. Some classes tell
equal objects only. -/
def comparesWith (cls : String) (c : Comparator) (m : Meaning) : Bool :=
  let isEquality := c = .equal || c = .unequal
  match cls with
  | "int" | "bool" => m.integer?.isSome
  | "float" => m.integer?.isSome || m.className = "float"
  | "complex" => isEquality && m.toObject.toComplex?.isSome
  | "set" | "frozenset" => isOneOf ["set", "frozenset"] m
  | "dict_keys" | "dict_items" => isOneOf ["set", "frozenset", "dict_keys", "dict_items"] m
  | "bytearray" => m.byteRow?.isSome
  | "memoryview" => isEquality && m.byteRow?.isSome
  | "dict" | "range" => isEquality && m.className = cls
  | "GenericAlias" => isEquality && m.className = "types.GenericAlias"
  | "UnionType" => isEquality && m.className = "types.UnionType"
  | cls => m.className = cls

/-- The classes whose objects are compared in a way of their own. -/
def comparingClasses : List String :=
  ["int", "bool", "float", "complex", "str", "bytes", "bytearray", "memoryview", "list", "tuple",
   "dict", "set", "frozenset", "range", "slice", "dict_keys", "dict_items", "GenericAlias",
   "UnionType"]

/-- An operation of a comparison of an object with another one. -/
def comparisonSlot (cls : String) (c : Comparator) (x other : Meaning) :
    Except Problem Meaning := do
  if comparingClasses.contains cls then
    if comparesWith cls c other then return .flag (← compare c x other)
    else return .notImplemented
  else
    let isSame := x.identical other
    match c with
    | .equal => return if isSame then .flag true else .notImplemented
    | .unequal =>
        let own := plainName x.className
        if isSame then return .flag false
        else if comparingClasses.contains own && comparesWith own .equal other then
          return .flag (← compare .unequal x other)
        else return .notImplemented
    | _ => return .notImplemented

-- ================================================================= objects

/-- An object as objects are written that say nothing else about
themselves. -/
def plainlyWritten (m : Meaning) : String := "<" ++ m.className ++ " object at 0x>"

/-- The next whole number below or above a number. -/
def wholeBeside (isAbove : Bool) (m : Meaning) : Except Problem Meaning :=
  match m.toObject.bare, m.integer? with
  | _, some n => .ok (.number n)
  | .float y, none =>
      match y.toRat? with
      | some q => .ok (.number (if isAbove then q.ceil else q.floor))
      | none => (Object.toInteger (.float y)).map .number
  | _, none => .ok .notImplemented

/-- An operation without arguments that an operator or a routine asks for. -/
def plainSlot? (cls key : String) (m : Meaning) : Option (Except Problem Meaning) :=
  let x := m.toObject
  match key with
  | "__neg__" => some ((Object.operateAlone .minus x).map .ofObject)
  | "__pos__" => some ((Object.operateAlone .plus x).map .ofObject)
  | "__invert__" => some ((Object.operateAlone .complement x).map .ofObject)
  | "__abs__" => some (magnitudeOf m)
  | "__int__" | "__trunc__" | "__index__" => some ((Object.toInteger x).map .number)
  | "__float__" => some ((floatOf m).map .object)
  | "__complex__" => some ((complexOf (some m) none).map .object)
  | "__floor__" => some (wholeBeside false m)
  | "__ceil__" => some (wholeBeside true m)
  | "__bool__" => some (.ok (.flag m.truthy))
  | "__len__" => some (lengthOf m)
  | "__hash__" =>
      some (if cls = "object" then .ok (.number 0) else hashOf m)
  | "__repr__" =>
      some (.text <$>
        match cls, m.integer? with
        | "object", _ => .ok (plainlyWritten m)
        | "int", some n => (Object.int n).spelled
        | _, _ => m.spelled)
  | "__str__" => some (.text <$> if cls = "object" then m.spelled else m.shown)
  | _ => none

/-- The size of an object in memory, as far as it is told. -/
def memorySize (m : Meaning) : Int :=
  match m.toObject with
  | .int n => 24 + 4 * max 1 ((Number.bitLength n + 29) / 30)
  | .bool b => if b then 28 else 24
  | .float _ => 24
  | .complex _ _ => 32
  | .text s =>
      let cs := s.toList
      let most := cs.foldl (fun most c => max most c.toNat) 0
      if most < 0x80 then 49 + cs.length
      else if most < 0x100 then 73 + cs.length
      else if most < 0x10000 then 74 + 2 * cs.length
      else 76 + 4 * cs.length
  | .bytes row => 33 + row.length
  | .tuple items => 24 + 8 * items.length
  | .list items => 40 + 8 * ((items.length + 1) / 2 * 2 : Nat)
  | .dict entries =>
      let isText (entry : Object × Object) : Bool := entry.1.className = "str"
      if entries.isEmpty then 48 else if entries.all isText then 168 else 208
  | .none => 16
  | x =>
      match x.className with
      | "ellipsis" | "NotImplementedType" | "object" => 16
      | "method-wrapper" => 32
      | "slice" => 40
      | "builtin_function_or_method" => 56
      | "bytearray" => 56 + ((m.byteRow?.map fun row =>
          if row.isEmpty then 0 else row.length + 1).getD 0 : Nat)
      | "function" => 136
      | "memoryview" => 168
      | "generator" => 184
      | "set" | "frozenset" => 200
      | "type" => 408
      | cls => if BuiltinClass.comesFrom cls "BaseException" then 72 else 48

/-- A named operation without an operator, of an object and some arguments. -/
def namedSlot? (label key : String) (m : Meaning) (arguments : List Meaning) :
    Option (Except Problem Meaning) :=
  let alone (make : Except Problem Meaning) : Option (Except Problem Meaning) :=
    some (if arguments.isEmpty then make else .error (takesNone label key arguments.length))
  match key with
  | "__format__" =>
      match arguments with
      | [layout] => some do
          return .text (← laidOut m (String.ofList (← textArgument layout key "")))
      | arguments => some (.error (takesOne label key arguments.length))
  | "__round__" => some do
      requireBetween key 0 1 arguments.length
      rounded m (arguments.headD .absent)
  | "__trunc__" | "__floor__" | "__ceil__" | "__complex__" =>
      (plainSlot? "" key m).bind alone
  | "__bytes__" => alone (.ok m)
  | "__getnewargs__" =>
      alone (.ok <| match m.toObject with
        | .complex re im => .tuple [.object (.float re), .object (.float im)]
        | _ => .tuple [m])
  | "__sizeof__" => alone (.ok (.number (memorySize m)))
  | "__reduce__" =>
      match m with
      | .raised _ cls found _ => alone (.ok (.tuple [classNamed cls, .tuple found]))
      | .object (.range first last pace) =>
          alone (.ok (.tuple [classNamed "range", .tuple ([first, last, pace].map .number)]))
      | .object (.sealed "ellipsis" _ written _) => alone (.ok (.text written))
      | .object (.sealed "NotImplementedType" _ written _) => alone (.ok (.text written))
      | m =>
          alone (.error
            (mistaken ("cannot pickle '" ++ Problem.longName m.className ++ "' object")))
  | "__dir__" => alone (.ok (.list ((attributeNames (plainName m.className)).map .text)))
  | "__getstate__" => alone (.ok .absent)
  | "indices" => some do
      match m, arguments with
      | .slice low high step, [length] =>
          let length ← wholeNumber length
          if length < 0 then throw (.told .valueError "length should not be negative")
          let (start, stop, pace) ← positions length low high step
          return .tuple [.number start, .number stop, .number pace]
      | _, arguments => throw (takesOne label key arguments.length)
  | _ => none

/-- The count of arguments of an operation that an operator or a routine asks
for. -/
def slotCount (key : String) : Nat :=
  if (plainSlot? "" key .absent).isSome || ["__iter__", "__next__", "__del__"].contains key then 0
  else if ["__setattr__", "__setitem__", "__set__"].contains key then 2
  else 1

/-- An operation of a class refuses its arguments in the name of a routine that
has none. -/
def isNameless (cls key : String) : Bool :=
  ["__setattr__", "__setitem__", "__set__"].contains key
    || ["__mul__", "__rmul__", "__imul__"].contains key && rowClasses.contains cls

/-- Refuses more or fewer arguments than an operation of a class takes that an
operator or a routine asks for. -/
def requireSlotCount (cls key : String) (given : Nat) : Except Problem Unit :=
  let due := slotCount key
  if given = due then .ok ()
  else
    .error (mistaken ((if isNameless cls key then " " else "") ++ "expected "
      ++ Signature.argumentCount due "" ++ ", got " ++ toString given))

/-- An operation of an object that an operator or a routine asks for, which
a class defines. -/
def slotOperation (cls key : String) (m : Meaning) (arguments : List Meaning) :
    Except Problem Meaning := do
  if key = "__pow__" then return ← powerSlot cls false m arguments
  if key = "__rpow__" then return ← powerSlot cls true m arguments
  if key = "__init__" then return .absent
  requireSlotCount cls key arguments.length
  let other := arguments.headD .absent
  match plainSlot? cls key m, operatorOf? key, comparatorOf? key with
  | some result, _, _ => result
  | none, some (op, isSecond), _ => operatorSlot cls op isSecond m other
  | none, none, some c => comparisonSlot cls c m other
  | none, none, none =>
      match key with
      | "__divmod__" =>
          if takesOperand cls other then dividedOf m other else return .notImplemented
      | "__rdivmod__" =>
          if takesOperand cls other then dividedOf other m else return .notImplemented
      | "__contains__" => return .flag (← isIn other m)
      | "__getitem__" => itemOf m other
      | "__setattr__" | "__delattr__" =>
          match other with
          | .object (.text s) =>
              let known := (definition? (BuiltinClass.ancestors (plainName m.className)) s)
              match known with
              | some (home, kind) =>
                  if kind = .computed || kind = .stored then
                    throw (.told .attributeError ("attribute '" ++ s ++ "' of '" ++ home
                      ++ "' objects is not writable"))
                  else
                    throw (.told .attributeError ("'" ++ Problem.longName m.className
                      ++ "' object attribute '" ++ s ++ "' is read-only"))
              | none => throw (.noAttribute m.className s)
          | other =>
              throw (mistaken ("attribute name must be string, not '"
                ++ Problem.longName other.className ++ "'"))
      | _ => return .absent

end CommandConsole.Expression
