/-
What can go wrong, by cause: a constructor for each way in which an
operation refuses what it is given.

`Problem.kind` sorts the causes into classes, which is what an error is
known by where it surfaces, and `Problem.message` words them.
-/
import CommandConsole.Number.Integer
import CommandConsole.Object.Basic

namespace CommandConsole

/-- The field of a parameter or a command that a refusal is about. -/
inductive Field where
  | name
  | descr
  | parameters
  | aliases
deriving DecidableEq

/-- The name of a field. -/
def Field.label : Field → String
  | .name => "name"
  | .descr => "descr"
  | .parameters => "parameters"
  | .aliases => "aliases"

/-- The two routines of a command. -/
inductive Role where
  /-- The routine that receives the arguments. -/
  | callback
  /-- The routine that runs when no argument is given. -/
  | default
deriving DecidableEq

/-- The name of a routine of a command. -/
def Role.label : Role → String
  | .callback => "callback"
  | .default => "default"

/-- The class of an error. -/
inductive Problem.Kind where
  | typeError
  | valueError
  | keyError
  | indexError
  | lookupError
  | unicodeEncodeError
  | unicodeDecodeError
  | overflowError
  | memoryError
  | attributeError
  | assertionError
  | zeroDivisionError
  | invalidOperation
  | stopIteration
  | recursionError
  | syntaxError
  | nameError
  | runtimeError
  /-- A class that nothing else is said about. -/
  | other (name : String)
deriving DecidableEq

/-- The name of a class of errors. -/
def Problem.Kind.label : Kind → String
  | .typeError => "TypeError"
  | .valueError => "ValueError"
  | .keyError => "KeyError"
  | .indexError => "IndexError"
  | .lookupError => "LookupError"
  | .unicodeEncodeError => "UnicodeEncodeError"
  | .unicodeDecodeError => "UnicodeDecodeError"
  | .overflowError => "OverflowError"
  | .memoryError => "MemoryError"
  | .attributeError => "AttributeError"
  | .assertionError => "AssertionError"
  | .zeroDivisionError => "ZeroDivisionError"
  | .invalidOperation => "InvalidOperation"
  | .stopIteration => "StopIteration"
  | .recursionError => "RecursionError"
  | .syntaxError => "SyntaxError"
  | .nameError => "NameError"
  | .runtimeError => "RuntimeError"
  | .other name => name

/-- The classes of errors that something is said about. -/
def Problem.Kind.all : List Kind :=
  [.typeError, .valueError, .keyError, .indexError, .lookupError, .unicodeEncodeError,
   .unicodeDecodeError, .overflowError, .memoryError, .attributeError, .assertionError,
   .zeroDivisionError, .invalidOperation, .stopIteration, .recursionError, .syntaxError,
   .nameError, .runtimeError]

/-- The class of errors with a name. -/
def Problem.Kind.named (name : String) : Kind :=
  (Kind.all.find? fun kind => kind.label = name).getD (.other name)

/-- Errors of a class are about names that stand for nothing. -/
def Problem.Kind.isAboutNames (kind : Kind) : Bool :=
  kind = .nameError || kind = .other "UnboundLocalError"

/-- Why an operation refuses what it is given. -/
inductive Problem where
  -- texts and counts
  /-- An operation was given something else than a text. -/
  | notText (operation : String)
  /-- An operation was given the empty text. -/
  | emptyText (operation : String)
  /-- A count is negative. -/
  | negativeCount (count : String)
  /-- Objects of two classes have no order. -/
  | noOrder (sign left right : String)
  /-- A count is a number but not a whole one. -/
  | notSliceIndex
  -- reading objects
  | notBoolean (token : String)
  | notInteger (base : Nat) (token : String)
  /-- An object spells no whole number, as it is written in code. -/
  | spellsNoInteger (base : Nat) (written : String)
  /-- An object of a class makes no whole number. -/
  | makesNoInteger (cls : String)
  | integerTooLong (digits : Nat)
  | notReal (token : String)
  | notComplex
  /-- Underscores stand elsewhere than between digits. -/
  | misgroupedComplex (token : String)
  | notDecimal
  | decimalOutOfRange
  | notFraction (token : String)
  | zeroDenominator (numerator : Int)
  /-- A token names no member of an enumeration. -/
  | notMember (token enumeration : String)
  /-- No member of an enumeration has the value. -/
  | notValid (value : Object) (enumeration : String)
  /-- An enumeration without members has no first one. -/
  | noMembers
  -- defining enumerations
  /-- A name is defined again that has a value already. -/
  | definedTwice (name : String) (value : Object)
  | reservedName (name : String)
  | invalidNames (names : List String)
  | notTextValue (value : Object)
  /-- What stands at a position in the place of an entry is no row. -/
  | notRowOfPair (position : Nat)
  /-- The row at a position holds something else than a key and a value. -/
  | notPair (position length : Nat)
  | bytesWithoutEncoding
  | objectTakesNothing
  -- building an object of a type from nothing
  | notCallable (cls : String)
  | notInstantiable (written : String)
  | abstractCallable
  /-- An operation was called with more arguments than it takes. -/
  | tooManyArguments (operation : String) (most given : Nat)
  | atMost (operation : String) (most given : Nat)
  | atLeast (operation : String) (least given : Nat)
  /-- A class was called without the arguments it needs. -/
  | missingArguments (signature : String) (names : List String)
  -- parameters and commands
  | fieldNotText (owner : String) (field : Field)
  | emptyParameterName
  | absentType
  | severalTypes
  | parametersNotIterable
  | parametersNotParameters
  | defaultWithoutParameters
  | routineNotCallable (role : Role)
  | routineArity (role : Role) (arity : Nat)
  | aliasesNotTexts
  | aliasNotText
  | immutable (owner : String)
  -- deriving a command from a function
  | sourceNotCallable
  | sourceNotInspectable
  /-- A name stands for nothing. -/
  | undefinedName (missing : String)
  /-- A name in the types that a function declares stands for nothing, as the
  refusal of the name says. -/
  | unresolvedName (function refusal : String)
  | notExpression (s : String)
  /-- A class takes no arguments. -/
  | takesNoArguments (cls : String)
  /-- An object that is no type was given arguments. -/
  | argumentsOfObject (cls : String)
  /-- A type has its arguments already. -/
  | argumentsGiven (written : String)
  | notPositional (parameter : String)
  -- parsers
  | parserNotCallable
  | unhashable (cls : String)
  -- the registry
  | notCommand
  /-- Nothing is kept under a key. -/
  | noSuchKey (key : Object)
  -- the history
  | historyLengthNotInteger
  | historyLengthNotPositive
  | historyLengthTooLarge
  | historyIndexRange
  | historyIndexNotInteger (cls : String)
  /-- An index is out of reach whatever the history holds. -/
  | historyIndexTooLarge
  | invalidDirection (direction : Object)
  -- suggestions
  | suggestionNotText
  -- faults
  | messageNotText
  | unusedArguments (positional : Bool)
  /-- Options were told to an operation that has an argument of the same
  name. -/
  | takenOption (operation option : String)
  /-- An operation was told an option that it does not have. -/
  | unknownOption (operation option : String)
  | notFault
  | invalidCode (code : Object)
  | notFaultCode
  /-- An option of a fault is of a class without the method it needs. -/
  | noMethod (cls method : String)
  | readOnlyOptions
  -- the console
  | consoleNameNotText
  | emptyConsoleName
  | outputNotConsole
  | fallbackNotCallable
  | textPlusOther (cls : String)
  /-- A row of texts holds something else. -/
  | notTextItem (position : Nat) (cls : String)
  | noLength (cls : String)
  | notIterable (cls : String)
  /-- Host code started one operation inside another without end. -/
  | tooDeep
  -- renaming
  | renameCount (count : Nat)
  | renameFirstNotCallable
  | renameSecondNotText
  | renameFixedName
  | renameDecorated
  -- marks and descriptors
  /-- An operator joins no objects of two classes. -/
  | unsupported (operator left right : String)
  | sealedType
  | noAttribute (cls name : String)
  | noSetter (cls name : String)
  /-- What a built-in operation says in words of its own. -/
  | told (kind : Problem.Kind) (message : String)

namespace Problem

/-- The class a problem belongs to. -/
def kind : Problem → Kind
  | .emptyText _ | .negativeCount _ | .notBoolean _ | .notInteger _ _
  | .spellsNoInteger _ _
  | .integerTooLong _ | .notReal _ | .notComplex | .misgroupedComplex _
  | .notFraction _ | .notMember _ _ | .notValid _ _ | .reservedName _
  | .invalidNames _ | .notPair _ _ | .emptyParameterName | .historyLengthNotPositive
  | .invalidDirection _ | .invalidCode _ | .emptyConsoleName => .valueError
  | .notDecimal | .decimalOutOfRange => .invalidOperation
  | .zeroDenominator _ => .zeroDivisionError
  | .noMembers => .stopIteration
  | .noSuchKey _ => .keyError
  | .historyLengthTooLarge => .overflowError
  | .historyIndexRange | .historyIndexTooLarge => .indexError
  | .immutable _ | .noMethod _ _ | .noAttribute _ _ | .noSetter _ _ =>
      .attributeError
  | .messageNotText | .unusedArguments _ => .assertionError
  | .tooDeep => .recursionError
  | .notExpression _ => .syntaxError
  | .undefinedName _ => .nameError
  | .told kind _ => kind
  | _ => .typeError

/-- A text cut after two hundred characters. -/
def clipped (s : String) : String := String.ofList (s.toList.take 200)

/-- A text cut after a number of bytes. A character of which some bytes are
left is replaced by the mark for an unreadable one. -/
def clippedBytes (limit : Nat) (s : String) : String :=
  String.ofList (go limit s.toList)
where
  go (limit : Nat) : List Char → List Char
    | [] => []
    | c :: rest =>
        if c.utf8Size ≤ limit then c :: go (limit - c.utf8Size) rest
        else if limit = 0 then [] else [Char.ofNat 0xFFFD]

/-- The name of a class in a message about its attributes. -/
def shortName (cls : String) : String := clippedBytes 50 cls

/-- The name of a class in a message about an operator. -/
def operandName (cls : String) : String := clippedBytes 100 cls

/-- The name of a class in any other message. -/
def longName (cls : String) : String := clippedBytes 200 cls

/-- The names of missing arguments as a phrase. -/
def namesPhrase : List String → String
  | [] => ""
  | [name] => "'" ++ name ++ "'"
  | [first, second] => "'" ++ first ++ "' and '" ++ second ++ "'"
  | [first, second, third] =>
      "'" ++ first ++ "', '" ++ second ++ "', and '" ++ third ++ "'"
  | first :: rest => "'" ++ first ++ "', " ++ namesPhrase rest

/-- A number of arguments as a phrase. -/
def argumentCount (n : Nat) : String :=
  toString n ++ (if n = 1 then " argument" else " arguments")

/-- The message of a problem. -/
def message : Problem → String
  | .notText operation => operation ++ " argument must be a string"
  | .emptyText operation => operation ++ " argument must be a non-empty string"
  | .negativeCount count => count ++ " must be a non-negative integer"
  | .noOrder sign left right =>
      "'" ++ sign ++ "' not supported between instances of '" ++ operandName left
        ++ "' and '" ++ operandName right ++ "'"
  | .notSliceIndex =>
      "slice indices must be integers or None or have an __index__ method"
  | .notBoolean token => Text.quoted token ++ " is not a boolean"
  | .notInteger base token =>
      "invalid literal for int() with base " ++ toString base ++ ": "
        ++ clipped (Text.quoted token)
  | .spellsNoInteger base written =>
      "invalid literal for int() with base " ++ toString base ++ ": "
        ++ clipped written
  | .makesNoInteger cls =>
      "int() argument must be a string, a bytes-like object or a real number, not '"
        ++ cls ++ "'"
  | .integerTooLong digits =>
      "Exceeds the limit (" ++ toString Number.maxDigits
        ++ " digits) for integer string conversion: value has " ++ toString digits
        ++ " digits; use sys.set_int_max_str_digits() to increase the limit"
  | .notReal token => "could not convert string to float: " ++ Text.quoted token
  | .notComplex => "complex() arg is a malformed string"
  | .misgroupedComplex token =>
      "could not convert string to complex: " ++ Text.quoted token
  | .notDecimal => "[<class 'decimal.ConversionSyntax'>]"
  | .decimalOutOfRange => "[<class 'decimal.InvalidOperation'>]"
  | .notFraction token => "Invalid literal for Fraction: " ++ Text.quoted token
  | .zeroDenominator numerator => "Fraction(" ++ toString numerator ++ ", 0)"
  | .notMember token enumeration =>
      Text.quoted token ++ " is not a member of " ++ enumeration
  | .notValid value enumeration =>
      value.written ++ " is not a valid " ++ enumeration
  | .noMembers => ""
  | .definedTwice name value =>
      Text.quoted name ++ " already defined as " ++ value.written
  | .reservedName name =>
      "_sunder_ names, such as " ++ Text.quoted name
        ++ ", are reserved for future Enum use"
  | .invalidNames names =>
      "invalid enum member name(s) " ++ ",".intercalate (names.map Text.quoted)
  | .notTextValue value => value.written ++ " is not a string"
  | .notRowOfPair position =>
      "cannot convert dictionary update sequence element #" ++ toString position
        ++ " to a sequence"
  | .notPair position length =>
      "dictionary update sequence element #" ++ toString position ++ " has length "
        ++ toString length ++ "; 2 is required"
  | .bytesWithoutEncoding => "string argument without an encoding"
  | .objectTakesNothing => "object() takes no arguments"
  | .notCallable cls => "'" ++ longName cls ++ "' object is not callable"
  | .notInstantiable written => written
  | .abstractCallable =>
      "Can't instantiate abstract class Callable with abstract method __call__"
  | .tooManyArguments operation most given =>
      operation ++ " takes at most " ++ argumentCount most ++ " (" ++ toString given
        ++ " given)"
  | .atMost operation most given =>
      operation ++ " expected at most " ++ argumentCount most ++ ", got "
        ++ toString given
  | .atLeast operation least given =>
      operation ++ " expected at least " ++ argumentCount least ++ ", got "
        ++ toString given
  | .missingArguments signature names =>
      signature ++ " missing " ++ toString names.length
        ++ " required positional argument" ++ (if names.length = 1 then "" else "s")
        ++ ": " ++ namesPhrase names
  | .fieldNotText owner field =>
      owner ++ " '" ++ field.label ++ "' must be a string"
  | .emptyParameterName => "parameter 'name' cannot be empty"
  | .absentType => "parameter 'type' cannot be None"
  | .severalTypes => "parameter 'type' only supports optional unions (X | None)"
  | .parametersNotIterable =>
      "command 'parameters' must be an iterable of parameters"
  | .parametersNotParameters =>
      "command 'parameters' must only contain parameters"
  | .defaultWithoutParameters =>
      "command 'default' requires at least one parameter"
  | .routineNotCallable role => "command '" ++ role.label ++ "' must be callable"
  | .routineArity role arity =>
      "command '" ++ role.label ++ "' must accept " ++ toString arity
        ++ " positional argument(s)"
  | .aliasesNotTexts =>
      "command 'aliases' must be a string or an iterable of strings"
  | .aliasNotText => "command aliases must be strings"
  | .immutable owner => owner ++ " is immutable"
  | .sourceNotCallable => "command() source must be callable"
  | .sourceNotInspectable => "command() source must have an inspectable signature"
  | .undefinedName missing => "name '" ++ longName missing ++ "' is not defined"
  | .unresolvedName function refusal =>
      "command() cannot resolve annotations of <function " ++ function ++ " at 0x>: " ++ refusal
  | .notExpression s =>
      "Forward reference must be an expression -- got " ++ Text.quoted s
  | .takesNoArguments cls => "type '" ++ cls ++ "' is not subscriptable"
  | .argumentsOfObject cls => "'" ++ cls ++ "' object is not subscriptable"
  | .argumentsGiven written => written ++ " is not a generic class"
  | .notPositional parameter =>
      "command() parameter " ++ Text.quoted parameter ++ " must be positional"
  | .parserNotCallable => "register() parse function must be callable"
  | .unhashable cls => "unhashable type: '" ++ longName cls ++ "'"
  | .notCommand => "register() argument must be a command"
  | .noSuchKey key => key.written
  | .historyLengthNotInteger => "history length must be an integer"
  | .historyLengthNotPositive => "history length must be a positive integer"
  | .historyLengthTooLarge => "Python int too large to convert to C ssize_t"
  | .historyIndexRange => "deque index out of range"
  | .historyIndexNotInteger cls => "sequence index must be integer, not '" ++ cls ++ "'"
  | .historyIndexTooLarge => "cannot fit 'int' into an index-sized integer"
  | .invalidDirection direction =>
      direction.written ++ " is not a valid Direction"
  | .suggestionNotText => "suggest() prefix must be a string"
  | .messageNotText => ""
  | .unusedArguments positional =>
      (if positional then "positional" else "unused") ++ " arguments are not allowed"
  | .takenOption operation option =>
      operation ++ "() got multiple values for argument '" ++ option ++ "'"
  | .unknownOption operation option =>
      operation ++ "() got an unexpected keyword argument '" ++ option ++ "'"
  | .notFault =>
      "trigger() argument must have a __trigger__ and __replace__ methods"
  | .invalidCode code => code.written ++ " is not a valid FaultCode"
  | .notFaultCode => "getdoc() argument must be a fault-code"
  | .noMethod cls method =>
      "'" ++ shortName cls ++ "' object has no attribute '" ++ method ++ "'"
  | .readOnlyOptions => "'mappingproxy' object does not support item assignment"
  | .consoleNameNotText => "console 'name' must be a string"
  | .emptyConsoleName => "console 'name' cannot be empty"
  | .outputNotConsole => "console 'output' must be a rich console"
  | .fallbackNotCallable => "fallback() argument must be callable"
  | .textPlusOther cls => "can only concatenate str (not \"" ++ longName cls ++ "\") to str"
  | .notTextItem position cls =>
      "sequence item " ++ toString position ++ ": expected str instance, "
        ++ clippedBytes 80 cls ++ " found"
  | .noLength cls => "object of type '" ++ longName cls ++ "' has no len()"
  | .notIterable cls => "'" ++ longName cls ++ "' object is not iterable"
  | .tooDeep => "maximum recursion depth exceeded"
  | .renameCount count =>
      "rename takes 1 to 2 arguments but " ++ toString count ++ " were given"
  | .renameFirstNotCallable => "rename() first argument must be callable"
  | .renameSecondNotText => "rename() second argument must be a string"
  | .renameFixedName => "rename() first argument must be a updatable callable"
  | .renameDecorated => "@rename() must be applied to a callable"
  | .unsupported operator left right =>
      "unsupported operand type(s) for " ++ operator ++ ": '" ++ operandName left
        ++ "' and '" ++ operandName right ++ "'"
  | .sealedType => "type 'UnsetType' is not an acceptable base type"
  | .noAttribute cls name =>
      "'" ++ shortName cls ++ "' object has no attribute '" ++ name ++ "'"
  | .noSetter cls name =>
      "property " ++ Text.quoted name ++ " of " ++ Text.quoted cls
        ++ " object has no setter"
  | .told _ message => message

end Problem

-- ======================================================= checked arguments

/-- The text that an operation was given. -/
def Object.asText (operation : String) : Object → Except Problem String
  | .text s => .ok s
  | _ => .error (.notText operation)

/-- The count that an operation was given, which is a whole number and not
negative. -/
def Object.asCount (count : String) (x : Object) : Except Problem Nat :=
  match x with
  | .bool b => .ok (if b then 1 else 0)
  | .int n => if n < 0 then .error (.negativeCount count) else .ok n.toNat
  | .float x =>
      .error (if x.isNegative then .negativeCount count else .notSliceIndex)
  | _ => .error (.noOrder "<" x.className "int")

end CommandConsole
