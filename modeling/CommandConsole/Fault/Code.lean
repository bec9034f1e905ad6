/-
Fault codes: the stable numbers of the faults that a console reports, in
groups by the stage of dispatch they belong to.
-/
import CommandConsole.Problem

namespace CommandConsole

/-- A fault code. -/
inductive FaultCode where
  /-- The line names no command. -/
  | commandNotFound
  /-- The line has too few arguments. -/
  | arityMismatch
  /-- An argument cannot be converted. -/
  | parameterCoercion
  /-- Nothing converts arguments of the type of a parameter. -/
  | unknownType
  /-- The routine of the command failed. -/
  | callbackThrew
  /-- A registration was refused, since its name or type is taken. -/
  | duplicateRegistration
deriving DecidableEq

namespace FaultCode

/-- All fault codes. -/
def all : List FaultCode :=
  [.commandNotFound, .arityMismatch, .parameterCoercion, .unknownType,
   .callbackThrew, .duplicateRegistration]

/-- The number of a fault code. -/
def number : FaultCode → Nat
  | .commandNotFound => 21101
  | .arityMismatch => 21111
  | .parameterCoercion => 21121
  | .unknownType => 21122
  | .callbackThrew => 21131
  | .duplicateRegistration => 22101

/-- The name of a fault code. -/
def label : FaultCode → String
  | .commandNotFound => "COMMAND_NOT_FOUND"
  | .arityMismatch => "ARITY_MISMATCH"
  | .parameterCoercion => "PARAMETER_COERCION_FAILURE"
  | .unknownType => "UNKNOWN_TYPE_FOR_COERCION"
  | .callbackThrew => "CALLBACK_THREW"
  | .duplicateRegistration => "DUPLICATE_REGISTRATION"

/-- The fault code with a name. -/
def named? (name : String) : Option FaultCode :=
  all.find? fun code => code.label == name

/-- The fault code with the name that an operation was given. -/
def named (name : String) : Except Problem FaultCode :=
  match named? name with
  | some code => .ok code
  | none => .error (.noSuchKey (.text name))

/-- The fault code whose number an object equals. -/
def ofObject (x : Object) : Except Problem FaultCode :=
  match all.find? fun code => x.whole? == some (code.number : Int) with
  | some code => .ok code
  | none => .error (.invalidCode x)

end FaultCode

end CommandConsole
