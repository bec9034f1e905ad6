/-
The mark of a value that was not given, and unions of its class with
others.
-/
import CommandConsole.Problem

namespace CommandConsole.Object

/-- The class of the mark with its module. -/
def markClass : String := "devconsole.utils.UnsetType"

/-- An object is a text or the mark. -/
def isTextOrMark : Object → Bool
  | .text _ => true
  | .unset => true
  | _ => false

/-- The union of the mark with what stands on one side of it, as it is
written in code. Only the absent object makes one. -/
def unionWithMark (other : Object) (markFirst : Bool) : Except Problem String :=
  match other, markFirst with
  | .none, true => .ok (markClass ++ " | " ++ Object.none.written)
  | .none, false => .ok (Object.none.written ++ " | " ++ markClass)
  | other, true => .error (.unsupported "|" Object.unset.className other.className)
  | other, false => .error (.unsupported "|" other.className Object.unset.className)

/-- The first of one or two arguments, or the other one in the place of the
mark. Without another one the absent object stands in its place. -/
def settled (arguments : List Object) : Except Problem Object :=
  match arguments with
  | [x] => .ok (x.orElse .none)
  | [x, fallback] => .ok (x.orElse fallback)
  | [] => .error (.missingArguments "coalesce()" ["object"])
  | arguments =>
      .error (.told .typeError
        ("coalesce() takes from 1 to 2 positional arguments but "
          ++ toString arguments.length ++ " were given"))

/-- No class extends the class of the mark. -/
def extendMark : Except Problem Unit := .error .sealedType

end CommandConsole.Object
