/-
Enumerations: a name, and members with a name and a value each.

Several names may have one value. The first of them is the member's own
name, the others are aliases, and all of them spell the member. The members
of an enumeration of flags combine: a whole number stands for the single
flags whose bits it has. Bits that belong to no single flag are dropped,
unless the flags are open to them.
-/
import CommandConsole.Number.Bits
import CommandConsole.Object.Integer
import CommandConsole.Object.Items

namespace CommandConsole

open Number

/-- An enumeration. -/
structure Enumeration where
  cls : EnumerationClass
  /-- The names, aliases included, with their values, in the order of
  definition. -/
  entries : List (String × Object)
  /-- The object in the place of the operation that is asked for values that
  no member has, if there is one. It is no operation. -/
  search? : Option Object := none

namespace Enumeration

/-- The name of an enumeration. -/
def name (e : Enumeration) : String := e.cls.name

-- ==================================================================== names

/-- What a name stands for in the definition of an enumeration. -/
inductive NameKind where
  | member
  /-- The name tells something about the enumeration and is no member. -/
  | setting
  /-- The name is kept for later use. -/
  | reserved
deriving DecidableEq

/-- The names between single underscores that are not kept for later
use. -/
def settings : List String :=
  ["_order_", "_generate_next_value_", "_numeric_repr_", "_missing_", "_ignore_",
   "_iter_member_", "_iter_member_by_value_", "_iter_member_by_def_"]

/-- A name stands between as many underscores as `ends`, and neither more
nor fewer. -/
def isBetween (ends : List Char) (s : List Char) : Bool :=
  let inner := (s.drop ends.length).reverse.drop ends.length
  s.length > 2 * ends.length && ends.isPrefixOf s && ends.isPrefixOf s.reverse
    && inner.head? != some '_' && inner.getLast? != some '_'

/-- A name starts with the name of the enumeration between underscores, and
does not end with two of them. -/
def isPrivate (enumeration s : List Char) : Bool :=
  let start := '_' :: enumeration ++ ['_', '_']
  start.isPrefixOf s && s.length > start.length && !(['_', '_'].isPrefixOf s.reverse)

/-- What a name stands for in the definition of an enumeration. -/
def nameKind (enumeration name : String) : NameKind :=
  let s := name.toList
  if isPrivate enumeration.toList s then .setting
  else if isBetween ['_'] s then
    if settings.contains name then .setting else .reserved
  else if isBetween ['_', '_'] s then .setting
  else .member

/-- The names that a setting tells, separated by commas or blanks, or as a
row. -/
def namesTold (x : Object) : Except Problem (List Object) :=
  match x with
  | .text s =>
      .ok (((s.toList.splitOnP fun c => c = ',' || Text.isBlank c).filter (!·.isEmpty)).map
        fun cs => .text (String.ofList cs))
  | x => x.items?.elim (.error (.notIterable x.className)) .ok

/-- The names that an enumeration leaves out, unless they are those of
members that were there before. -/
def namesIgnored (seen : List (String × Object)) (x : Object) : Except Problem (List Object) := do
  let names ← namesTold x
  if let some cls := Object.unhashableIn? names then throw (.unhashable cls)
  let already := names.filter fun name => seen.any fun entry => name.same (.text entry.1)
  if already.isEmpty then return names
  else
    throw (.told .valueError
      ("_ignore_ cannot specify already set names: " ++ (Object.set already).written))

/-- The names of members with what is told of their values, if every name
stands for something of its own. Some names are left out. -/
def memberNames (enumeration : String) (seen : List (String × Object)) (ignored : List Object) :
    List (String × Object) → Except Problem (List (String × Object))
  | [] => .ok []
  | (name, value) :: rest =>
      match nameKind enumeration name with
      | .setting => do
          let ignored ← if name = "_ignore_" then namesIgnored seen value else pure ignored
          memberNames enumeration seen ignored rest
      | .reserved => .error (.reservedName name)
      | .member =>
          match seen.lookup name with
          | some first => .error (.definedTwice name first)
          | none => do
              if ignored.any fun other => other.same (.text name) then
                memberNames enumeration seen ignored rest
              else
                let others ← memberNames enumeration ((name, value) :: seen) ignored rest
                return (name, value) :: others

/-- A value as an enumeration of a style keeps it. -/
def keptValue (style : EnumerationStyle) (value : Object) : Except Problem Object :=
  match style with
  | .integer => value.toInteger.map .int
  | .openFlags => value.toInteger.map .int
  | .text =>
      match value with
      | .text s => .ok (.text s)
      | value => .error (.notTextValue value)
  | _ => .ok value

/-- A value can be asked whether it has a single bit. -/
def checkBits (value : Object) : Except Problem Unit :=
  if value.whole? = some 0 then .ok ()
  else
    match value with
    | .float _ => .error (.unsupported "&=" value.className value.className)
    | value =>
        match value.integer? with
        | some _ => .ok ()
        | none => .error (.unsupported "-" value.className "int")

/-- The names of members with their values, if an enumeration of the style
can keep them. -/
def memberValues (style : EnumerationStyle) (seen : List Object) :
    List (String × Object) → Except Problem (List (String × Object))
  | [] => .ok []
  | (name, told) :: rest => do
      let value ← keptValue style told
      let isNew := !(seen.any fun other => other.same value)
      if style = .flags && isNew then checkBits value
      let others ← memberValues style (value :: seen) rest
      return (name, value) :: others

-- ================================================================== values

/-- The bits of a value that is a whole number. -/
def bitsOf (value : Object) : Int := value.whole?.getD 0

/-- A value has one bit. -/
def isSingle (value : Object) : Bool := isPowerOfTwo (bitsOf value)

/-- The entries that are no aliases. -/
def ownEntries (e : Enumeration) : List (String × Object) :=
  go [] e.entries
where
  go (seen : List Object) : List (String × Object) → List (String × Object)
    | [] => []
    | entry :: rest =>
        if seen.any fun value => value.same entry.2 then go seen rest
        else entry :: go (entry.2 :: seen) rest

/-- The single flags whose bits a whole number has, in the order of
definition. -/
def partsOf (e : Enumeration) (n : Int) : List Object :=
  (e.ownEntries.filter fun entry =>
      isSingle entry.2 && commonBits (bitsOf entry.2) n != 0).map
    fun entry => .member e.cls (some entry.1) entry.2 []

/-- The member with a name of its own and a value. -/
def memberOf (e : Enumeration) (entry : String × Object) : Object :=
  .member e.cls (some entry.1) entry.2
    (if e.cls.hasFlags && !isSingle entry.2 then e.partsOf (bitsOf entry.2) else [])

/-- The member with a value, under its own name. -/
def memberWith? (e : Enumeration) (value : Object) : Option Object :=
  (e.entries.find? fun entry => entry.2.same value).map e.memberOf

/-- The names, aliases included, with their members. -/
def named (e : Enumeration) : List (String × Object) :=
  e.entries.map fun entry =>
    (entry.1, (e.memberWith? entry.2).getD (e.memberOf entry))

/-- The member that a name spells. -/
def memberNamed? (e : Enumeration) (name : String) : Option Object :=
  e.named.lookup name

/-- The members that a walk through the enumeration meets: those that are
no aliases, and of flags only those with a single bit. -/
def members (e : Enumeration) : List Object :=
  (e.ownEntries.filter fun entry => !e.cls.hasFlags || isSingle entry.2).map e.memberOf

-- =================================================================== flags

/-- The bits of all single flags. -/
def mask (e : Enumeration) : Int :=
  e.entries.foldl
    (fun bits entry =>
      if isSingle entry.2 then joinedBits bits (bitsOf entry.2) else bits) 0

/-- The number of values that fit into the bits of the members, be they
single or not. -/
def span (e : Enumeration) : Int :=
  2 ^ bitLength (e.entries.foldl (fun bits entry => joinedBits bits (bitsOf entry.2)) 0)

/-- A whole number is out of the reach of the members or has a bit in
between that belongs to no single flag. -/
def isForeign (e : Enumeration) (n : Int) : Bool :=
  n < -e.span || n ≥ e.span || commonBits n (differingBits (e.span - 1) e.mask) != 0

/-- The bits that a whole number stands for. A negative one is counted from
the end of a range that it fits into. -/
def bitsFor (e : Enumeration) (n : Int) : Int :=
  if !e.isForeign n then fromEnd n
  else if e.cls.style = .openFlags then
    if n < 0 then max e.span (2 ^ bitLength n) + n else n
  else fromEnd (commonBits n e.mask)
where
  /-- A number in the place of a negative one. -/
  fromEnd (n : Int) : Int := if n < 0 then e.span + n else n

/-- The combination of flags that has the given bits. -/
def combination (e : Enumeration) (bits : Int) : Object :=
  let parts := e.partsOf bits
  let stray := differingBits bits (commonBits bits e.mask)
  let names := parts.filterMap fun part =>
    match part with
    | .member _ name _ _ => name
    | _ => none
  let label := "|".intercalate (names ++ (if stray = 0 then [] else [toString stray]))
  .member e.cls (if parts.isEmpty then none else some label) (.int bits) parts

/-- What a whole number that is the value of no member stands for among
flags: the combination of its bits, or the member that has no others. -/
def flagged (e : Enumeration) (n : Int) : Object :=
  let bits := e.bitsFor n
  let isKnown := commonBits bits e.mask = bits
  ((if isKnown then e.memberWith? (.int bits) else none)).getD (e.combination bits)

/-- The member or the combination of flags that a whole number stands
for. -/
def ofNumber (e : Enumeration) (n : Int) : Except Problem Object :=
  match e.memberWith? (.int n) with
  | some m => .ok m
  | none =>
      match e.search? with
      | some x => .error (.notCallable x.className)
      | none => if e.cls.hasFlags then .ok (e.flagged n) else .error (.notValid (.int n) e.name)

/-- The zero value of an enumeration: what zero stands for, or the first
member. -/
def zero (e : Enumeration) : Except Problem Object :=
  match e.ofNumber 0 with
  | .error (.notValid _ _) =>
      match e.members with
      | m :: _ => .ok m
      | [] => .error .noMembers
  | result => result

-- ============================================================== definition

/-- Refuses an enumeration whose members have another order than a setting
tells. Names of aliases and of combinations do not count. -/
def requireOrder (e : Enumeration) (settings : List (String × Object)) : Except Problem Unit := do
  let told? := settings.reverse.find? fun entry =>
    entry.1 = "_order_" || entry.1 = "__order__"
  let some (_, told) := told? | return
  if !told.truthy then return
  let names := e.members.filterMap Object.memberName?
  let wanted := (← namesTold told).filter fun x =>
    let isKnown := e.entries.any fun entry => x.same (.text entry.1)
    !isKnown || names.any fun name => x.same (.text name)
  let own : List Object := names.map .text
  if Object.sameItems own wanted then return
  else
    throw (.told .typeError
      ("member order does not match _order_:\n  " ++ (Object.list own).written ++ "\n  "
        ++ (Object.list wanted).written))

/-- Refuses an enumeration that makes or completes its members by an object:
what is given here cannot be called. It is so before or after the value of
the first member is told. -/
def requireMaker (style : EnumerationStyle) (settings : List (String × Object)) :
    List (String × Object) → Except Problem Unit
  | [] => .ok ()
  | (_, told) :: _ => do
      match settings.reverse.lookup "__new__" with
      | none | some .none => pure ()
      | some x => throw (.notCallable x.className)
      match settings.reverse.lookup "__init__" with
      | none => pure ()
      | some x =>
          let _ ← keptValue style told
          throw (.notCallable x.className)

/-- The enumeration of a module with a name, a style, and names with what
is told of their values. -/
def define (home name : String) (style : EnumerationStyle)
    (entries : List (String × Object)) : Except Problem Enumeration := do
  let named ← memberNames name [] [] entries
  let invalid := (named.map (·.1)).filter fun name => name = "mro" || name = ""
  if !invalid.isEmpty then throw (.invalidNames invalid)
  requireMaker style entries named
  let kept ← memberValues style [] named
  for (_, value) in kept do
    if let (.flags, .float _) := (style, value) then
      throw (.unsupported "|=" "int" value.className)
  let e : Enumeration :=
    { cls := ⟨home, name, style⟩
      entries := kept
      search? := entries.reverse.lookup "_missing_" }
  e.requireOrder entries
  return e

end Enumeration

end CommandConsole
