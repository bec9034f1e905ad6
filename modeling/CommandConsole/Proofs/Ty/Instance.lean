/-
The objects of a type.

An object is of a type if the class that the type stands for has made it, or
could have (`Object.IsOf`). The objects of an enumeration are its members, and
the combinations of its flags if it has flags. No object is of a type that is
no class, and the absent object is of no type at all (`Object.IsOf.ne_none`).

What a class makes of a token is of that class (`makes_convert`), and so is the
zero of a type that has one by itself (`makes_blank`). In the case of a class
of the host all that is settled here is which class is asked. What a built-in
class refuses, it refuses by an error about the token: it never says that it
was given a type which nobody knows how to handle.
-/
import CommandConsole.Ty.Conversion

namespace CommandConsole

/-- An object is an instance of the class that a type stands for. -/
inductive Object.IsOf : Object → Ty → Prop
  | bool (b : Bool) : IsOf (.bool b) .bool
  | int (n : Int) : IsOf (.int n) .int
  | float (x : Number.Binary64) : IsOf (.float x) .float
  | complex (re im : Number.Binary64) : IsOf (.complex re im) .complex
  | decimal (x : Number.Decimal) : IsOf (.decimal x) .decimal
  | fraction (q : Rat) : IsOf (.fraction q) .fraction
  | text (s : String) : IsOf (.text s) .text
  | member {e : Enumeration} {entry : String × Object} (h : entry ∈ e.entries) :
      IsOf (e.memberOf entry) (.enumeration e)
  | combination {e : Enumeration} (h : e.cls.hasFlags = true) (bits : Int) :
      IsOf (e.combination bits) (.enumeration e)
  | builtin {x : Object} {c : BuiltinClass} (h : x.className = c.label) (hne : x ≠ .none) :
      IsOf x (.builtin c)
  | host {x : Object} {home name : String} (h : x.className = name) (hne : x ≠ .none) :
      IsOf x (.host home name)

theorem Object.IsOf.ne_none {x : Object} {type : Ty} (h : x.IsOf type) : x ≠ .none := by
  cases h with
  | builtin _ hne => exact hne
  | host _ hne => exact hne
  | _ => exact fun heq => by cases heq

-- ============================================================ enumerations

namespace Enumeration

variable {e : Enumeration} {x : Object}

theorem isOf_of_memberWith? {value : Object} (h : e.memberWith? value = some x) :
    x.IsOf (.enumeration e) := by
  obtain ⟨entry, hentry, rfl⟩ := Option.map_eq_some_iff.1 h
  exact .member (List.mem_of_find?_eq_some hentry)

/-- What a name stands for is a member. -/
theorem isOf_of_mem_named {name : String} (h : (name, x) ∈ e.named) : x.IsOf (.enumeration e) := by
  obtain ⟨entry, hentry, heq⟩ := List.mem_map.1 h
  obtain ⟨-, rfl⟩ := Prod.mk.inj heq
  cases hmember : e.memberWith? entry.2 with
  | none => exact .member hentry
  | some m => exact isOf_of_memberWith? hmember

theorem mem_entries_of_mem_go {seen : List Object} {entry : String × Object} :
    ∀ {entries : List (String × Object)}, entry ∈ ownEntries.go seen entries → entry ∈ entries := by
  intro entries
  induction entries generalizing seen with
  | nil => exact id
  | cons first rest ih =>
      intro h
      rw [ownEntries.go] at h
      split at h
      · exact List.mem_cons_of_mem first (ih h)
      · rcases List.mem_cons.1 h with rfl | h
        · exact List.mem_cons_self
        · exact List.mem_cons_of_mem first (ih h)

theorem isOf_of_mem_members (h : x ∈ e.members) : x.IsOf (.enumeration e) := by
  obtain ⟨entry, hentry, rfl⟩ := List.mem_map.1 h
  exact .member (mem_entries_of_mem_go (List.mem_filter.1 hentry).1)

/-- What a whole number stands for among flags is a member or a combination
of them. -/
theorem isOf_flagged (h : e.cls.hasFlags = true) (n : Int) :
    (e.flagged n).IsOf (.enumeration e) := by
  unfold flagged
  dsimp only
  split
  · cases hmember : e.memberWith? (.int (e.bitsFor n)) with
    | none => exact .combination h _
    | some m => exact isOf_of_memberWith? hmember
  · exact .combination h _

end Enumeration

-- ============================================================= conversions

/-- A conversion to a type makes an object of it, or asks the class of the
host that the type stands for, or refuses what it is given. -/
inductive Conversion.Makes (type : Ty) : Conversion → Prop
  | object {x : Object} (h : x.IsOf type) : Makes type (.object x)
  | host {home name : String} (h : type = .host home name) (arguments : List Object) :
      Makes type (.host home name arguments)
  | problem {p : Problem} (h : p.kind ≠ .assertionError) : Makes type (.problem p)

/-- A result is of a type, or an error about what was given. -/
structure Yields (type : Ty) (result : Except Problem Object) : Prop where
  isOf : ∀ {x}, result = .ok x → x.IsOf type
  kind_ne : ∀ {p}, result = .error p → p.kind ≠ .assertionError

section

variable {type : Ty} {x : Object} {p : Problem}

theorem yields_ok (h : x.IsOf type) : Yields type (.ok x) := by
  refine ⟨?_, nofun⟩
  rintro _ ⟨⟩
  exact h

theorem yields_error (h : p.kind ≠ .assertionError) : Yields type (.error p) := by
  refine ⟨nofun, ?_⟩
  rintro _ ⟨⟩
  exact h

theorem Yields.makes {result : Except Problem Object} (h : Yields type result) :
    (Conversion.ofExcept result).Makes type := by
  cases result with
  | ok x => exact .object (h.isOf rfl)
  | error p => exact .problem (h.kind_ne rfl)

end

namespace Enumeration

variable (e : Enumeration)

theorem yields_ofNumber (n : Int) : Yields (.enumeration e) (e.ofNumber n) := by
  unfold ofNumber
  split
  · next m hmember => exact yields_ok (isOf_of_memberWith? hmember)
  · split
    · exact yields_error nofun
    · split
      · next hflags => exact yields_ok (isOf_flagged hflags n)
      · exact yields_error nofun

theorem yields_zero : Yields (.enumeration e) e.zero := by
  unfold zero
  split
  · split
    · next m rest hmembers =>
      exact yields_ok (isOf_of_mem_members (hmembers ▸ List.mem_cons_self))
    · exact yields_error nofun
  · exact yields_ofNumber e 0

end Enumeration

namespace Token

variable (token : String)

theorem yields_toBool : Yields .bool (toBool token) := by
  unfold toBool
  split
  · exact yields_ok (.bool true)
  · exact yields_ok (.bool true)
  · exact yields_ok (.bool false)
  · exact yields_ok (.bool false)
  · exact yields_error nofun

theorem yields_toInteger : Yields .int ((toInteger token).map .int) := by
  unfold toInteger
  split
  · exact yields_ok (.int _)
  · exact yields_error nofun
  · exact yields_error nofun

theorem yields_toFloat : Yields .float (toFloat token) := by
  unfold toFloat
  split
  · exact yields_ok (.float _)
  · exact yields_error nofun

theorem yields_toComplex : Yields .complex (toComplex token) := by
  unfold toComplex
  split
  · exact yields_ok (.complex _ _)
  · exact yields_error nofun
  · exact yields_error nofun

theorem yields_toDecimal : Yields .decimal (toDecimal token) := by
  unfold toDecimal
  split
  · exact yields_ok (.decimal _)
  · exact yields_error nofun
  · exact yields_error nofun

theorem yields_toFraction : Yields .fraction (toFraction token) := by
  unfold toFraction
  split
  · exact yields_ok (.fraction _)
  · exact yields_error nofun
  · exact yields_error nofun
  · exact yields_error nofun
  · exact yields_error nofun

/-- A token spells a member by its name or by a whole number. -/
theorem yields_toMember (e : Enumeration) : Yields (.enumeration e) (toMember e token) := by
  unfold toMember
  split
  · next entry hentry =>
    exact yields_ok (Enumeration.isOf_of_mem_named (List.mem_of_find?_eq_some hentry))
  · split
    · exact e.yields_ofNumber _
    · exact yields_error nofun

theorem yields_toError (name : String) : Yields (.builtin (.error name)) (toError name token) := by
  unfold toError
  split
  · exact yields_error nofun
  · exact yields_ok (.builtin rfl nofun)

theorem yields_toOther (name : String) : Yields (.builtin (.other name)) (toOther name token) := by
  have hsealed : ∀ cls written, Yields (.builtin (.other cls)) (sealedAs cls written) :=
    fun _ _ => yields_ok (.builtin rfl nofun)
  unfold toOther
  split
  · exact yields_ok (.builtin rfl nofun)
  · exact yields_error nofun
  · exact yields_error nofun
  · exact yields_error nofun
  · exact hsealed _ _
  · exact yields_error nofun
  · exact yields_error nofun
  · exact yields_error nofun
  · exact hsealed _ _
  · exact hsealed _ _
  · exact hsealed _ _

theorem yields_toBuiltin (c : BuiltinClass) : Yields (.builtin c) (toBuiltin c token) := by
  cases c with
  | list | tuple | set | frozenSet => exact yields_ok (.builtin rfl nofun)
  | dict =>
      unfold toBuiltin
      dsimp only
      split
      · exact yields_ok (.builtin rfl nofun)
      · exact yields_error nofun
  | bytes | object => exact yields_error nofun
  | error name => exact yields_toError token name
  | other name => exact yields_toOther token name

end Token

namespace Ty

/-- What a type makes of a token is of the type. -/
theorem makes_convert (type : Ty) (token : String) : (type.convert token).Makes type := by
  cases type with
  | bool => exact (Token.yields_toBool token).makes
  | int => exact (Token.yields_toInteger token).makes
  | float => exact (Token.yields_toFloat token).makes
  | complex => exact (Token.yields_toComplex token).makes
  | decimal => exact (Token.yields_toDecimal token).makes
  | fraction => exact (Token.yields_toFraction token).makes
  | text => exact .object (.text token)
  | enumeration e => exact (Token.yields_toMember token e).makes
  | builtin c => exact (Token.yields_toBuiltin token c).makes
  | host home name => exact .host rfl _
  | _ => exact .problem nofun

/-- The zero of a number or of an enumeration is of its type. -/
theorem makes_blank {type : Ty} (h : (type.isPrimitive || type.isEnumeration) = true) :
    type.blank.Makes type := by
  cases type with
  | bool => exact .object (.bool false)
  | int => exact .object (.int 0)
  | float => exact .object (.float _)
  | complex => exact .object (.complex _ _)
  | decimal => exact .object (.decimal _)
  | fraction => exact .object (.fraction 0)
  | enumeration e => exact e.yields_zero.makes
  | _ => cases h

end Ty

end CommandConsole
