/-
The zero value that a type has by itself.

Each class of numbers has one, and an enumeration has one if it has a member: the
one for zero, or the first. Flags have one in any case, since they can be combined to
none. Only an enumeration can be without (`blank_cases`): if it has no members, or if
an object that is no operation is in the place of the one that searches for a member.
-/
import CommandConsole.Ty.Conversion

namespace CommandConsole

namespace Number

theorem commonBits_zero (n : Int) : commonBits n 0 = 0 := by
  cases n with
  | ofNat n => simp [commonBits]
  | negSucc n => simp [commonBits]

theorem zero_commonBits (n : Int) : commonBits 0 n = 0 := by
  cases n with
  | ofNat n => simp [commonBits]
  | negSucc n => simp [commonBits]

end Number

namespace Enumeration

variable {e : Enumeration}

/-- Zero stands for no bits. -/
theorem bitsFor_zero (e : Enumeration) : e.bitsFor 0 = 0 := by
  have hspan : 0 < e.span := Int.pow_pos (by decide)
  have hforeign : e.isForeign 0 = false := by
    simp [isForeign, Number.zero_commonBits]
    omega
  simp [bitsFor, hforeign, bitsFor.fromEnd]

/-- Among flags that have no member for zero, zero stands for the combination of
none. -/
theorem flagged_zero (h : e.memberWith? (.int 0) = none) :
    e.flagged 0 = .member e.cls none (.int 0) [] := by
  have hparts : e.partsOf 0 = [] := by
    simp [partsOf, Number.commonBits_zero]
  simp [flagged, bitsFor_zero, Number.zero_commonBits, h, combination, hparts]

end Enumeration

/-- An object is the zero value that a type has by itself: of an enumeration the
member for zero, among flags the combination of none, or else the first member. -/
inductive Ty.IsZero : Ty → Object → Prop
  | bool : IsZero .bool (.bool false)
  | int : IsZero .int (.int 0)
  | float : IsZero .float (.float .zero)
  | complex : IsZero .complex (.complex .zero .zero)
  | decimal : IsZero .decimal (.decimal .zero)
  | fraction : IsZero .fraction (.fraction 0)
  | member {e : Enumeration} {x : Object} (h : e.memberWith? (.int 0) = some x) :
      IsZero (.enumeration e) x
  | combination {e : Enumeration} (h : e.memberWith? (.int 0) = none) (hsearch : e.search? = none)
      (hflags : e.cls.hasFlags = true) :
      IsZero (.enumeration e) (.member e.cls none (.int 0) [])
  | first {e : Enumeration} {x : Object} (h : e.memberWith? (.int 0) = none)
      (hsearch : e.search? = none) (hflags : e.cls.hasFlags = false)
      (hfirst : e.members.head? = some x) : IsZero (.enumeration e) x

/-- What a number or an enumeration makes of nothing is its zero value, and an
enumeration without one refuses. -/
theorem Ty.blank_cases {type : Ty} (h : type.isPrimitive = true ∨ type.isEnumeration = true) :
    (∃ x, type.IsZero x ∧ type.blank = .object x)
      ∨ type.isEnumeration = true ∧ (∀ x, ¬ type.IsZero x) ∧ ∃ q, type.blank = .problem q := by
  cases type with
  | bool => exact .inl ⟨_, .bool, rfl⟩
  | int => exact .inl ⟨_, .int, rfl⟩
  | float => exact .inl ⟨_, .float, rfl⟩
  | complex => exact .inl ⟨_, .complex, rfl⟩
  | decimal => exact .inl ⟨_, .decimal, rfl⟩
  | fraction => exact .inl ⟨_, .fraction, rfl⟩
  | enumeration e =>
      unfold blank Enumeration.zero Enumeration.ofNumber
      cases hmember : e.memberWith? (.int 0) with
      | some x => exact .inl ⟨x, .member hmember, rfl⟩
      | none =>
          cases hsearch : e.search? with
          | some y =>
              refine .inr ⟨rfl, fun x hx => ?_, _, rfl⟩
              cases hx with
              | member h => cases hmember.symm.trans h
              | combination _ h | first _ h => cases hsearch.symm.trans h
          | none =>
              cases hflags : e.cls.hasFlags with
              | true =>
                  refine .inl ⟨_, .combination hmember hsearch hflags, ?_⟩
                  dsimp only
                  rw [if_pos rfl, Enumeration.flagged_zero hmember]
                  rfl
              | false =>
                  cases hmembers : e.members with
                  | cons x rest =>
                      refine .inl ⟨x, .first hmember hsearch hflags ?_, rfl⟩
                      rw [hmembers]
                      rfl
                  | nil =>
                      refine .inr ⟨rfl, fun x hx => ?_, _, rfl⟩
                      cases hx with
                      | member h => cases hmember.symm.trans h
                      | combination _ _ h => cases hflags.symm.trans h
                      | first _ _ _ h => cases (congrArg List.head? hmembers).symm.trans h
  | _ => cases h with
    | inl h => cases h
    | inr h => cases h

end CommandConsole
