/-
The route along which a token is converted.

A token for a parameter leaves the argument out (`LeavesOut`), or the type of
the parameter decides on the route, if it can be looked up (`routed_route`).
No later proof about routes looks at the order in which the words and the
type are consulted.

There is no route for a type just if the type is not supported
(`routeByType_eq_unknown_iff`). A type that has no parser brings its own
conversion, and what that makes is of the type (`unparsed_route`).
-/
import CommandConsole.Parsers
import CommandConsole.Proofs.Ty.Instance

namespace CommandConsole.Parsers

variable {ρ : Type} {ps : Parsers ρ} {token : String} {p : Parameter} {type : Ty}

/-- A token leaves out the argument of a parameter: it is a word for the
absent object, and the argument may be absent or its type has no zero value,
or it is the word for the zero value, and the argument may be absent. -/
def LeavesOut (ps : Parsers ρ) (token : String) (p : Parameter) : Prop :=
  (p.nullable = true ∨ ps.isValueType p.type = false) ∧ Text.lower token ∈ nullWords
    ∨ p.nullable = true ∧ Text.lower token = "default"

/-- How the route of a token is found. -/
inductive Routed (ps : Parsers ρ) (token : String) (p : Parameter) :
    Except Problem (Route ρ) → Prop
  | leftOut (h : ps.LeavesOut token p) : Routed ps token p (.ok .absent)
  | byType (h : ¬ ps.LeavesOut token p) (hkey : key p.type = .ok p.type) :
      Routed ps token p (.ok (ps.routeByType token p.type))
  /-- The type cannot be looked up. -/
  | refused {cls : String} (hkey : key p.type = .error (.unhashable cls)) :
      Routed ps token p (.error (.unhashable cls))

theorem key_cases (type : Ty) :
    key type = .ok type ∨ ∃ cls, key type = .error (.unhashable cls) := by
  unfold key
  cases type.unhashable? with
  | none => exact .inl rfl
  | some cls => exact .inr ⟨cls, rfl⟩

theorem routed_route (ps : Parsers ρ) (token : String) (p : Parameter) :
    ps.Routed token p (ps.route token p) := by
  unfold route
  dsimp only
  cases hnullable : p.nullable with
  | true =>
      rw [if_pos rfl]
      split
      · next hword =>
        simp only [Bool.or_eq_true, List.contains_iff_mem, beq_iff_eq] at hword
        exact .leftOut (hword.imp (⟨.inl hnullable, ·⟩) (⟨hnullable, ·⟩))
      · next hword =>
        simp only [Bool.or_eq_true, List.contains_iff_mem, beq_iff_eq, not_or] at hword
        rcases key_cases p.type with hkey | ⟨cls, hkey⟩
        · rw [hkey]
          refine .byType ?_ hkey
          rintro (⟨-, hnull⟩ | ⟨-, hdefault⟩)
          · exact hword.1 hnull
          · exact hword.2 hdefault
        · rw [hkey]
          exact .refused hkey
  | false =>
      rw [if_neg Bool.false_ne_true]
      rcases key_cases p.type with hkey | ⟨cls, hkey⟩
      · rw [hkey]
        show ps.Routed token p (if _ then _ else _)
        split
        · next hword =>
          simp only [Bool.and_eq_true, Bool.not_eq_true', List.contains_iff_mem] at hword
          exact .leftOut (.inl ⟨.inr hword.1, hword.2⟩)
        · next hword =>
          simp only [Bool.and_eq_true, Bool.not_eq_true', List.contains_iff_mem] at hword
          refine .byType ?_ hkey
          rintro (⟨hmay | hmay, hnull⟩ | ⟨hmay, -⟩)
          · exact Bool.false_ne_true (hnullable.symm.trans hmay)
          · exact hword ⟨hmay, hnull⟩
          · exact Bool.false_ne_true (hnullable.symm.trans hmay)
      · rw [hkey]
        exact .refused hkey

/-- The program that a route leads to is a registered parser with the
token. -/
theorem exists_of_route_eq_parse {program : ρ} (h : ps.route token p = .ok (.parse program)) :
    ∃ e ∈ ps.entries, program = e.parse token := by
  have hrouted := ps.routed_route token p
  rw [h] at hrouted
  generalize hparse : Route.parse program = route at hrouted
  cases hrouted with
  | leftOut => cases hparse
  | byType =>
      unfold routeByType at hparse
      split at hparse
      · cases hparse
      · split at hparse
        · next e hentry =>
          cases hparse
          exact ⟨e, List.mem_of_find?_eq_some hentry, rfl⟩
        · split at hparse
          · cases hparse
          · cases hparse

-- ========================================================== no route at all

/-- A type that no route converts tokens for. -/
structure Unsupported (ps : Parsers ρ) (type : Ty) : Prop where
  key_eq : key type = .ok type
  supports_eq : ps.supports type = false

theorem entry?_eq_none (h : ps.contains type = false) : ps.entry? type = none :=
  Option.isNone_iff_eq_none.1 (by simpa [contains] using h)

/-- Without a parser a type has a zero value just if it is the type of a
number or an enumeration. -/
theorem isValueType_eq (h : ps.contains type = false) :
    ps.isValueType type = (type.isPrimitive || type.isEnumeration) := by
  simp [isValueType, default?, entry?_eq_none h]

theorem routeByType_eq_unknown_iff :
    ps.routeByType token type = .unknown ↔ ps.supports type = false := by
  unfold routeByType supports
  constructor
  · intro h
    split at h
    · cases h
    · split at h
      · cases h
      · next hentry =>
        split at h
        · cases h
        · next hclass => simp [contains, hentry, hclass]
  · intro h
    obtain ⟨hparser, hclass⟩ := Bool.or_eq_false_iff.1 h
    have hvalue : ps.isValueType type = false := by
      rw [isValueType_eq hparser]
      cases type with
      | bool | int | float | complex | decimal | fraction | enumeration => cases hclass
      | _ => rfl
    rw [hvalue, entry?_eq_none hparser, hclass]
    rfl

/-- Of a type that is not supported a token can say no more than that the
argument is left out. -/
theorem Unsupported.route_cases (h : ps.Unsupported p.type) (token : String) :
    ps.route token p = .ok .absent ∨ ps.route token p = .ok .unknown := by
  have hrouted := ps.routed_route token p
  cases hroute : ps.route token p with
  | error q =>
      rw [hroute] at hrouted
      cases hrouted with
      | refused hkey => cases h.key_eq.symm.trans hkey
  | ok route =>
      rw [hroute] at hrouted
      cases hrouted with
      | leftOut => exact .inl rfl
      | byType => exact .inr (congrArg Except.ok (routeByType_eq_unknown_iff.2 h.supports_eq))

theorem unsupported_of_route_eq_unknown (h : ps.route token p = .ok .unknown) :
    ps.Unsupported p.type := by
  have hrouted := ps.routed_route token p
  rw [h] at hrouted
  generalize hunknown : Route.unknown = route at hrouted
  cases hrouted with
  | leftOut => cases hunknown
  | byType _ hkey => exact ⟨hkey, routeByType_eq_unknown_iff.1 hunknown.symm⟩

-- ========================================================= types of their own

/-- The routes for a type that has no parser. -/
inductive Unparsed (ps : Parsers ρ) (token : String) (p : Parameter) :
    Except Problem (Route ρ) → Prop
  | leftOut (h : ps.LeavesOut token p) : Unparsed ps token p (.ok .absent)
  | made (h : ¬ ps.LeavesOut token p) {c : Conversion} (hmakes : c.Makes p.type)
      (htext : p.type = .text → c = .object (.text token)) : Unparsed ps token p (.ok (.convert c))
  | unknown : Unparsed ps token p (.ok .unknown)
  /-- The type cannot be looked up. -/
  | refused (cls : String) : Unparsed ps token p (.error (.unhashable cls))

/-- The zero value of a type that has no parser is of the type. -/
theorem makes_zero (h : ps.contains type = false) (hkey : key type = .ok type)
    (hvalue : ps.isValueType type = true) : (ps.zero type).Makes type := by
  have hdefault : ps.default? type = none := by
    unfold default?
    rw [entry?_eq_none h]
    rfl
  unfold zero
  rw [hkey]
  dsimp only
  rw [hdefault]
  exact Ty.makes_blank ((isValueType_eq h).symm.trans hvalue)

/-- A token for a type that has no parser leaves the argument out, or an
object of the type is made of it, if there is any way to make one. -/
theorem unparsed_route (h : ps.contains p.type = false) (token : String) :
    ps.Unparsed token p (ps.route token p) := by
  have hrouted := ps.routed_route token p
  generalize ps.route token p = result at hrouted
  cases hrouted with
  | leftOut hleft => exact .leftOut hleft
  | refused => exact .refused _
  | byType hkept hkey =>
      unfold routeByType
      split
      · next hzero =>
        have hvalue := (Bool.and_eq_true_iff.1 hzero).1
        refine .made hkept (makes_zero h hkey hvalue) fun htext => ?_
        rw [isValueType_eq h, htext] at hvalue
        cases hvalue
      · rw [entry?_eq_none h]
        dsimp only
        split
        · refine .made hkept (Ty.makes_convert p.type token) fun htext => ?_
          rw [htext]
          rfl
        · exact .unknown

end CommandConsole.Parsers
