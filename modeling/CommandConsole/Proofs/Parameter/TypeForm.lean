/-
The types that parameters are declared with.

A type is written by itself, or as optional, or as a union of others, or with bars in
between, and all of this inside each other (`TypeForm`). What is built of it is flat:
the members of unions in unions are members, none of them stands there twice, and a union
of one type is that type. So what reaches a parameter may be a plain type, or absent, where
a union was written.

A parameter is declared just if one type occurs in its form beside the absent object,
however often (`Parameter.declare_typeForm`). That is its type, so that no parameter has a
union for its type, and its argument may be absent just if the absent object occurs. No
other form declares a parameter.

The induction is on the form. It carries which types are gathered so far (`Ty.Gathers`): a
row goes on to have one type only, and to agree with another type, when members are put
together and repetitions left out.
-/
import CommandConsole.Parameter
import CommandConsole.Proofs.Ty.Union

namespace CommandConsole

-- =============================================================== type forms

/-- How the type of a parameter is written. -/
inductive TypeForm where
  /-- By itself; the absent object may stand for its class. -/
  | type (t : Ty)
  /-- As what may be absent. -/
  | optional (a : TypeForm)
  /-- As a union of some parts. -/
  | union (parts : List TypeForm)
  /-- As two parts with a bar in between. -/
  | bar (left right : TypeForm)

/-- A type is the absent object, or the class of it. -/
def Ty.isAbsent : Ty → Bool
  | .absent => true
  | .value .none => true
  | _ => false

/-- What an expression stands for if a type is written by itself. -/
def Ty.meaning : Ty → Meaning
  | .value .none => .object .none
  | t => .type t

namespace TypeForm

mutual

/-- What is built of a form. -/
def build : TypeForm → Except Problem Ty
  | .type t => .ok t
  | .optional a => do Ty.uniting [← a.build, .absent]
  | .union parts => do Ty.uniting (← buildAll parts)
  | .bar left right => do
      Reference.typeOf (← Expression.operate .either (← left.build).meaning (← right.build).meaning)

/-- What is built of the parts of a form. -/
def buildAll : List TypeForm → Except Problem (List Ty)
  | [] => .ok []
  | a :: rest => do return (← a.build) :: (← buildAll rest)

end

/-- The parameter with the given name, help text and form of its type. -/
def declare (a : TypeForm) (name descr : Object) : Except Problem Parameter := do
  Parameter.declare name descr (← a.build)

mutual

/-- The types that occur in a form beside the absent object, from left to right. -/
def types : TypeForm → List Ty
  | .type t => if t.isAbsent then [] else [t]
  | .optional a => a.types
  | .union parts => typesOfAll parts
  | .bar left right => left.types ++ right.types

/-- The types that occur in the parts of a form. -/
def typesOfAll : List TypeForm → List Ty
  | [] => []
  | a :: rest => a.types ++ typesOfAll rest

end

mutual

/-- The absent object occurs in a form. -/
def namesAbsent : TypeForm → Bool
  | .type t => t.isAbsent
  | .optional _ => true
  | .union parts => anyNamesAbsent parts
  | .bar left right => left.namesAbsent || right.namesAbsent

/-- The absent object occurs in a part of a form. -/
def anyNamesAbsent : List TypeForm → Bool
  | [] => false
  | a :: rest => a.namesAbsent || anyNamesAbsent rest

end

/-- A form can be written: no union is of no parts, and no bar stands between two
absent objects. -/
inductive IsWhole : TypeForm → Prop
  | type (t : Ty) : IsWhole (.type t)
  | optional {a : TypeForm} (h : IsWhole a) : IsWhole (.optional a)
  | union {parts : List TypeForm} (hne : parts ≠ []) (h : ∀ a ∈ parts, IsWhole a) :
      IsWhole (.union parts)
  | bar {left right : TypeForm} (hleft : IsWhole left) (hright : IsWhole right)
      (hne : ¬ (left = .type (.value .none) ∧ right = .type (.value .none))) :
      IsWhole (.bar left right)

end TypeForm

-- =================================================================== bars

namespace Ty

variable {s t u : Ty} {row more types others parts : List Ty} {absent absent' : Bool}

theorem unitable?_meaning (t : Ty) : Expression.unitable? t.meaning = some t := by
  unfold meaning
  split <;> rfl

theorem eq_none_of_meaning (h : t.meaning = .object .none) : t = .value .none := by
  unfold meaning at h
  split at h
  · rfl
  · cases h

theorem united?_meaning (h : ¬ (s = .value .none ∧ t = .value .none)) :
    Expression.united? s.meaning t.meaning = some (.type (unionOf true [s, t])) := by
  unfold Expression.united?
  split
  · next hs ht => exact absurd ⟨eq_none_of_meaning hs, eq_none_of_meaning ht⟩ h
  · rw [unitable?_meaning, unitable?_meaning]
    rfl

/-- A bar unites two types, unless both are the absent object. -/
theorem operate_either (h : ¬ (s = .value .none ∧ t = .value .none)) :
    (Expression.operate .either s.meaning t.meaning >>= Reference.typeOf)
      = .ok (unionOf true [s, t]) := by
  have hunited : Expression.operate .either s.meaning t.meaning
      = .ok (.type (unionOf true [s, t])) := by
    unfold Expression.operate
    rw [if_pos rfl, united?_meaning h]
    rfl
  rw [hunited]
  rfl

theorem eq_unionOf_of_operate
    (h : (Expression.operate .either s.meaning t.meaning >>= Reference.typeOf) = .ok u) :
    u = unionOf true [s, t] := by
  by_cases hnone : s = .value .none ∧ t = .value .none
  · obtain ⟨rfl, rfl⟩ := hnone
    cases h
  · exact (Except.ok.inj ((operate_either hnone).symm.trans h)).symm

theorem kind_of_operate {q : Problem}
    (h : (Expression.operate .either s.meaning t.meaning >>= Reference.typeOf) = .error q) :
    q.kind = .typeError := by
  by_cases hnone : s = .value .none ∧ t = .value .none
  · obtain ⟨rfl, rfl⟩ := hnone
    cases h
    rfl
  · cases (operate_either hnone).symm.trans h

-- =============================================================== gathering

/-- A row holds the types that occur in a form, repetitions left out, and the class
of the absent object if that occurs. -/
structure Gathers (row types : List Ty) (absent : Bool) : Prop where
  subset : ∀ u ∈ row, u = .absent ∨ u ∈ types
  alike : Alike (row.filter isPresent) types
  absent_iff : .absent ∈ row ↔ absent = true

theorem Gathers.append (h : Gathers row types absent) (h' : Gathers more others absent') :
    Gathers (row ++ more) (types ++ others) (absent || absent') := by
  refine ⟨fun u hu => ?_, ?_, ?_⟩
  · rcases List.mem_append.1 hu with hu | hu
    · exact (h.subset u hu).imp id (List.mem_append_left others)
    · exact (h'.subset u hu).imp id (List.mem_append_right types)
  · rw [List.filter_append]
    exact h.alike.append h'.alike
  · rw [List.mem_append, h.absent_iff, h'.absent_iff, Bool.or_eq_true]

theorem Gathers.distinct (h : Gathers row types absent) (htypes : ∀ u ∈ types, u.WellFormed) :
    Gathers (distinct [] row) types absent := by
  refine ⟨fun u hu => h.subset u (distinct_subset hu), ?_, ?_⟩
  · rw [filter_distinct isPresent_eq_of_same, List.filter_nil]
    refine (alike_distinct fun u hu => ?_).trans h.alike
    obtain ⟨hu, hpresent⟩ := List.mem_filter.1 hu
    exact htypes u ((h.subset u hu).resolve_left (isPresent_iff.1 hpresent))
  · rw [← h.absent_iff]
    refine ⟨fun hu => distinct_subset hu, fun hu => ?_⟩
    rcases exists_same_of_mem hu with hleft | ⟨s, hs, hsame⟩
    · exact hleft
    · rw [← same_absent_iff.1 hsame]
      exact hs.resolve_left nofun

/-- A union of parts whose types are gathered gathers them. -/
theorem Gathers.unionOf (h : Gathers (flattened parts) types absent)
    (hparts : ∀ u ∈ parts, u.IsFlat) (htypes : ∀ u ∈ types, u.WellFormed) (bars : Bool) :
    (unionOf bars parts).IsFlat ∧ Gathers (flattened [unionOf bars parts]) types absent := by
  have hsimple : ∀ u ∈ flattened parts, u.IsSimple := fun _ => isSimple_of_mem_flattened hparts
  rw [flattened_unionOf hsimple]
  exact ⟨isFlat_unionOf hsimple, h.distinct htypes⟩

theorem gathers_absent : Gathers [.absent] [] true := by
  refine ⟨fun u hu => .inl (List.mem_singleton.1 hu), ?_, iff_of_true List.mem_cons_self rfl⟩
  exact alike_refl []

/-- With the class of the absent object at the end, a row gathers that too. -/
theorem Gathers.optional (h : Gathers (flattened [t]) types absent) :
    Gathers (flattened [t, .absent]) types true := by
  have hboth := h.append gathers_absent
  rw [List.append_nil, Bool.or_true] at hboth
  rw [flattened_cons]
  exact hboth

theorem Gathers.unhashable?_eq_none (h : Gathers row types absent)
    (hkeys : ∀ u ∈ types, u.unhashable? = none) : ∀ u ∈ row, u.unhashable? = none := by
  intro u hu
  rcases h.subset u hu with rfl | hu
  · rfl
  · exact hkeys u hu

theorem eq_of_isAbsent (h : t.isAbsent = true) : t = .absent ∨ t = .value .none := by
  unfold isAbsent at h
  split at h
  · exact .inl rfl
  · exact .inr rfl
  · cases h

/-- The only type that is gathered is not that of the absent object. -/
theorem Gathers.isAbsent_eq_false (h : Gathers row types absent) (honly : t.IsOnly types)
    (hsimple : t.IsSimple) (hformed : t.WellFormed) : t.isAbsent = false := by
  have hmem : t ∈ row.filter isPresent := ((h.alike.only_iff t hformed).2 honly).mem
  refine Bool.eq_false_iff.2 fun habsent => ?_
  rcases eq_of_isAbsent habsent with rfl | rfl
  · exact isPresent_iff.1 (List.mem_filter.1 hmem).2 rfl
  · exact hsimple

theorem gathers_singleton (h : t ≠ .absent) : Gathers [t] [t] false := by
  refine ⟨fun u hu => .inr hu, ?_, iff_of_false (fun hu => h (List.mem_singleton.1 hu).symm) nofun⟩
  rw [List.filter_cons_of_pos (isPresent_iff.2 h)]
  exact alike_refl [t]

end Ty

namespace TypeForm

open Ty

mutual

/-- What is built of a form gathers the types that occur in it ... -/
theorem gathers_build : ∀ (a : TypeForm) {built : Ty},
    (∀ t ∈ a.types, t.IsSimple ∧ t.WellFormed) → a.build = .ok built →
      built.IsFlat ∧ Gathers (flattened [built]) a.types a.namesAbsent
  | .type t, built, htypes, h => by
      cases Except.ok.inj h
      rw [TypeForm.types, namesAbsent]
      cases habsent : t.isAbsent with
      | true =>
          rcases eq_of_isAbsent habsent with rfl | rfl
          · exact ⟨.simple trivial, gathers_absent⟩
          · exact ⟨.none, gathers_absent⟩
      | false =>
          have hsimple : t.IsSimple := (htypes t (by simp [TypeForm.types, habsent])).1
          rw [flattened_simple hsimple]
          refine ⟨.simple hsimple, gathers_singleton ?_⟩
          rintro rfl
          cases habsent
  | .optional a, built, htypes, h => by
      obtain ⟨t, ht, h⟩ := exists_of_bind_eq_ok h
      obtain ⟨hflat, hgathers⟩ := gathers_build a htypes ht
      have hparts : ∀ u ∈ [t, .absent], u.IsFlat := isFlat_pair hflat isFlat_absent
      rw [eq_unionOf_of_uniting hparts h]
      exact hgathers.optional.unionOf hparts (fun u hu => (htypes u hu).2) false
  | .union parts, built, htypes, h => by
      obtain ⟨row, hrow, h⟩ := exists_of_bind_eq_ok h
      obtain ⟨hflat, hgathers⟩ := gathers_buildAll parts htypes hrow
      rw [eq_unionOf_of_uniting hflat h]
      exact hgathers.unionOf hflat (fun u hu => (htypes u hu).2) false
  | .bar left right, built, htypes, h => by
      obtain ⟨s, hs, h⟩ := exists_of_bind_eq_ok h
      obtain ⟨t, ht, h⟩ := exists_of_bind_eq_ok h
      rw [TypeForm.types, List.forall_mem_append] at htypes
      obtain ⟨hflat, hgathers⟩ := gathers_build left htypes.1 hs
      obtain ⟨hflat', hgathers'⟩ := gathers_build right htypes.2 ht
      have hparts : ∀ u ∈ [s, t], u.IsFlat := isFlat_pair hflat hflat'
      rw [eq_unionOf_of_operate h]
      refine Gathers.unionOf ?_ hparts ?_ true
      · rw [flattened_cons]
        exact hgathers.append hgathers'
      · exact fun u hu => (List.mem_append.1 hu).elim (fun hu => (htypes.1 u hu).2)
          fun hu => (htypes.2 u hu).2

/-- ... and what is built of its parts those of the parts. -/
theorem gathers_buildAll : ∀ (parts : List TypeForm) {row : List Ty},
    (∀ t ∈ typesOfAll parts, t.IsSimple ∧ t.WellFormed) → buildAll parts = .ok row →
      (∀ t ∈ row, t.IsFlat) ∧ Gathers (flattened row) (typesOfAll parts) (anyNamesAbsent parts)
  | [], row, _, h => by
      cases Except.ok.inj h
      exact ⟨nofun, nofun, alike_refl [], iff_of_false nofun nofun⟩
  | a :: rest, row, htypes, h => by
      obtain ⟨t, ht, h⟩ := exists_of_bind_eq_ok h
      obtain ⟨ts, hts, h⟩ := exists_of_bind_eq_ok h
      rw [typesOfAll, List.forall_mem_append] at htypes
      obtain ⟨hflat, hgathers⟩ := gathers_build a htypes.1 ht
      obtain ⟨hflats, hgathers'⟩ := gathers_buildAll rest htypes.2 hts
      cases Except.ok.inj h
      rw [flattened_cons]
      exact ⟨List.forall_mem_cons.2 ⟨hflat, hflats⟩, hgathers.append hgathers'⟩

end

-- ================================================================= failing

mutual

/-- What keeps a form from being built is a wrong type ... -/
theorem kind_of_build : ∀ (a : TypeForm) {q : Problem},
    (∀ t ∈ a.types, t.IsSimple ∧ t.WellFormed) → a.build = .error q → q.kind = .typeError
  | .type _, _, _, h => by cases h
  | .optional a, q, htypes, h => by
      rcases bind_eq_error_iff.1 h with h | ⟨t, ht, h⟩
      · exact kind_of_build a htypes h
      · exact kind_of_uniting (isFlat_pair (gathers_build a htypes ht).1 isFlat_absent) h
  | .union parts, q, htypes, h => by
      rcases bind_eq_error_iff.1 h with h | ⟨row, hrow, h⟩
      · exact kind_of_buildAll parts htypes h
      · exact kind_of_uniting (gathers_buildAll parts htypes hrow).1 h
  | .bar left right, q, htypes, h => by
      rw [TypeForm.types, List.forall_mem_append] at htypes
      rcases bind_eq_error_iff.1 h with h | ⟨s, -, h⟩
      · exact kind_of_build left htypes.1 h
      · rcases bind_eq_error_iff.1 h with h | ⟨t, -, h⟩
        · exact kind_of_build right htypes.2 h
        · exact kind_of_operate h

/-- ... and so it is with its parts. -/
theorem kind_of_buildAll : ∀ (parts : List TypeForm) {q : Problem},
    (∀ t ∈ typesOfAll parts, t.IsSimple ∧ t.WellFormed) → buildAll parts = .error q →
      q.kind = .typeError
  | [], _, _, h => by cases h
  | a :: rest, q, htypes, h => by
      rw [typesOfAll, List.forall_mem_append] at htypes
      rcases bind_eq_error_iff.1 h with h | ⟨t, -, h⟩
      · exact kind_of_build a htypes.1 h
      · rcases bind_eq_error_iff.1 h with h | ⟨ts, -, h⟩
        · exact kind_of_buildAll rest htypes.2 h
        · cases h

end

-- ================================================================ existence

variable {a : TypeForm} {parts : List TypeForm} {built : Ty}

/-- Only the absent object by itself is built to the absent object itself. -/
theorem eq_type_of_build (htypes : ∀ t ∈ a.types, t.IsSimple ∧ t.WellFormed)
    (h : a.build = .ok (.value .none)) : a = .type (.value .none) := by
  cases a with
  | type t => rw [Except.ok.inj h]
  | optional a =>
      obtain ⟨t, ht, h⟩ := exists_of_bind_eq_ok h
      have hflat : ∀ u ∈ [t, .absent], u.IsFlat :=
        isFlat_pair (gathers_build a htypes ht).1 isFlat_absent
      exact absurd (eq_unionOf_of_uniting hflat h).symm (unionOf_ne_none hflat)
  | union parts =>
      obtain ⟨row, hrow, h⟩ := exists_of_bind_eq_ok h
      have hflat := (gathers_buildAll parts htypes hrow).1
      exact absurd (eq_unionOf_of_uniting hflat h).symm (unionOf_ne_none hflat)
  | bar left right =>
      obtain ⟨s, hs, h⟩ := exists_of_bind_eq_ok h
      obtain ⟨t, ht, h⟩ := exists_of_bind_eq_ok h
      rw [TypeForm.types, List.forall_mem_append] at htypes
      have hflat : ∀ u ∈ [s, t], u.IsFlat :=
        isFlat_pair (gathers_build left htypes.1 hs).1 (gathers_build right htypes.2 ht).1
      exact absurd (eq_unionOf_of_operate h).symm (unionOf_ne_none hflat)

theorem types_subset_typesOfAll (ha : a ∈ parts) : a.types ⊆ typesOfAll parts := by
  induction parts with
  | nil => cases ha
  | cons first rest ih =>
      rw [typesOfAll]
      rcases List.mem_cons.1 ha with rfl | ha
      · exact List.subset_append_left _ _
      · exact List.subset_append_of_subset_right _ (ih ha)

theorem exists_buildAll (h : ∀ a ∈ parts, ∃ built, a.build = .ok built) :
    ∃ row, buildAll parts = .ok row ∧ row.length = parts.length := by
  induction parts with
  | nil => exact ⟨[], rfl, rfl⟩
  | cons first rest ih =>
      rw [List.forall_mem_cons] at h
      obtain ⟨t, ht⟩ := h.1
      obtain ⟨row, hrow, hlength⟩ := ih h.2
      refine ⟨t :: row, ?_, congrArg (· + 1) hlength⟩
      rw [buildAll, ht, hrow]
      rfl

/-- A form that can be written is built if the types that occur in it can be keys. -/
theorem IsWhole.exists_build (hwhole : a.IsWhole)
    (htypes : ∀ t ∈ a.types, t.IsSimple ∧ t.WellFormed)
    (hkeys : ∀ t ∈ a.types, t.unhashable? = none) : ∃ built, a.build = .ok built := by
  induction hwhole with
  | type t => exact ⟨t, rfl⟩
  | @optional a _ ih =>
      obtain ⟨t, ht⟩ := ih htypes hkeys
      obtain ⟨hflat, hgathers⟩ := gathers_build a htypes ht
      refine ⟨Ty.unionOf false [t, .absent], ?_⟩
      rw [build, ht]
      exact uniting_eq_ok (List.cons_ne_nil _ _) (isFlat_pair hflat isFlat_absent)
        (hgathers.optional.unhashable?_eq_none hkeys)
  | @union parts hne _ ih =>
      have hparts : ∀ a ∈ parts, ∃ built, a.build = .ok built := fun a ha =>
        ih a ha (fun t ht => htypes t (types_subset_typesOfAll ha ht))
          fun t ht => hkeys t (types_subset_typesOfAll ha ht)
      obtain ⟨row, hrow, hlength⟩ := exists_buildAll hparts
      obtain ⟨hflat, hgathers⟩ := gathers_buildAll parts htypes hrow
      have hrow_ne : row ≠ [] := by
        rintro rfl
        exact hne (List.length_eq_zero_iff.1 hlength.symm)
      refine ⟨Ty.unionOf false row, ?_⟩
      rw [build, hrow]
      exact uniting_eq_ok hrow_ne hflat (hgathers.unhashable?_eq_none hkeys)
  | @bar left right _ _ hne ihleft ihright =>
      rw [TypeForm.types, List.forall_mem_append] at htypes hkeys
      obtain ⟨s, hs⟩ := ihleft htypes.1 hkeys.1
      obtain ⟨t, ht⟩ := ihright htypes.2 hkeys.2
      refine ⟨Ty.unionOf true [s, t], ?_⟩
      rw [build, hs, ht]
      refine operate_either ?_
      rintro ⟨rfl, rfl⟩
      exact hne ⟨eq_type_of_build htypes.1 hs, eq_type_of_build htypes.2 ht⟩

end TypeForm

-- ============================================================== parameters

namespace Parameter

open Ty

variable {built t : Ty} {members types : List Ty} {absent bars : Bool}

theorem resolve_simple (h : t.IsSimple) (hne : t ≠ .absent) : resolve t = .ok (t, false) := by
  cases t with
  | value x =>
      cases x with
      | «sealed» => rfl
      | _ => cases h
  | union => cases h
  | absent => exact absurd rfl hne
  | _ => rfl

theorem resolve_union_of_eq (h : members.filter isPresent = [t]) (hlength : members.length ≠ 1) :
    resolve (.union bars members) = .ok (t, true) := by
  unfold isPresent at h
  rw [resolve, h]
  exact if_neg hlength

theorem resolve_union_of_ne (h : ∀ t, members.filter isPresent ≠ [t]) :
    resolve (.union bars members) = .error .severalTypes := by
  unfold isPresent at h
  rw [resolve]
  split
  · next t heq => exact absurd heq (h t)
  · rfl

/-- Among other types than the one, a union of several that are not the same has the absent
object. -/
theorem absent_mem_of_filter_eq (h : members.filter isPresent = [t])
    (hlength : members.length ≠ 1) : .absent ∈ members := by
  by_contra hmem
  have hall : members.filter isPresent = members := by
    refine List.filter_eq_self.2 fun u hu => isPresent_iff.2 ?_
    rintro rfl
    exact hmem hu
  rw [← hall, h] at hlength
  exact hlength rfl

section

variable (hflat : built.IsFlat) (hgathers : Gathers (flattened [built]) types absent)
  (htypes : ∀ u ∈ types, u.WellFormed)

include hflat hgathers htypes

/-- The only type that occurs in a form is what the parameter gets. -/
theorem resolve_of_isOnly (h : t.IsOnly types) : resolve built = .ok (t, absent) := by
  have honly := (hgathers.alike.only_iff t (htypes t h.mem)).2 h
  cases hflat with
  | simple hsimple =>
      rw [flattened_simple hsimple] at hgathers honly
      by_cases hne : built = .absent
      · subst hne
        exact absurd honly (by rintro ⟨_, ⟨⟩, _⟩)
      · rw [List.filter_cons_of_pos (isPresent_iff.2 hne), List.filter_nil,
          isOnly_singleton] at honly
        have habsent : absent = false := Bool.eq_false_iff.2 fun h' =>
          hne (List.mem_singleton.1 (hgathers.absent_iff.2 h')).symm
        rw [honly, habsent]
        exact resolve_simple hsimple hne
  | none => exact absurd honly (by rintro ⟨_, ⟨⟩, _⟩)
  | @union bars members _ hapart hlength =>
      rw [flattened, flattened, List.append_nil] at hgathers honly
      have hone := honly.eq_singleton (hapart.filter isPresent)
      rw [hgathers.absent_iff.1 (absent_mem_of_filter_eq hone hlength)]
      exact resolve_union_of_eq hone hlength

/-- If several types occur, or none, a parameter gets none. -/
theorem resolve_of_not_isOnly (h : ∀ t : Ty, ¬ t.IsOnly types) :
    ∃ q, resolve built = .error q := by
  have honly : ∀ t : Ty, t.IsOnly ((flattened [built]).filter isPresent) → False := by
    intro t ht
    obtain ⟨hmem, hpresent⟩ := List.mem_filter.1 ht.mem
    have hformed := htypes t ((hgathers.subset t hmem).resolve_left (isPresent_iff.1 hpresent))
    exact h t ((hgathers.alike.only_iff t hformed).1 ht)
  cases hflat with
  | simple hsimple =>
      rw [flattened_simple hsimple] at honly
      by_cases hne : built = .absent
      · subst hne
        exact ⟨_, rfl⟩
      · rw [List.filter_cons_of_pos (isPresent_iff.2 hne), List.filter_nil] at honly
        exact (honly built (isOnly_singleton.2 rfl)).elim
  | none => exact ⟨_, rfl⟩
  | union =>
      rw [flattened, flattened, List.append_nil] at honly
      refine ⟨_, resolve_union_of_ne fun t heq => honly t ?_⟩
      rw [heq]
      exact isOnly_singleton.2 rfl

end

/-- With a name and a help text, the type decides whether a parameter is declared. -/
theorem declare_texts {name : String} (hname : Text.trim name ≠ "") (descr : String) (type : Ty) :
    declare (.text name) (.text descr) type
      = (resolve type).map fun found =>
          ⟨Text.trim name, Text.trim descr, found.1.frozen, found.2⟩ := by
  unfold declare
  simp only [if_neg hname]
  cases resolve type with
  | ok found => rfl
  | error q => rfl

theorem kind_of_resolve {q : Problem} (h : resolve t = .error q) : q.kind = .typeError := by
  unfold resolve at h
  repeat' split at h
  all_goals cases h
  all_goals rfl

/-- No other fault is left then than that of a wrong type. -/
theorem kind_of_declare {name descr : String} (hname : Text.trim name ≠ "") {q : Problem}
    (h : declare (.text name) (.text descr) t = .error q) : q.kind = .typeError := by
  rw [declare_texts hname] at h
  cases hfound : resolve t with
  | ok found =>
      rw [hfound] at h
      cases h
  | error q' =>
      rw [hfound] at h
      cases h
      exact kind_of_resolve hfound

theorem frozen_simple (h : t.IsSimple) : t.frozen = t := by
  cases t with
  | value x =>
      cases x with
      | «sealed» => rfl
      | _ => cases h
  | _ => rfl

section

variable {a : TypeForm} (htypes : ∀ t ∈ a.types, t.IsSimple ∧ t.WellFormed)
  {name : String} (hname : Text.trim name ≠ "") (descr : String)

include htypes hname

theorem declare_eq_ok_of_isOnly (hbuilt : a.build = .ok built) (h : t.IsOnly a.types) :
    a.declare (.text name) (.text descr)
      = .ok ⟨Text.trim name, Text.trim descr, t, a.namesAbsent⟩ := by
  obtain ⟨hflat, hgathers⟩ := a.gathers_build htypes hbuilt
  have hresolve : resolve built = .ok (t, a.namesAbsent) :=
    resolve_of_isOnly hflat hgathers (fun u hu => (htypes u hu).2) h
  rw [TypeForm.declare, hbuilt]
  refine (declare_texts hname descr built).trans ?_
  rw [hresolve, Except.map, frozen_simple (htypes t h.mem).1]

theorem exists_isOnly_of_declare_eq_ok {p : Parameter}
    (h : a.declare (.text name) (.text descr) = .ok p) : ∃ t : Ty, t.IsOnly a.types := by
  by_contra hnone
  obtain ⟨built, hbuilt, h⟩ := exists_of_bind_eq_ok h
  obtain ⟨hflat, hgathers⟩ := a.gathers_build htypes hbuilt
  obtain ⟨q, hq⟩ :=
    resolve_of_not_isOnly hflat hgathers (fun u hu => (htypes u hu).2) (not_exists.1 hnone)
  rw [declare_texts hname, hq] at h
  cases h

theorem declare_eq_ok_iff {p : Parameter} :
    a.declare (.text name) (.text descr) = .ok p
      ↔ (∃ built, a.build = .ok built)
        ∧ ∃ t : Ty, t.IsOnly a.types
          ∧ p = ⟨Text.trim name, Text.trim descr, t, a.namesAbsent⟩ := by
  constructor
  · intro hp
    obtain ⟨built, hbuilt, -⟩ := exists_of_bind_eq_ok hp
    obtain ⟨t, ht⟩ := exists_isOnly_of_declare_eq_ok htypes hname descr hp
    have heq := declare_eq_ok_of_isOnly htypes hname descr hbuilt ht
    exact ⟨⟨built, hbuilt⟩, t, ht, Except.ok.inj (hp.symm.trans heq)⟩
  · rintro ⟨⟨built, hbuilt⟩, t, ht, rfl⟩
    exact declare_eq_ok_of_isOnly htypes hname descr hbuilt ht

end

/-- A parameter is declared with a form just if that can be built and one type occurs in it
beside the absent object. The parameter has that type, which is no union and not absent,
and its argument may be absent just if the absent object occurs. In all other cases the
fault is that of a wrong type. A form of no empty unions can be built if its types can be
keys and no bar stands between two absent objects. -/
theorem declare_typeForm {a : TypeForm}
    (htypes : ∀ t ∈ a.types, t.IsSimple ∧ t.WellFormed)
    {name : String} (hname : Text.trim name ≠ "") (descr : String) :
    (∀ p, a.declare (.text name) (.text descr) = .ok p
        ↔ (∃ built, a.build = .ok built)
          ∧ ∃ t : Ty, t.IsOnly a.types
            ∧ p = ⟨Text.trim name, Text.trim descr, t, a.namesAbsent⟩)
      ∧ (∀ p, a.declare (.text name) (.text descr) = .ok p →
          (∀ bars members, p.type ≠ .union bars members) ∧ p.type.isAbsent = false)
      ∧ (∀ q, a.declare (.text name) (.text descr) = .error q → q.kind = .typeError)
      ∧ (a.IsWhole → (∀ t ∈ a.types, t.unhashable? = none) →
          ∃ built, a.build = .ok built) := by
  refine ⟨fun p => declare_eq_ok_iff htypes hname descr, fun p hp => ?_, fun q hq => ?_,
    fun hwhole => hwhole.exists_build htypes⟩
  · obtain ⟨⟨built, hbuilt⟩, t, ht, rfl⟩ := (declare_eq_ok_iff htypes hname descr).1 hp
    obtain ⟨hsimple, hformed⟩ := htypes t ht.mem
    have hgathers := (a.gathers_build htypes hbuilt).2
    refine ⟨?_, hgathers.isAbsent_eq_false ht hsimple hformed⟩
    rintro bars members rfl
    exact hsimple
  · rcases bind_eq_error_iff.1 hq with hq | ⟨built, -, hq⟩
    · exact a.kind_of_build htypes hq
    · exact kind_of_declare hname hq

/-- A list of numbers that is written twice and is optional three times over is one type,
and may be absent. -/
theorem declare_typeForm_list :
    (TypeForm.bar
        (.optional (.union [.type (.generic .list [.int]),
          .optional (.type (.generic .list [.int]))]))
        (.type (.value .none))).declare (.text " sizes ") (.text "")
      = .ok ⟨"sizes", "", .generic .list [.int], true⟩ := by
  have hname : Text.trim " sizes " = "sizes" := by decide
  have hint : Ty.int.WellFormed := .of nofun nofun
  have hlist : (Ty.generic .list [.int]).WellFormed :=
    .of (List.forall_mem_singleton.2 hint) nofun
  refine ((declare_typeForm ?_ (hname ▸ by decide) "").1 _).2 ⟨⟨_, rfl⟩, _, ⟨_, rfl, ?_⟩, ?_⟩
  · change ∀ t ∈ [Ty.generic .list [.int], .generic .list [.int]], t.IsSimple ∧ t.WellFormed
    exact List.forall_mem_cons.2
      ⟨⟨trivial, hlist⟩, List.forall_mem_singleton.2 ⟨trivial, hlist⟩⟩
  · exact List.forall_mem_singleton.2 rfl
  · rw [hname]
    rfl

end Parameter

end CommandConsole
