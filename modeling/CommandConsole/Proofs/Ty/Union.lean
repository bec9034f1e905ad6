/-
Unions of types.

A union is made of a row of types: the members of unions in it are members, and
repetitions are left out. What is left of a row is in it, no two types of it are the same,
and whatever is left out is the same as something that is left.

Two questions about a row do not depend on repetitions: which type is the only one of it,
and what all types of it are the same as (`Alike`). Being the same must be transitive for
this, since types that are left out are compared with those that are left alone.

A union is then flat (`IsFlat`), or just a type if there was only one.
-/
import CommandConsole.Proofs.Command.Identifiers
import CommandConsole.Proofs.Ty.Equality
import CommandConsole.Ty.Reference

namespace CommandConsole

namespace Ty

variable {s t u : Ty} {row more types others parts : List Ty} {seen : List Ty} {bars : Bool}

-- ================================================================ one type

/-- A type is the only one of a row, which may hold it more than once. -/
def IsOnly (t : Ty) (row : List Ty) : Prop :=
  ∃ others, row = t :: others ∧ ∀ u ∈ others, t.same u = true

theorem IsOnly.mem (h : t.IsOnly row) : t ∈ row := by
  obtain ⟨others, rfl, -⟩ := h
  exact List.mem_cons_self

theorem isOnly_singleton : t.IsOnly [s] ↔ t = s := by
  constructor
  · rintro ⟨others, hrow, -⟩
    exact (List.cons.inj hrow).1.symm
  · rintro rfl
    exact ⟨[], rfl, nofun⟩

theorem isOnly_append : t.IsOnly (row ++ more)
    ↔ row = [] ∧ t.IsOnly more ∨ t.IsOnly row ∧ ∀ u ∈ more, t.same u = true := by
  cases row with
  | nil => simp [IsOnly]
  | cons first rest =>
      simp only [IsOnly, List.cons_append, List.cons.injEq, reduceCtorEq, false_and, false_or]
      constructor
      · rintro ⟨_, ⟨rfl, rfl⟩, hsame⟩
        exact ⟨⟨rest, ⟨rfl, rfl⟩, fun u hu => hsame u (List.mem_append_left more hu)⟩,
          fun u hu => hsame u (List.mem_append_right rest hu)⟩
      · rintro ⟨⟨_, ⟨rfl, rfl⟩, hrest⟩, hmore⟩
        exact ⟨_, ⟨rfl, rfl⟩, fun u hu => (List.mem_append.1 hu).elim (hrest u) (hmore u)⟩

/-- Where no two types of a row are the same, the only one stands there once. -/
theorem IsOnly.eq_singleton (h : t.IsOnly row)
    (hapart : row.Pairwise fun s u => s.same u = false) : row = [t] := by
  obtain ⟨_ | ⟨first, rest⟩, rfl, hsame⟩ := h
  · rfl
  · have hne := (List.pairwise_cons.1 hapart).1 first List.mem_cons_self
    exact absurd (hsame first List.mem_cons_self) (hne ▸ Bool.false_ne_true)

-- ============================================================= repetitions

theorem distinct_subset : distinct seen row ⊆ row := by
  induction row generalizing seen with
  | nil => exact List.Subset.refl _
  | cons t rest ih =>
      rw [distinct]
      split
      · exact List.subset_cons_of_subset t ih
      · exact List.cons_subset_cons t ih

/-- What is left of a row is not the same as what was there before ... -/
theorem same_eq_false_of_mem_distinct (hs : s ∈ seen) (hu : u ∈ distinct seen row) :
    s.same u = false := by
  induction row generalizing seen with
  | nil => cases hu
  | cons t rest ih =>
      rw [distinct] at hu
      split at hu
      · exact ih hs hu
      · next hnew =>
          rcases List.mem_cons.1 hu with rfl | hu
          · simp only [List.any_eq_true, not_exists, not_and, Bool.not_eq_true] at hnew
            exact hnew s hs
          · exact ih (List.mem_cons_of_mem _ hs) hu

/-- ... no two types of it are the same ... -/
theorem pairwise_distinct : (distinct seen row).Pairwise fun s u => s.same u = false := by
  induction row generalizing seen with
  | nil => exact .nil
  | cons t rest ih =>
      rw [distinct]
      split
      · exact ih
      · exact .cons (fun u hu => same_eq_false_of_mem_distinct List.mem_cons_self hu) ih

/-- ... and what is left out is the same as something that is left or was there before. -/
theorem exists_same_of_mem (hu : u ∈ row) :
    u ∈ distinct seen row ∨ ∃ s, (s ∈ seen ∨ s ∈ distinct seen row) ∧ s.same u = true := by
  induction row generalizing seen with
  | nil => cases hu
  | cons t rest ih =>
      rw [distinct]
      split
      · next hold =>
          rcases List.mem_cons.1 hu with rfl | hu
          · obtain ⟨s, hs, hsame⟩ := List.any_eq_true.1 hold
            exact .inr ⟨s, .inl hs, hsame⟩
          · exact ih hu
      · rcases List.mem_cons.1 hu with rfl | hu
        · exact .inl List.mem_cons_self
        · rcases @ih (t :: seen) hu with hleft | ⟨s, hs, hsame⟩
          · exact .inl (List.mem_cons_of_mem t hleft)
          · refine .inr ⟨s, ?_, hsame⟩
            rcases hs with hs | hs
            · exact (List.mem_cons.1 hs).elim (fun heq => .inr (heq ▸ List.mem_cons_self)) .inl
            · exact .inr (List.mem_cons_of_mem t hs)

/-- Types of a kind can be left out before repetitions are, if being the same does not tell
what is of the kind from what is not. -/
theorem filter_distinct {p : Ty → Bool} (hp : ∀ {s u : Ty}, s.same u = true → p s = p u) :
    (distinct seen row).filter p = distinct (seen.filter p) (row.filter p) := by
  induction row generalizing seen with
  | nil => rfl
  | cons t rest ih =>
      cases hkind : p t with
      | false =>
          rw [List.filter_cons_of_neg (by simp [hkind]), distinct]
          split
          · exact ih
          · rw [List.filter_cons_of_neg (by simp [hkind]), ih,
              List.filter_cons_of_neg (by simp [hkind])]
      | true =>
          -- what is the same as a type of the kind was there before just if one of the kind was
          have hany : ((seen.filter p).any fun s => s.same t) = seen.any fun s => s.same t := by
            rw [List.any_filter, Bool.eq_iff_iff, List.any_eq_true, List.any_eq_true]
            refine exists_congr fun s => and_congr_right fun _ => ?_
            rw [Bool.and_eq_true]
            exact and_iff_right_of_imp fun hsame => (hp hsame).trans hkind
          rw [List.filter_cons_of_pos hkind, distinct, distinct, hany]
          split
          · exact ih
          · rw [List.filter_cons_of_pos hkind, ih, List.filter_cons_of_pos hkind]

-- ======================================================== rows that agree

/-- Two rows of types agree on which type is the only one, and on which types are the same
as all of them. -/
structure Alike (row types : List Ty) : Prop where
  nil_iff : row = [] ↔ types = []
  only_iff : ∀ t : Ty, t.WellFormed → (t.IsOnly row ↔ t.IsOnly types)
  all_iff : ∀ t : Ty, t.WellFormed →
    ((∀ u ∈ row, t.same u = true) ↔ ∀ u ∈ types, t.same u = true)

theorem alike_refl (row : List Ty) : Alike row row :=
  ⟨Iff.rfl, fun _ _ => Iff.rfl, fun _ _ => Iff.rfl⟩

theorem Alike.trans (h : Alike row more) (h' : Alike more types) : Alike row types :=
  ⟨h.nil_iff.trans h'.nil_iff, fun t ht => (h.only_iff t ht).trans (h'.only_iff t ht),
    fun t ht => (h.all_iff t ht).trans (h'.all_iff t ht)⟩

theorem Alike.append (h : Alike row types) (h' : Alike more others) :
    Alike (row ++ more) (types ++ others) := by
  refine ⟨?_, fun t ht => ?_, fun t ht => ?_⟩
  · rw [List.append_eq_nil_iff, List.append_eq_nil_iff, h.nil_iff, h'.nil_iff]
  · rw [isOnly_append, isOnly_append, h.nil_iff, h.only_iff t ht, h'.only_iff t ht,
      h'.all_iff t ht]
  · rw [List.forall_mem_append, List.forall_mem_append, h.all_iff t ht, h'.all_iff t ht]

/-- Repetitions do not matter for this. -/
theorem alike_distinct (hrow : ∀ u ∈ row, u.WellFormed) : Alike (distinct [] row) row := by
  have hcons : ∀ first rest, distinct [] (first :: rest) = first :: distinct [first] rest :=
    fun _ _ => rfl
  refine ⟨?_, fun t ht => ?_, fun t ht => ?_⟩
  · cases row with
    | nil => exact Iff.rfl
    | cons first rest => simp [hcons]
  · cases row with
    | nil => exact Iff.rfl
    | cons first rest =>
        rw [hcons]
        constructor
        · rintro ⟨_, ⟨⟩, hleft⟩
          refine ⟨rest, rfl, fun u hu => ?_⟩
          rcases exists_same_of_mem hu with hmem | ⟨s, hs | hs, hsame⟩
          · exact hleft u hmem
          · rwa [← List.mem_singleton.1 hs]
          · have hne := same_eq_false_of_mem_distinct List.mem_cons_self hs
            exact absurd (hleft s hs) (hne ▸ Bool.false_ne_true)
        · rintro ⟨_, ⟨⟩, hsame⟩
          exact ⟨_, rfl, fun u hu => hsame u (distinct_subset hu)⟩
  · refine ⟨fun h u hu => ?_, fun h u hu => h u (distinct_subset hu)⟩
    rcases exists_same_of_mem hu with hleft | ⟨s, hs, hsame⟩
    · exact h u hleft
    · have hs : s ∈ distinct [] row := hs.resolve_left nofun
      exact ht.transitive (hrow s (distinct_subset hs)) (hrow u hu) (h s hs) hsame

-- ============================================================= being there

/-- A type is not that of the absent object. -/
def isPresent (t : Ty) : Bool := !t.same .absent

theorem same_absent_iff : t.same .absent = true ↔ t = .absent := by
  cases t <;> simp [same]

theorem absent_same_iff : Ty.absent.same t = true ↔ t = .absent := by
  cases t <;> simp [same]

theorem isPresent_iff : t.isPresent = true ↔ t ≠ .absent := by
  rw [isPresent, Bool.not_eq_true', ← Bool.not_eq_true, same_absent_iff]

/-- Types that are the same are both that of the absent object, or neither is. -/
theorem isPresent_eq_of_same (h : s.same u = true) : s.isPresent = u.isPresent := by
  rw [Bool.eq_iff_iff, isPresent_iff, isPresent_iff]
  constructor
  · rintro hs rfl
    exact hs (same_absent_iff.1 h)
  · rintro hu rfl
    exact hu (absent_same_iff.1 h)

-- ============================================================== flat types

/-- A type is one by itself: no union, and no object in the place of a type but a class. -/
def IsSimple : Ty → Prop
  | .union _ _ => False
  | .value (.sealed _ _ _ _) => True
  | .value _ => False
  | _ => True

/-- A type by itself, the absent object, or a union of types by themselves of which no two
are the same, and not of one type. -/
inductive IsFlat : Ty → Prop
  | simple {t : Ty} (h : t.IsSimple) : IsFlat t
  | none : IsFlat (.value .none)
  | union (bars : Bool) {members : List Ty} (hsimple : ∀ u ∈ members, u.IsSimple)
      (hapart : members.Pairwise fun s u => s.same u = false) (hlength : members.length ≠ 1) :
      IsFlat (.union bars members)

theorem isFlat_absent : Ty.absent.IsFlat := .simple trivial

theorem isFlat_pair (hs : s.IsFlat) (ht : t.IsFlat) : ∀ u ∈ [s, t], u.IsFlat :=
  List.forall_mem_cons.2 ⟨hs, List.forall_mem_singleton.2 ht⟩

theorem flattened_cons : flattened (t :: row) = flattened [t] ++ flattened row := by
  cases t with
  | value x => cases x <;> rfl
  | union _ members => simp [flattened]
  | _ => rfl

theorem flattened_simple (h : t.IsSimple) : flattened [t] = [t] := by
  cases t with
  | value x =>
      cases x with
      | «sealed» => rfl
      | _ => cases h
  | union => cases h
  | _ => rfl

theorem isSimple_of_mem_flattened (hparts : ∀ t ∈ parts, t.IsFlat) (hu : u ∈ flattened parts) :
    u.IsSimple := by
  induction parts with
  | nil => cases hu
  | cons t rest ih =>
      rw [List.forall_mem_cons] at hparts
      rw [flattened_cons] at hu
      rcases List.mem_append.1 hu with hu | hu
      · cases hparts.1 with
        | simple h =>
            rw [flattened_simple h] at hu
            rwa [List.mem_singleton.1 hu]
        | none =>
            rw [List.mem_singleton.1 hu]
            trivial
        | union bars hsimple =>
            rw [flattened, flattened, List.append_nil] at hu
            exact hsimple u hu
      · exact ih hparts.2 hu

theorem unionOf_cases (bars : Bool) (parts : List Ty) :
    (∃ t, distinct [] (flattened parts) = [t] ∧ unionOf bars parts = t)
      ∨ (distinct [] (flattened parts)).length ≠ 1
        ∧ unionOf bars parts = .union bars (distinct [] (flattened parts)) := by
  unfold unionOf
  split
  · next t heq => exact .inl ⟨t, heq, rfl⟩
  · next hne =>
    refine .inr ⟨fun hlength => ?_, rfl⟩
    obtain ⟨t, ht⟩ := List.length_eq_one_iff.1 hlength
    exact hne t ht

theorem isFlat_unionOf (h : ∀ u ∈ flattened parts, u.IsSimple) : (unionOf bars parts).IsFlat := by
  have hsimple : ∀ u ∈ distinct [] (flattened parts), u.IsSimple :=
    fun u hu => h u (distinct_subset hu)
  rcases unionOf_cases bars parts with ⟨t, hone, heq⟩ | ⟨hlength, heq⟩
  · rw [heq]
    exact .simple (hsimple t (hone ▸ List.mem_cons_self))
  · rw [heq]
    exact .union bars hsimple pairwise_distinct hlength

theorem unionOf_ne_none (hparts : ∀ u ∈ parts, u.IsFlat) : unionOf bars parts ≠ .value .none := by
  intro hnone
  rcases unionOf_cases bars parts with ⟨t, hone, heq⟩ | ⟨-, heq⟩
  · have hmem : t ∈ distinct [] (flattened parts) := hone ▸ List.mem_cons_self
    have hsimple := isSimple_of_mem_flattened hparts (distinct_subset hmem)
    rw [← heq, hnone] at hsimple
    exact hsimple
  · cases heq.symm.trans hnone

theorem flattened_unionOf (h : ∀ u ∈ flattened parts, u.IsSimple) :
    flattened [unionOf bars parts] = distinct [] (flattened parts) := by
  rcases unionOf_cases bars parts with ⟨t, hone, heq⟩ | ⟨-, heq⟩
  · rw [heq, hone]
    exact flattened_simple (h t (distinct_subset (hone ▸ List.mem_cons_self)))
  · rw [heq]
    simp [flattened]

-- ================================================================= uniting

theorem asMember_eq (h : t.IsFlat) : t.asMember = .ok t := by
  cases h with
  | simple h =>
      cases t with
      | value x =>
          cases x with
          | «sealed» => rfl
          | _ => cases h
      | _ => rfl
  | none => rfl
  | union => rfl

theorem mapM_asMember (hparts : ∀ u ∈ parts, u.IsFlat) : parts.mapM asMember = .ok parts := by
  induction parts with
  | nil => rfl
  | cons first rest ih =>
      rw [List.forall_mem_cons] at hparts
      rw [List.mapM_cons, asMember_eq hparts.1, ih hparts.2]
      rfl

/-- A union that is built is that of its parts. -/
theorem eq_unionOf_of_uniting (hparts : ∀ u ∈ parts, u.IsFlat) (h : uniting parts = .ok t) :
    t = unionOf false parts := by
  unfold uniting at h
  split at h
  · cases h
  · obtain ⟨members, hok, h⟩ := exists_of_bind_eq_ok h
    obtain rfl := Except.ok.inj ((mapM_asMember hparts).symm.trans hok)
    split at h
    · cases h
    · exact (Except.ok.inj h).symm

theorem kind_of_uniting (hparts : ∀ u ∈ parts, u.IsFlat) {q : Problem}
    (h : uniting parts = .error q) : q.kind = .typeError := by
  unfold uniting at h
  split at h
  · cases h
    rfl
  · simp only [mapM_asMember hparts] at h
    rcases bind_eq_error_iff.1 h with h | ⟨_, -, h⟩
    · cases h
    · split at h
      · cases h
        rfl
      · cases h

theorem unhashableIn?_eq_none (h : ∀ u ∈ row, u.unhashable? = none) :
    unhashableIn? row = none := by
  induction row with
  | nil => rfl
  | cons t rest ih =>
      rw [List.forall_mem_cons] at h
      rw [unhashableIn?, h.1]
      exact ih h.2

/-- A union of some types is built if they can be keys. -/
theorem uniting_eq_ok (hne : parts ≠ []) (hparts : ∀ u ∈ parts, u.IsFlat)
    (hkeys : ∀ u ∈ flattened parts, u.unhashable? = none) :
    uniting parts = .ok (unionOf false parts) := by
  cases hunited : uniting parts with
  | ok t => rw [eq_unionOf_of_uniting hparts hunited]
  | error q =>
      unfold uniting at hunited
      rw [if_neg (by simpa using hne)] at hunited
      simp only [mapM_asMember hparts] at hunited
      rcases bind_eq_error_iff.1 hunited with h | ⟨_, ⟨⟩, h⟩
      · cases h
      · rw [unhashableIn?_eq_none hkeys] at h
        cases h

end Ty

end CommandConsole
