/-
Being the same type is transitive.

A class is the same as itself. A type with arguments is the same as those of equal
arguments, a literal as those of equal values of the same classes, a union as those of the
same members. So the question comes down to that of objects, and holds of all types whose
objects have the forms that their classes give them (`Ty.WellFormed`).
-/
import CommandConsole.Proofs.Object.Equality
import CommandConsole.Ty.Basic

namespace CommandConsole

namespace Ty

/-- The types among the arguments of a type. -/
def parts : Ty → List Ty
  | .generic _ arguments | .unpacked _ arguments => arguments
  | .listOf item => [item]
  | .callable arguments result => result :: arguments
  | .annotated base _ => [base]
  | .union _ members => members
  | _ => []

/-- The objects among the arguments of a type. -/
def held : Ty → List Object
  | .literal values => values
  | .annotated _ note => [note]
  | .value x => [x]
  | _ => []

/-- All objects in a type have the forms of their classes. -/
inductive WellFormed : Ty → Prop
  | of {t : Ty} (hparts : ∀ u ∈ t.parts, WellFormed u) (hheld : ∀ x ∈ t.held, x.WellFormed) :
      WellFormed t

variable {t u v : Ty}

theorem WellFormed.of_mem_parts (h : t.WellFormed) (hu : u ∈ t.parts) : u.WellFormed := by
  cases h with
  | of hparts _ => exact hparts u hu

theorem WellFormed.of_mem_held (h : t.WellFormed) {x : Object} (hx : x ∈ t.held) :
    x.WellFormed := by
  cases h with
  | of _ hheld => exact hheld x hx

/-- What a type is the same as is the same as nothing but what the type is the same as,
among types of objects that have the forms of their classes. -/
def Transitive (t : Ty) : Prop := TransitiveAt WellFormed (fun t u => t.same u = true) t

section

variable {ts us vs : List Ty}

theorem sameAll_iff : sameAll ts us = true ↔ List.Forall₂ (fun t u => t.same u = true) ts us := by
  induction ts generalizing us with
  | nil => cases us <;> simp [sameAll]
  | cons t ts ih => cases us <;> simp [sameAll, ih]

theorem holdsAll_iff : holdsAll ts us = true ↔ ∀ t ∈ ts, ∃ u ∈ us, t.same u = true := by
  induction ts with
  | nil => simp [holdsAll]
  | cons t ts ih => simp [holdsAll, ih]

theorem sameAll_trans (h : ∀ t ∈ ts, t.Transitive) (hu : ∀ u ∈ us, u.WellFormed)
    (hv : ∀ v ∈ vs, v.WellFormed) (htu : sameAll ts us = true) (huv : sameAll us vs = true) :
    sameAll ts vs = true := by
  rw [sameAll_iff] at htu huv ⊢
  exact forall₂_trans h hu hv htu huv

theorem holdsAll_trans (h : ∀ t ∈ ts, t.Transitive) (hu : ∀ u ∈ us, u.WellFormed)
    (hv : ∀ v ∈ vs, v.WellFormed) (htu : holdsAll ts us = true) (huv : holdsAll us vs = true) :
    holdsAll ts vs = true := by
  rw [holdsAll_iff] at htu huv ⊢
  exact covers_trans h hu hv htu huv

end

theorem literalHolds_iff {xs ys : List Object} :
    literalHolds ys xs = true
      ↔ ∀ x ∈ xs, ∃ y ∈ ys, x.className = y.className ∧ x.same y = true := by
  simp [literalHolds]

/-- Values of a literal are told apart by their classes, too. -/
theorem literalHolds_trans {xs ys zs : List Object} (hx : ∀ x ∈ xs, x.WellFormed)
    (hy : ∀ y ∈ ys, y.WellFormed) (hz : ∀ z ∈ zs, z.WellFormed)
    (hxy : literalHolds ys xs = true) (hyz : literalHolds zs ys = true) :
    literalHolds zs xs = true := by
  rw [literalHolds_iff] at hxy hyz ⊢
  refine covers_trans (fun x hmem => ?_) hy hz hxy hyz
  intro y z hy hz hfirst hsecond
  exact ⟨hfirst.1.trans hsecond.1, (hx x hmem).transitive hy hz hfirst.2 hsecond.2⟩

section

variable {ts us : List Ty} {xs : List Object} {x : Object} {origin : BuiltinClass} {bars : Bool}

theorem generic_same_iff :
    (generic origin ts).same u = true ↔ ∃ us, u = .generic origin us ∧ sameAll ts us = true := by
  cases u <;> simp [same, eq_comm (a := origin)]

theorem unpacked_same_iff :
    (unpacked origin ts).same u = true ↔ ∃ us, u = .unpacked origin us ∧ sameAll ts us = true := by
  cases u <;> simp [same, eq_comm (a := origin)]

theorem listOf_same_iff : (listOf t).same u = true ↔ ∃ v, u = .listOf v ∧ t.same v = true := by
  cases u <;> simp [same]

theorem literal_same_iff :
    (literal xs).same u = true
      ↔ ∃ ys, u = .literal ys ∧ literalHolds ys xs = true ∧ literalHolds xs ys = true := by
  cases u <;> simp [same]

theorem callable_same_iff :
    (callable ts t).same u = true
      ↔ ∃ us v, u = .callable us v ∧ sameAll ts us = true ∧ t.same v = true := by
  cases u <;> simp [same]

theorem annotated_same_iff :
    (annotated t x).same u = true
      ↔ ∃ v y, u = .annotated v y ∧ t.same v = true ∧ x.same y = true := by
  cases u <;> simp [same]

theorem union_same_iff :
    (union bars ts).same u = true
      ↔ ∃ bars' us, u = .union bars' us ∧ ts.length = us.length ∧ holdsAll ts us = true := by
  cases u <;> simp [same]

theorem value_same_iff : (value x).same u = true ↔ ∃ y, u = .value y ∧ x.same y = true := by
  cases u <;> simp [same]

end

/-- Being the same type is transitive among types of objects that have the forms of their
classes. -/
theorem WellFormed.transitive (ht : t.WellFormed) : t.Transitive := by
  induction ht with
  | @of t _ hheld ih =>
      intro u v hu hv htu huv
      cases t with
      | generic =>
          obtain ⟨us, rfl, hfirst⟩ := generic_same_iff.1 htu
          obtain ⟨vs, rfl, hsecond⟩ := generic_same_iff.1 huv
          exact generic_same_iff.2 ⟨vs, rfl, sameAll_trans ih (fun _ => hu.of_mem_parts)
            (fun _ => hv.of_mem_parts) hfirst hsecond⟩
      | unpacked =>
          obtain ⟨us, rfl, hfirst⟩ := unpacked_same_iff.1 htu
          obtain ⟨vs, rfl, hsecond⟩ := unpacked_same_iff.1 huv
          exact unpacked_same_iff.2 ⟨vs, rfl, sameAll_trans ih (fun _ => hu.of_mem_parts)
            (fun _ => hv.of_mem_parts) hfirst hsecond⟩
      | listOf item =>
          obtain ⟨item', rfl, hfirst⟩ := listOf_same_iff.1 htu
          obtain ⟨item'', rfl, hsecond⟩ := listOf_same_iff.1 huv
          exact listOf_same_iff.2 ⟨item'', rfl, ih item List.mem_cons_self
            (hu.of_mem_parts List.mem_cons_self) (hv.of_mem_parts List.mem_cons_self)
            hfirst hsecond⟩
      | literal =>
          obtain ⟨ys, rfl, hfirst, hfirst'⟩ := literal_same_iff.1 htu
          obtain ⟨zs, rfl, hsecond, hsecond'⟩ := literal_same_iff.1 huv
          have hys : ∀ y ∈ ys, y.WellFormed := fun _ => hu.of_mem_held
          have hzs : ∀ z ∈ zs, z.WellFormed := fun _ => hv.of_mem_held
          exact literal_same_iff.2 ⟨zs, rfl, literalHolds_trans hheld hys hzs hfirst hsecond,
            literalHolds_trans hzs hys hheld hsecond' hfirst'⟩
      | callable arguments result =>
          obtain ⟨us, result', rfl, hfirst, hresult⟩ := callable_same_iff.1 htu
          obtain ⟨vs, result'', rfl, hsecond, hresult'⟩ := callable_same_iff.1 huv
          refine callable_same_iff.2 ⟨vs, result'', rfl, ?_, ?_⟩
          · exact sameAll_trans (fun _ h => ih _ (List.mem_cons_of_mem _ h))
              (fun _ h => hu.of_mem_parts (List.mem_cons_of_mem _ h))
              (fun _ h => hv.of_mem_parts (List.mem_cons_of_mem _ h)) hfirst hsecond
          · exact ih result List.mem_cons_self (hu.of_mem_parts List.mem_cons_self)
              (hv.of_mem_parts List.mem_cons_self) hresult hresult'
      | annotated base note =>
          obtain ⟨base', note', rfl, hfirst, hnote⟩ := annotated_same_iff.1 htu
          obtain ⟨base'', note'', rfl, hsecond, hnote'⟩ := annotated_same_iff.1 huv
          refine annotated_same_iff.2 ⟨base'', note'', rfl, ?_, ?_⟩
          · exact ih base List.mem_cons_self (hu.of_mem_parts List.mem_cons_self)
              (hv.of_mem_parts List.mem_cons_self) hfirst hsecond
          · exact (hheld note List.mem_cons_self).transitive (hu.of_mem_held List.mem_cons_self)
              (hv.of_mem_held List.mem_cons_self) hnote hnote'
      | union =>
          obtain ⟨_, us, rfl, hlength, hfirst⟩ := union_same_iff.1 htu
          obtain ⟨_, vs, rfl, hlength', hsecond⟩ := union_same_iff.1 huv
          exact union_same_iff.2 ⟨_, vs, rfl, hlength.trans hlength', holdsAll_trans ih
            (fun _ => hu.of_mem_parts) (fun _ => hv.of_mem_parts) hfirst hsecond⟩
      | value x =>
          obtain ⟨y, rfl, hfirst⟩ := value_same_iff.1 htu
          obtain ⟨z, rfl, hsecond⟩ := value_same_iff.1 huv
          exact value_same_iff.2 ⟨z, rfl, (hheld x List.mem_cons_self).transitive
            (hu.of_mem_held List.mem_cons_self) (hv.of_mem_held List.mem_cons_self)
            hfirst hsecond⟩
      | _ =>
          -- a class and the like are told apart by their names
          unfold same at htu
          split at htu
          · unfold same at huv ⊢
            split at huv
            · grind
            · cases huv
          · cases htu

end Ty

end CommandConsole
