/-
Relations of rows, of options and of results, as far as the library has none.

Two results are related if both are answers that are, or both errors that are
(`Except.Rel`). What is looked for in two rows that are related one by one is
found in both of them, or in neither (`rel_find?`).
-/
import Mathlib.Data.List.Forall2

namespace CommandConsole

variable {ε α β : Type} {S : α → β → Prop}

/-- Two results are both answers that are related, or both errors that are. -/
inductive Except.Rel (E : ε → ε → Prop) (S : α → β → Prop) : Except ε α → Except ε β → Prop
  | ok {x : α} {y : β} (h : S x y) : Except.Rel E S (.ok x) (.ok y)
  | error {e e' : ε} (h : E e e') : Except.Rel E S (.error e) (.error e')

theorem Except.Rel.cases {E : ε → ε → Prop} {a : Except ε α} {b : Except ε β}
    (h : Except.Rel E S a b) :
    (∃ x y, a = .ok x ∧ b = .ok y ∧ S x y) ∨ ∃ e e', a = .error e ∧ b = .error e' ∧ E e e' := by
  cases h with
  | ok hxy => exact .inl ⟨_, _, rfl, rfl, hxy⟩
  | error he => exact .inr ⟨_, _, rfl, rfl, he⟩

/-- A result of any kind is the same as itself. -/
theorem rel_same (result : Except ε α) : Except.Rel (· = ·) (· = ·) result result := by
  cases result with
  | ok x => exact .ok rfl
  | error e => exact .error rfl

/-- Results that are told alike are both answers that are told alike, or the
same error. -/
theorem rel_of_map_eq {γ : Type} {f : α → γ} {g : β → γ} {a : Except ε α} {b : Except ε β}
    (h : a.map f = b.map g) : Except.Rel (· = ·) (fun x y => f x = g y) a b := by
  cases a with
  | ok x =>
      cases b with
      | ok y => exact .ok (Except.ok.inj h)
      | error e => cases h
  | error e =>
      cases b with
      | ok y => cases h
      | error e' => exact .error (Except.error.inj h)

theorem rel_option_cases {x? : Option α} {y? : Option β} (h : Option.Rel S x? y?) :
    (x? = none ∧ y? = none) ∨ ∃ x y, x? = some x ∧ y? = some y ∧ S x y := by
  cases h with
  | none => exact .inl ⟨rfl, rfl⟩
  | some hxy => exact .inr ⟨_, _, rfl, rfl, hxy⟩

theorem isSome_eq_of_rel {x? : Option α} {y? : Option β} (h : Option.Rel S x? y?) :
    x?.isSome = y?.isSome := by
  cases h with
  | none => rfl
  | some _ => rfl

/-- What is told of rows that are related is the same, if nothing is told that
is not the same of what is related. -/
theorem map_eq_map {γ : Type} {f : α → γ} {g : β → γ} (hfg : ∀ {x y}, S x y → f x = g y)
    {xs : List α} {ys : List β} (h : List.Forall₂ S xs ys) : xs.map f = ys.map g := by
  induction h with
  | nil => rfl
  | cons hxy _ ih => rw [List.map_cons, List.map_cons, hfg hxy, ih]

/-- What passes a test is found first at the same place of two rows, if the
test does not tell what is related from each other. -/
theorem rel_find? {p : α → Bool} {q : β → Bool} (hpq : ∀ {x y}, S x y → p x = q y)
    {xs : List α} {ys : List β} (h : List.Forall₂ S xs ys) :
    Option.Rel S (xs.find? p) (ys.find? q) := by
  induction h with
  | nil => exact .none
  | @cons x y xs ys hxy _ ih =>
      rw [List.find?_cons, List.find?_cons, hpq hxy]
      cases q y with
      | true => exact .some hxy
      | false => exact ih

-- ============================================================ transitivity

/-- Whatever `x` is related to is related to no more than `x` itself, among those that
have a property. -/
def TransitiveAt (P : α → Prop) (R : α → α → Prop) (x : α) : Prop :=
  ∀ {y z : α}, P y → P z → R x y → R y z → R x z

section

variable {P : α → Prop} {R : α → α → Prop} {xs ys zs : List α}
  (h : ∀ x ∈ xs, TransitiveAt P R x) (hy : ∀ y ∈ ys, P y) (hz : ∀ z ∈ zs, P z)

include h hy hz

/-- Rows that are related one by one are transitive if what they hold is ... -/
theorem forall₂_trans (hxy : List.Forall₂ R xs ys) (hyz : List.Forall₂ R ys zs) :
    List.Forall₂ R xs zs := by
  induction hxy generalizing zs with
  | nil => exact hyz
  | cons hfirst _ ih =>
      cases hyz with
      | cons hfirst' hrest =>
          rw [List.forall_mem_cons] at h hy hz
          exact .cons (h.1 hy.1 hz.1 hfirst hfirst') (ih h.2 hy.2 hz.2 hrest)

/-- ... and so are rows of which one holds something for all that the other one holds. -/
theorem covers_trans (hxy : ∀ x ∈ xs, ∃ y ∈ ys, R x y) (hyz : ∀ y ∈ ys, ∃ z ∈ zs, R y z) :
    ∀ x ∈ xs, ∃ z ∈ zs, R x z := by
  intro x hx
  obtain ⟨y, hmem, hfirst⟩ := hxy x hx
  obtain ⟨z, hmem', hsecond⟩ := hyz y hmem
  exact ⟨z, hmem', h x hx (hy y hmem) (hz z hmem') hfirst hsecond⟩

end

end CommandConsole
