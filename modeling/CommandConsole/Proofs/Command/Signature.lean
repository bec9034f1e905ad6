/-
The arguments that the routines of a command can be called with.

A row of objects is bound to formals one by one (`Formal.Binds`). What a routine tells of
its formals is only asked how many positional arguments it accepts, and that is enough:
if the formals stand in the order in which they can be told, they accept a number of
arguments just if every row of so many objects can be bound (`Formal.accept_iff_binds`).

However a command is built, the routines that it keeps are those that it was built from,
and they have passed this question: the one for as many arguments as the command has
parameters, and the default one, which only a command with parameters has, for none
(`Command.BuiltFrom.fitted`).
-/
import CommandConsole.Proofs.Command.Identifiers

namespace CommandConsole

-- ================================================================= binding

namespace Formal

/-- The place of a kind of formals among the others. -/
def Kind.place : Kind → Nat
  | .positionalOnly => 0
  | .positional => 1
  | .rest => 2
  | .keyword => 3
  | .keywordRest => 4

/-- Formals stand in the order of their kinds. -/
def Ordered (formals : List Formal) : Prop :=
  formals.Pairwise fun f g => f.kind.place ≤ g.kind.place

/-- A row of objects, given by their positions alone, is bound to formals. A positional
formal takes the next object, one for the rest takes all that are left, and a formal to
which no object is left is left out, if it can be. -/
inductive Binds : List Formal → List Object → Prop
  | nil : Binds [] []
  | taken {f : Formal} {formals : List Formal} {x : Object} {objects : List Object}
      (hf : f.isPositional = true) (h : Binds formals objects) :
      Binds (f :: formals) (x :: objects)
  | gathered {f : Formal} {formals : List Formal} (hf : f.kind = .rest) (objects : List Object)
      (h : Binds formals []) : Binds (f :: formals) objects
  | leftOut {f : Formal} {formals : List Formal}
      (hf : f.optional = true ∨ f.kind = .keywordRest) (h : Binds formals []) :
      Binds (f :: formals) []

variable {f : Formal} {formals : List Formal} {count : Nat}

-- ------------------------------------------------- the question, one formal at a time

theorem isPositional_iff :
    f.isPositional = true ↔ f.kind = .positional ∨ f.kind = .positionalOnly := by
  simp [isPositional]

theorem accept_nil : accept [] count = true ↔ count = 0 := by
  simp [accept]

section

variable (h : f.isPositional = true)

include h

theorem kind_ne_of_isPositional : f.kind ≠ .rest ∧ f.kind ≠ .keyword ∧ f.kind ≠ .keywordRest := by
  rcases isPositional_iff.1 h with hk | hk
  · simp [hk]
  · simp [hk]

/-- A positional formal takes one of the arguments, -/
theorem accept_positional_succ : accept (f :: formals) (count + 1) = accept formals count := by
  obtain ⟨hrest, hkeyword, -⟩ := kind_ne_of_isPositional h
  have hkeyword : (f.kind != .keyword) = true := bne_iff_ne.2 hkeyword
  simp [accept, h, hrest, hkeyword]

/-- unless there are none. -/
theorem accept_positional_zero :
    accept (f :: formals) 0 = true ↔ f.optional = true ∧ accept formals 0 = true := by
  obtain ⟨hrest, hkeyword, -⟩ := kind_ne_of_isPositional h
  simp [accept, h, hrest, hkeyword, and_assoc]

end

/-- Behind a formal that is not positional no positional one stands. -/
theorem filter_isPositional_eq_nil (h : Ordered (f :: formals)) (hf : f.isPositional = false) :
    formals.filter isPositional = [] := by
  obtain ⟨hfirst, -⟩ := List.pairwise_cons.1 h
  rw [List.filter_eq_nil_iff]
  intro g hg hpositional
  have hplace : f.kind.place ≤ g.kind.place := hfirst g hg
  have hlow : g.kind.place ≤ 1 := by
    rcases isPositional_iff.1 hpositional with hk | hk
    · simp [hk, Kind.place]
    · simp [hk, Kind.place]
  have hhigh : 1 < f.kind.place := by
    cases hk : f.kind with
    | positional | positionalOnly => simp [isPositional, hk] at hf
    | rest | keyword | keywordRest => simp [Kind.place]
  omega

/-- Behind a formal that takes named arguments no other one takes the rest. -/
theorem any_rest_eq_false (h : Ordered (f :: formals)) (hf : 2 < f.kind.place) :
    (formals.any fun g => g.kind = .rest) = false := by
  obtain ⟨hfirst, -⟩ := List.pairwise_cons.1 h
  rw [List.any_eq_false]
  intro g hg hrest
  have hplace : f.kind.place ≤ g.kind.place := hfirst g hg
  have hkind : g.kind = .rest := by simpa using hrest
  have htwo : Kind.rest.place = 2 := rfl
  rw [hkind, htwo] at hplace
  omega

/-- A formal for the rest takes any arguments. -/
theorem accept_rest (h : Ordered (f :: formals)) (hf : f.kind = .rest) :
    accept (f :: formals) count = accept formals 0 := by
  have hnone : formals.filter isPositional = [] :=
    filter_isPositional_eq_nil h (by simp [isPositional, hf])
  have hown : f.isPositional = false := by simp [isPositional, hf]
  simp [accept, hnone, hown, hf]

/-- A formal that takes named arguments takes none by its position. -/
theorem accept_named (h : Ordered (f :: formals)) (hf : 2 < f.kind.place) :
    accept (f :: formals) count = true
      ↔ count = 0 ∧ (f.optional = true ∨ f.kind = .keywordRest) ∧ accept formals 0 = true := by
  have hother : (formals.any fun g => g.kind = .rest) = false := any_rest_eq_false h hf
  cases hk : f.kind with
  | positional | positionalOnly | rest => simp [hk, Kind.place] at hf
  | keyword =>
      have hown : f.isPositional = false := by simp [isPositional, hk]
      have hnone : formals.filter isPositional = [] := filter_isPositional_eq_nil h hown
      simp [accept, hnone, hown, hk, hother]
  | keywordRest =>
      have hown : f.isPositional = false := by simp [isPositional, hk]
      have hnone : formals.filter isPositional = [] := filter_isPositional_eq_nil h hown
      simp [accept, hnone, hown, hk, hother]

theorem kind_cases (hf : f.isPositional = false) : f.kind = .rest ∨ 2 < f.kind.place := by
  cases hk : f.kind with
  | positional | positionalOnly => simp [isPositional, hk] at hf
  | rest => exact .inl rfl
  | keyword | keywordRest => exact .inr (by simp [Kind.place])

/-- Formals in their order accept a number of arguments just if every row of so many
objects is bound to them. -/
theorem accept_iff_binds (h : Ordered formals) (objects : List Object) :
    accept formals objects.length = true ↔ Binds formals objects := by
  induction formals generalizing objects with
  | nil =>
      rw [accept_nil, List.length_eq_zero_iff]
      constructor
      · rintro rfl
        exact .nil
      · intro hbinds
        cases hbinds
        rfl
  | cons f formals ih =>
      have hbehind : Ordered formals := (List.pairwise_cons.1 h).2
      have hnone : accept formals 0 = true ↔ Binds formals [] := ih hbehind []
      cases hf : f.isPositional with
      | true =>
          obtain ⟨hrest, -, hkeywordRest⟩ := kind_ne_of_isPositional hf
          cases objects with
          | nil =>
              rw [List.length_nil, accept_positional_zero hf, hnone]
              constructor
              · rintro ⟨hoptional, hbinds⟩
                exact .leftOut (.inl hoptional) hbinds
              · intro hbinds
                cases hbinds with
                | gathered hk => exact absurd hk hrest
                | leftOut hleft hbinds => exact ⟨hleft.resolve_right hkeywordRest, hbinds⟩
          | cons x objects =>
              rw [List.length_cons, accept_positional_succ hf, ih hbehind objects]
              constructor
              · intro hbinds
                exact .taken hf hbinds
              · intro hbinds
                cases hbinds with
                | taken _ hbinds => exact hbinds
                | gathered hk => exact absurd hk hrest
      | false =>
          rcases kind_cases hf with hk | hk
          · rw [accept_rest h hk, hnone]
            constructor
            · intro hbinds
              exact .gathered hk objects hbinds
            · intro hbinds
              cases hbinds with
              | taken hpositional => exact absurd (hf.symm.trans hpositional) Bool.false_ne_true
              | gathered _ _ hbinds | leftOut _ hbinds => exact hbinds
          · rw [accept_named h hk, List.length_eq_zero_iff, hnone]
            constructor
            · rintro ⟨rfl, hleft, hbinds⟩
              exact .leftOut hleft hbinds
            · intro hbinds
              cases hbinds with
              | taken hpositional => exact absurd (hf.symm.trans hpositional) Bool.false_ne_true
              | gathered hrest => exact absurd hk (by rw [hrest]; exact Nat.lt_irrefl 2)
              | leftOut hleft hbinds => exact ⟨rfl, hleft, hbinds⟩

end Formal

-- ============================================================ construction

namespace Routine

variable {ρ : Type}

/-- A row of objects can be bound to the formals of a routine, as far as it tells
them. -/
def CanTake (r : Routine ρ) (objects : List Object) : Prop :=
  ∀ formals, r.formals = some formals → Formal.Ordered formals → Formal.Binds formals objects

/-- A routine that accepts a number of arguments can take every row of so many
objects. -/
theorem canTake_of_accepts {r : Routine ρ} {objects : List Object}
    (h : r.accepts objects.length = true) : r.CanTake objects := by
  intro formals hformals hordered
  unfold accepts at h
  rw [hformals] at h
  exact (Formal.accept_iff_binds hordered objects).1 h

end Routine

namespace Command

variable {ρ : Type} {c : Command ρ} {r : Routine ρ} {default? : Option (Routine ρ)}

/-- A command is built from a routine, and perhaps from another one as its default: by a
draft, or from what the routine tells of itself. Its registration leaves it so. -/
inductive BuiltFrom : Command ρ → Routine ρ → Option (Routine ρ) → Prop
  | draft {draft : CommandDraft ρ} {c : Command ρ} {r : Routine ρ}
      {default? : Option (Routine ρ)} (h : ofDraft draft = .ok c)
      (hcallback : draft.callback = .routine r)
      (hdefault : draft.default? = default?.map .routine) : BuiltFrom c r default?
  | function {r : Routine ρ} {notes : Notes ρ} {c : Command ρ} {default? : Option (Routine ρ)}
      (h : ofCallee (.routine r) notes = .ok c)
      (hdefault : notes.default? = default?.map .routine) : BuiltFrom c r default?
  | registered {c : Command ρ} {r : Routine ρ} {default? : Option (Routine ρ)}
      (h : BuiltFrom c r default?) : BuiltFrom (Registry.markCustom c) r default?

/-- A command keeps the routines that it was built from, and each of them accepts what it
is going to be called with. -/
structure Fitted (c : Command ρ) (r : Routine ρ) (default? : Option (Routine ρ)) : Prop where
  callback_eq : c.callback = r.run
  accepts : r.accepts c.outline.parameters.length = true
  default?_eq : c.default? = default?.map (·.run)
  parameters_ne_nil : ∀ d, default? = some d → c.outline.parameters ≠ []
  default_accepts : ∀ d, default? = some d → d.accepts 0 = true

/-- A routine that is kept for a role accepts as many arguments as the role passes. -/
theorem exists_of_routineFor_eq_ok {role : Role} {count : Nat} {run : List Object → ρ}
    (h : routineFor role count (.routine r) = .ok run) : run = r.run ∧ r.accepts count = true := by
  unfold routineFor at h
  dsimp only at h
  split at h
  · next haccepts =>
    cases h
    exact ⟨rfl, haccepts⟩
  · cases h

theorem fitted_of_ofDraft_eq_ok {draft : CommandDraft ρ} (h : ofDraft draft = .ok c)
    (hcallback : draft.callback = .routine r)
    (hdefault : draft.default? = default?.map .routine) : c.Fitted r default? := by
  obtain ⟨name, descr, parameters, kept?, spellings, callback, -, -, -, hkept, -, hroutine, rfl⟩ :=
    exists_of_ofDraft_eq_ok h
  rw [hcallback] at hroutine
  obtain ⟨rfl, haccepts⟩ := exists_of_routineFor_eq_ok hroutine
  rw [hdefault] at hkept
  cases default? with
  | none =>
      cases hkept
      exact ⟨rfl, haccepts, rfl, nofun, nofun⟩
  | some d =>
      unfold defaultFor at hkept
      rw [Option.map_some] at hkept
      dsimp only at hkept
      split at hkept
      · cases hkept
      · next hparameters =>
        have hne : parameters ≠ [] := by
          intro hnil
          exact hparameters (List.isEmpty_iff.2 hnil)
        cases hd : routineFor .default 0 (.routine d) with
        | error q =>
            rw [hd] at hkept
            cases hkept
        | ok run =>
            obtain ⟨rfl, hnothing⟩ := exists_of_routineFor_eq_ok hd
            rw [hd] at hkept
            cases hkept
            refine ⟨rfl, haccepts, rfl, ?_, ?_⟩
            · intro _ _
              exact hne
            · rintro _ ⟨⟩
              exact hnothing

/-- However it is built, a command keeps routines that accept what they are called
with. -/
theorem BuiltFrom.fitted (h : c.BuiltFrom r default?) : c.Fitted r default? := by
  induction h with
  | draft h hcallback hdefault => exact fitted_of_ofDraft_eq_ok h hcallback hdefault
  | function h hdefault =>
      unfold ofCallee at h
      dsimp only at h
      split at h
      · obtain ⟨types, -, h⟩ := exists_of_bind_eq_ok h
        obtain ⟨items, -, h⟩ := exists_of_bind_eq_ok h
        exact fitted_of_ofDraft_eq_ok h rfl hdefault
      · cases h
  | registered _ ih =>
      exact ⟨ih.callback_eq, ih.accepts, ih.default?_eq, ih.parameters_ne_nil, ih.default_accepts⟩

end Command

end CommandConsole
