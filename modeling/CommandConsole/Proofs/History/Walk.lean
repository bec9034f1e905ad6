/-
A walk through the history stays inside it.

The place of a walk is the index of the entry that is shown, or minus one if none
is. A step to an older entry adds one to it, a step to a newer one takes one away,
and the place is held between minus one and the last entry (`moved`). Recording a
line and forgetting all of them end the walk.

So after any requests the place is where the steps since then lead from minus one
(`cursor_served`). The steps are those that were asked for by one or by minus one:
any other direction is refused and no step is taken (`walkOn`).

The place is always that of an entry that is there, or minus one (`Placed`). In
particular a step never shows the oldest entry in the place of none, as it would if
minus one counted from the end.
-/
import CommandConsole.Proofs.Session.Recording
import Mathlib.Data.List.Induction

namespace CommandConsole

-- =============================================================== directions

/-- What a step adds to the place of a walk. -/
def Direction.shift : Direction → Int
  | .older => 1
  | .newer => -1

/-- An object stands for a direction if it is what a step in it adds. -/
theorem Direction.ofObject_eq_ok_iff {x : Object} {way : Direction} :
    ofObject x = .ok way ↔ x.whole? = some way.shift := by
  unfold ofObject
  split
  · next holder =>
    rw [holder]
    cases way <;> simp [shift]
  · next holder =>
    split
    · next hnewer =>
      rw [hnewer]
      cases way <;> simp [shift]
    · next hnewer => cases way <;> simp [shift, holder, hnewer]

theorem Direction.ofObject_eq_error {x : Object}
    (h : ∀ way : Direction, x.whole? ≠ some way.shift) :
    ofObject x = .error (.invalidDirection x) := by
  unfold ofObject
  rw [if_neg (show x.whole? ≠ some 1 from h .older),
    if_neg (show x.whole? ≠ some (-1) from h .newer)]

namespace History

-- ================================================================= requests

/-- What is asked of a history. -/
inductive Request where
  | record (name raw : String)
  | cycle (direction : Object)
  | clear

/-- What a history answers to a request, and the history after it. -/
def serve (h : History) : Request → Except Problem Reply × History
  | .record name raw => (.ok .nothing, h.record name raw)
  | .cycle direction =>
      match h.cycle direction with
      | .ok (line, after) => (.ok (.text line), after)
      | .error p => (.error p, h)
  | .clear => (.ok .nothing, h.clear)

/-- A history after some requests. -/
def served (h : History) (requests : List Request) : History :=
  requests.foldl (fun h request => (h.serve request).2) h

/-- The steps of a walk after one more request. -/
def walkOn (steps : List Direction) : Request → List Direction
  | .cycle direction =>
      match Direction.ofObject direction with
      | .ok way => steps ++ [way]
      | .error _ => steps
  | .record _ _ | .clear => []

/-- The steps that were taken since a line was recorded last or all of them were
forgotten. -/
def walk (requests : List Request) : List Direction := requests.foldl walkOn []

/-- The place that a step leads to, among `count` entries. -/
def moved (count : Nat) (place : Int) (way : Direction) : Int :=
  max (-1) (min (place + way.shift) (count - 1))

-- =================================================================== places

/-- A history keeps to its length, and a walk to the entries. -/
structure Placed (h : History) : Prop where
  length_le : h.entries.length ≤ h.limit
  shown_lt : ∀ {index}, h.shown = some index → index < h.entries.length

variable {h : History} {direction : Object} {way : Direction}

theorem placed_empty (limit : Nat) : (empty limit).Placed := ⟨Nat.zero_le limit, nofun⟩

theorem Placed.cursor_bounds (hplaced : h.Placed) :
    -1 ≤ h.cursor ∧ h.cursor < h.entries.length := by
  unfold cursor
  cases hshown : h.shown with
  | none => simp only; omega
  | some index =>
      have hlt := hplaced.shown_lt hshown
      simp only
      omega

/-- The line that is shown is the entry at the place, and the empty line if the
place is minus one. -/
theorem Placed.line_cases (hplaced : h.Placed) :
    h.cursor = -1 ∧ h.line = ""
      ∨ ∃ index : Nat, h.cursor = index ∧ h.entries[index]? = some h.line := by
  unfold cursor line
  cases hshown : h.shown with
  | none => exact .inl ⟨rfl, rfl⟩
  | some index =>
      refine .inr ⟨index, rfl, ?_⟩
      simp [List.getElem?_eq_getElem (hplaced.shown_lt hshown)]

/-- A step moves the place by one, and no further than the entries go. -/
theorem Placed.cursor_step (hplaced : h.Placed) (way : Direction) :
    (h.step way).cursor = moved h.entries.length h.cursor way := by
  have hbounds := hplaced.cursor_bounds
  unfold cursor step stepped moved Direction.shift at *
  cases way with
  | older =>
      cases hshown : h.shown with
      | none => grind
      | some index =>
          rw [hshown] at hbounds
          grind
  | newer =>
      cases hshown : h.shown with
      | none => grind
      | some index =>
          rw [hshown] at hbounds
          cases index with
          | zero => grind
          | succ index => grind

theorem Placed.step (hplaced : h.Placed) (way : Direction) : (h.step way).Placed := by
  refine ⟨hplaced.length_le, fun {index} hshown => ?_⟩
  have hcursor := hplaced.cursor_step way
  have hbounds := hplaced.cursor_bounds
  have hindex : (h.step way).cursor = index := by
    unfold cursor
    rw [hshown]
  show index < h.entries.length
  unfold moved at hcursor
  omega

theorem placed_record (h : History) (name raw : String) : (h.record name raw).Placed :=
  ⟨List.length_take_le h.limit _, nofun⟩

-- ==================================================================== walks

theorem serve_cycle_ok (h : History) (hway : Direction.ofObject direction = .ok way) :
    h.serve (.cycle direction) = (.ok (.text (h.step way).line), h.step way) := by
  have hcycle : h.cycle direction = .ok ((h.step way).line, h.step way) := by
    unfold cycle
    rw [hway]
    rfl
  simp only [serve, hcycle]

theorem serve_cycle_error (h : History) {p : Problem}
    (hrefused : Direction.ofObject direction = .error p) :
    h.serve (.cycle direction) = (.error p, h) := by
  have hcycle : h.cycle direction = .error p := by
    unfold cycle
    rw [hrefused]
    rfl
  simp only [serve, hcycle]

/-- A history is where some steps lead that begin outside the entries. -/
structure Walked (h : History) (limit : Nat) (steps : List Direction) : Prop where
  limit_eq : h.limit = limit
  placed : h.Placed
  cursor_eq : h.cursor = steps.foldl (moved h.entries.length) (-1)

/-- One more request takes a history along with the steps of the walk. -/
theorem Walked.serve {limit : Nat} {steps : List Direction} (hwalked : h.Walked limit steps)
    (request : Request) : (h.serve request).2.Walked limit (walkOn steps request) := by
  cases request with
  | record name raw => exact ⟨hwalked.limit_eq, placed_record h name raw, rfl⟩
  | clear => exact ⟨hwalked.limit_eq, placed_empty h.limit, rfl⟩
  | cycle direction =>
      cases hway : Direction.ofObject direction with
      | error p =>
          simp only [walkOn, hway, serve_cycle_error h hway]
          exact hwalked
      | ok way =>
          simp only [walkOn, hway, serve_cycle_ok h hway]
          refine ⟨hwalked.limit_eq, hwalked.placed.step way, ?_⟩
          show (h.step way).cursor = (steps ++ [way]).foldl (moved h.entries.length) (-1)
          rw [hwalked.placed.cursor_step, hwalked.cursor_eq, List.foldl_append]
          rfl

/-- After any requests the place is where the steps of the walk lead. -/
theorem walked_served (limit : Nat) (requests : List Request) :
    ((empty limit).served requests).Walked limit (walk requests) := by
  induction requests using List.reverseRecOn with
  | nil => exact ⟨rfl, placed_empty limit, rfl⟩
  | append_singleton rest request ih =>
      unfold served walk at ih ⊢
      rw [List.foldl_append, List.foldl_append]
      exact ih.serve request

/-- A console walks through its history as the history answers. -/
theorem within_perform_cycle_serve {σ : Type} (start : Program σ → Action σ Reply) (s : Session σ)
    (direction : Object) :
    Action.within s (Session.perform start (.cycle direction))
      = ((s.history.serve (.cycle direction)).1.mapError .problem,
        { s with history := (s.history.serve (.cycle direction)).2 }) := by
  rw [Session.within_perform_cycle]
  cases hcycle : s.history.cycle direction with
  | error p =>
      simp only [serve, hcycle]
      rfl
  | ok shown =>
      simp only [serve, hcycle]
      rfl

/-- Whatever is asked of a history of any length, and in whatever order, it holds no
more lines than its length, and the place of a walk is minus one or the index of an
entry. It is where the steps since the latest recording or clearing lead from minus
one, each of them adding or taking away one and going no further than the entries.
A direction that is neither one nor minus one is refused, and nothing changes. A
valid one changes the place alone, and answers the entry at the new place, or the
empty line if the place is minus one. A console walks through its history in just
this way. -/
theorem walk_clamped {length : Object} {h₀ : History} (hlength : ofLength length = .ok h₀)
    (requests : List Request) :
    let h := h₀.served requests
    (∃ n : Int, length = .int n ∧ 1 ≤ n ∧ h.entries.length ≤ n)
      ∧ -1 ≤ h.cursor ∧ h.cursor < h.entries.length
      ∧ h.cursor = (walk requests).foldl (moved h.entries.length) (-1)
      ∧ (∀ direction, (∀ way : Direction, direction.whole? ≠ some way.shift) →
          h.serve (.cycle direction) = (.error (.invalidDirection direction), h))
      ∧ (∀ direction (way : Direction), direction.whole? = some way.shift →
          ∃ line shown, h.serve (.cycle direction) = (.ok (.text line), { h with shown := shown })
            ∧ cursor { h with shown := shown } = moved h.entries.length h.cursor way
            ∧ (cursor { h with shown := shown } = -1 ∧ line = ""
              ∨ ∃ index : Nat, cursor { h with shown := shown } = index
                ∧ h.entries[index]? = some line))
      ∧ ∀ {σ : Type} (s : Session σ) start direction, s.history = h →
          Action.within s (Session.perform start (.cycle direction))
            = ((h.serve (.cycle direction)).1.mapError .problem,
              { s with history := (h.serve (.cycle direction)).2 }) := by
  intro h
  obtain ⟨n, rfl, hpositive, rfl⟩ := exists_of_ofLength_eq_ok hlength
  have hwalked : h.Walked n.toNat (walk requests) := walked_served n.toNat requests
  have hplaced := hwalked.placed
  have hbounds := hplaced.cursor_bounds
  refine ⟨⟨n, rfl, hpositive, ?_⟩, hbounds.1, hbounds.2, hwalked.cursor_eq, ?_, ?_, ?_⟩
  · have hle := hplaced.length_le
    rw [hwalked.limit_eq] at hle
    omega
  · exact fun direction hinvalid => serve_cycle_error h (Direction.ofObject_eq_error hinvalid)
  · intro direction way hway
    exact ⟨_, _, serve_cycle_ok h (Direction.ofObject_eq_ok_iff.2 hway), hplaced.cursor_step way,
      (hplaced.step way).line_cases⟩
  · intro σ s start direction hs
    rw [within_perform_cycle_serve, hs]

/-- Of three lines a history of length two has lost the oldest one. A walk that has
gone too far to the older side, and was asked for a direction that there is not, is
back at the latest line after one step to the newer side. -/
theorem walk_clamped_back :
    let requests := [.record "a" "a 1", .record "b" "b 2", .record "c" "c 3", .cycle (.int 1),
      .cycle (.int 1), .cycle (.int 1), .cycle (.text "up"), .cycle (.int (-1))]
    ∃ h₀, ofLength (.int 2) = .ok h₀
      ∧ (h₀.served requests).entries = ["c 3", "b 2"]
      ∧ (h₀.served requests).cursor = 0
      ∧ ∃ line shown, (h₀.served requests).serve (.cycle (.bool true))
          = (.ok (.text line), { h₀.served requests with shown := shown }) := by
  intro requests
  obtain ⟨h₀, hlength⟩ : ∃ h₀, ofLength (.int 2) = .ok h₀ := ⟨_, rfl⟩
  obtain ⟨-, -, -, hcursor, -, hvalid, -⟩ := walk_clamped hlength requests
  obtain ⟨line, shown, hserve, -⟩ := hvalid (.bool true) .older rfl
  obtain rfl := Except.ok.inj (hlength.symm.trans (rfl : ofLength (.int 2) = .ok _))
  exact ⟨_, hlength, rfl, hcursor.trans rfl, line, shown, hserve⟩

end History

end CommandConsole
