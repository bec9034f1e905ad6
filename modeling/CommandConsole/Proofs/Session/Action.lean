/-
How actions end in a session.

An action leads from a session to an outcome and a session. What the
combinators of actions do is said once, by an equation for each of them, so
that no proof about an operation opens the monad that actions are made of.

`Keeps` says of an action that it leaves a part of the session that it is
done in as it was, however it ends. What keeps a part can be put together
from what keeps it.
-/
import CommandConsole.Session.Basic

namespace CommandConsole.Action

variable {σ α β τ : Type}

-- =============================================================== outcomes

@[simp] theorem within_pure (s : Session σ) (x : α) :
    within s (pure x) = (.ok x, s) := rfl

@[simp] theorem within_throw (s : Session σ) (e : Raised) :
    within s (throw e : Action σ α) = (.error e, s) := rfl

@[simp] theorem within_refuse (s : Session σ) (p : Problem) :
    within s (refuse p : Action σ α) = (.error (.problem p), s) := rfl

@[simp] theorem within_session (s : Session σ) : within s session = (.ok s, s) := rfl

@[simp] theorem within_set (s t : Session σ) :
    within s (set t : Action σ Unit) = (.ok (), t) := rfl

@[simp] theorem within_modify (s : Session σ) (f : Session σ → Session σ) :
    within s (modify f : Action σ Unit) = (.ok (), f s) := rfl

@[simp] theorem within_note (s : Session σ) (e : Event) :
    within s (note e) = (.ok (), { s with events := e :: s.events }) := rfl

@[simp] theorem within_ofExcept_ok (s : Session σ) (x : α) :
    within s (ofExcept (.ok x)) = (.ok x, s) := rfl

@[simp] theorem within_attempt (s : Session σ) (a : Action σ α) :
    within s (attempt a) = (.ok (within s a).1, (within s a).2) := rfl

/-- The second of two actions begins where the first one has ended. -/
theorem within_bind (s : Session σ) (a : Action σ α) (f : α → Action σ β) :
    within s (a >>= f)
      = match within s a with
        | (.ok x, t) => within t (f x)
        | (.error e, t) => (.error e, t) := by
  have hbind : within s (a >>= f) = ExceptT.bindCont f (within s a).1 (within s a).2 := rfl
  rw [hbind]
  rcases within s a with ⟨_ | _, t⟩
  · rfl
  · rfl

/-- What an action answers may be passed on in another form. -/
theorem within_bind_pure (s : Session σ) (a : Action σ α) (f : α → β) :
    within s (a >>= fun x => pure (f x)) = ((within s a).1.map f, (within s a).2) := by
  rw [within_bind]
  rcases within s a with ⟨_ | _, t⟩
  · rfl
  · rfl

/-- What an action answers may be replaced. -/
theorem within_map (s : Session σ) (f : α → β) (a : Action σ α) :
    within s (f <$> a) = ((within s a).1.map f, (within s a).2) :=
  within_bind_pure s a f

/-- What an action answers may be dropped. -/
theorem within_discard (s : Session σ) (a : Action σ α) :
    within s (discard a) = ((within s a).1.map fun _ => (), (within s a).2) :=
  within_map s (fun _ => ()) a

/-- An action that has answered is followed by the next one. -/
theorem within_bind_ok {s t : Session σ} {a : Action σ α} {x : α}
    (h : within s a = (.ok x, t)) (f : α → Action σ β) :
    within s (a >>= f) = within t (f x) := by
  rw [within_bind, h]

-- ================================================================== frames

/-- An action that is done in a session leaves a part of it as it was. -/
def Keeps (part : Session σ → τ) (s : Session σ) (a : Action σ α) : Prop :=
  part (within s a).2 = part s

variable {part : Session σ → τ} {s : Session σ}

theorem keeps_pure (x : α) : Keeps part s (pure x : Action σ α) := rfl

theorem keeps_throw (e : Raised) : Keeps part s (throw e : Action σ α) := rfl

theorem keeps_refuse (p : Problem) : Keeps part s (refuse p : Action σ α) := rfl

theorem keeps_note {e : Event} (h : part { s with events := e :: s.events } = part s) :
    Keeps part s (note e) := h

theorem keeps_session_bind {f : Session σ → Action σ β} (h : Keeps part s (f s)) :
    Keeps part s (session >>= f) := h

theorem keeps_ofExcept_bind {result : Except Problem α} {f : α → Action σ β}
    (h : ∀ x, Keeps part s (f x)) : Keeps part s (ofExcept result >>= f) := by
  cases result with
  | ok x => exact h x
  | error p => exact keeps_refuse p

theorem keeps_modify_bind {change : Session σ → Session σ} {f : Unit → Action σ β}
    (hchange : part (change s) = part s) (h : Keeps part (change s) (f ())) :
    Keeps part s (modify change >>= f) := Eq.trans h hchange

theorem keeps_note_bind {e : Event} {f : Unit → Action σ β}
    (he : part { s with events := e :: s.events } = part s)
    (h : Keeps part { s with events := e :: s.events } (f ())) :
    Keeps part s (note e >>= f) := Eq.trans h he

/-- Two actions keep what the first one keeps where it begins and the second
one where that has answered. -/
theorem Keeps.bind {a : Action σ α} {f : α → Action σ β} (ha : Keeps part s a)
    (hf : ∀ x t, within s a = (.ok x, t) → Keeps part t (f x)) : Keeps part s (a >>= f) := by
  unfold Keeps at ha ⊢
  rw [within_bind]
  split
  · next x t hs =>
    rw [hs] at ha
    exact (hf x t hs).trans ha
  · next e t hs =>
    rw [hs] at ha
    exact ha

theorem Keeps.map {a : Action σ α} (ha : Keeps part s a) (f : α → β) :
    Keeps part s (f <$> a) := by
  unfold Keeps
  rw [within_map]
  exact ha

/-- An action whose answer is passed on in another form. -/
theorem Keeps.bind_pure {a : Action σ α} (ha : Keeps part s a) (f : α → β) :
    Keeps part s (a >>= fun x => pure (f x)) :=
  ha.bind fun x _ _ => keeps_pure (f x)

end CommandConsole.Action
