/-
The words that every parameter understands.

A word for the absent object or for the zero value is never handed to the parser
of a type. Whether it counts hangs on the parameter: on whether its argument may be
absent, and on whether its type is a value type. If several of the rules apply, the
absent object comes before the zero value. Every other token is handed to the parser
as it is, and once (`words_win`).

What makes a type with a parser a value type, and what its zero value is, is settled
by its entry: a zero value that was given with the parser comes before the one that
the type has by itself (`ParserEntry.IsZero`).
-/
import CommandConsole.Proofs.Session.Classification
import CommandConsole.Proofs.Text.Parts
import CommandConsole.Proofs.Ty.Zero

namespace CommandConsole

/-- An object is the zero value of a type that has a parser: the one that was given
with the parser, or else the one that the type has by itself. -/
def ParserEntry.IsZero {ρ : Type} (e : ParserEntry ρ) (type : Ty) (x : Object) : Prop :=
  e.default? = some x ∨ e.default? = none ∧ type.IsZero x

namespace Parsers

variable {ρ : Type} {ps : Parsers ρ} {type : Ty} {e : ParserEntry ρ} {token : String}

-- ================================================================= entries

/-- A type has a parser: it can be looked up, and its entry is found. -/
structure Holds (ps : Parsers ρ) (type : Ty) (e : ParserEntry ρ) : Prop where
  key_eq : key type = .ok type
  entry?_eq : ps.entry? type = some e

theorem Holds.default?_eq (h : ps.Holds type e) : ps.default? type = e.default? := by
  unfold default?
  rw [h.entry?_eq]
  rfl

theorem Holds.isValueType_iff (h : ps.Holds type e) :
    ps.isValueType type = true
      ↔ type.isPrimitive = true ∨ type.isEnumeration = true ∨ e.default?.isSome = true := by
  unfold isValueType
  rw [h.default?_eq, Bool.or_eq_true, Bool.or_eq_true, or_assoc, or_comm, or_assoc]

/-- A value type that has a parser has a zero value, unless it is an enumeration that
has none by itself. -/
theorem Holds.zero_cases (h : ps.Holds type e) (hvalue : ps.isValueType type = true) :
    (∃ x, e.IsZero type x ∧ ps.zero type = .object x)
      ∨ type.isEnumeration = true ∧ (∀ x, ¬ e.IsZero type x)
        ∧ ∃ q, ps.zero type = .problem q := by
  have hzero : ps.zero type = (e.default?.elim type.blank .object) := by
    unfold zero
    rw [h.key_eq]
    dsimp only
    rw [h.default?_eq]
    cases e.default? with
    | none | some => rfl
  rw [hzero]
  cases hdefault : e.default? with
  | some x => exact .inl ⟨x, .inl hdefault, rfl⟩
  | none =>
      have hown : type.isPrimitive = true ∨ type.isEnumeration = true := by
        have hkinds := h.isValueType_iff.1 hvalue
        rw [hdefault] at hkinds
        exact hkinds.imp_right fun hkind => hkind.resolve_right Bool.false_ne_true
      refine (Ty.blank_cases hown).imp ?_ ?_
      · rintro ⟨x, hx, hblank⟩
        exact ⟨x, .inr ⟨hdefault, hx⟩, hblank⟩
      · rintro ⟨henumeration, hnone, hblank⟩
        refine ⟨henumeration, fun x hx => ?_, hblank⟩
        rcases hx with hx | ⟨-, hx⟩
        · cases hdefault.symm.trans hx
        · exact hnone x hx

-- =================================================================== words

theorem mem_nullWords_iff :
    Text.lower token ∈ nullWords ↔ Text.lower token = "null" ∨ token = "~" := by
  simp [nullWords, Text.lower_eq_tilde_iff]

theorem mem_defaultWords_iff :
    Text.lower token ∈ defaultWords ↔ Text.lower token = "default" ∨ token = "~" := by
  simp [defaultWords, Text.lower_eq_tilde_iff]

variable {p : Parameter}

theorem Holds.route_leftOut (h : ps.Holds p.type e) (hleft : ps.LeavesOut token p) :
    ps.route token p = .ok .absent := by
  have hrouted := ps.routed_route token p
  generalize ps.route token p = result at hrouted
  cases hrouted with
  | leftOut => rfl
  | byType hkept => exact absurd hleft hkept
  | refused hkey => cases h.key_eq.symm.trans hkey

theorem Holds.route_kept (h : ps.Holds p.type e) (hkept : ¬ ps.LeavesOut token p) :
    ps.route token p = .ok (ps.routeByType token p.type) := by
  have hrouted := ps.routed_route token p
  generalize ps.route token p = result at hrouted
  cases hrouted with
  | leftOut hleft => exact absurd hleft hkept
  | byType => rfl
  | refused hkey => cases h.key_eq.symm.trans hkey

theorem routeByType_zero (hvalue : ps.isValueType type = true)
    (hword : Text.lower token ∈ defaultWords) :
    ps.routeByType token type = .convert (ps.zero type) := by
  unfold routeByType
  rw [if_pos (by simp [hvalue, hword])]

theorem Holds.routeByType_parse (h : ps.Holds type e)
    (hother : ¬ (ps.isValueType type = true ∧ Text.lower token ∈ defaultWords)) :
    ps.routeByType token type = .parse (e.parse token) := by
  unfold routeByType
  rw [if_neg (by simpa using hother), h.entry?_eq]

end Parsers

namespace Session

open CommandConsole.Action

variable {σ : Type}

/-- The words for the absent object and for the zero value come before the parser of a
type, in this order.

- A word for the absent object counts if the argument may be absent or the type is no
  value type, the word for the zero value if the argument may be absent. Then the
  argument is absent.
- Otherwise a word for the zero value counts if the type is a value type. The argument
  is the zero value, if there is any.
- Any other token is handed to the parser as it is, and the argument is what comes of
  that.

The parser is not called in the first two cases, in which the session stays as it is. -/
theorem words_win {s : Session σ} {p : Parameter} {e : ParserEntry (Program σ)}
    (hentry : s.parsers.Holds p.type e) (start : Program σ → Action σ Reply) (token : String) :
    let isValue := p.type.isPrimitive = true ∨ p.type.isEnumeration = true
      ∨ e.default?.isSome = true
    let saysNull := (p.nullable = true ∨ ¬ isValue) ∧ (Text.lower token = "null" ∨ token = "~")
    let saysAbsent := p.nullable = true ∧ Text.lower token = "default"
    let saysZero := isValue ∧ (Text.lower token = "default" ∨ token = "~")
    (s.parsers.isValueType p.type = true ↔ isValue)
      ∧ (saysNull ∨ saysAbsent →
          within s (coerce start token p) = (.ok ⟨.null, .none, p.type⟩, s))
      ∧ (¬ saysNull → ¬ saysAbsent → saysZero →
          (∃ x v, e.IsZero p.type x ∧ v.object = x ∧ within s (coerce start token p) = (.ok v, s))
          ∨ p.type.isEnumeration = true ∧ (∀ x, ¬ e.IsZero p.type x)
            ∧ ∃ q, within s (coerce start token p) = (.error (.problem q), s))
      ∧ (¬ saysNull → ¬ saysAbsent → ¬ saysZero →
          within s (coerce start token p)
            = valued p.type (within { s with events := .parsed p.type token :: s.events }
              (start (e.parse token)))) := by
  intro isValue saysNull saysAbsent saysZero
  have hvalue : s.parsers.isValueType p.type = true ↔ isValue := hentry.isValueType_iff
  have hleft : s.parsers.LeavesOut token p ↔ saysNull ∨ saysAbsent := by
    unfold Parsers.LeavesOut
    rw [Parsers.mem_nullWords_iff, ← Bool.not_eq_true, hvalue]
  have hzero : s.parsers.isValueType p.type = true ∧ Text.lower token ∈ defaultWords
      ↔ saysZero := by
    rw [Parsers.mem_defaultWords_iff, hvalue]
  refine ⟨hvalue, fun hsays => ?_, fun hnull habsent hsays => ?_, fun hnull habsent hother => ?_⟩
  · rw [within_coerce, hentry.route_leftOut (hleft.2 hsays)]
    rfl
  · have hkept := mt hleft.1 (not_or.2 ⟨hnull, habsent⟩)
    obtain ⟨htype, hword⟩ := hzero.2 hsays
    rw [within_coerce, hentry.route_kept hkept, Parsers.routeByType_zero htype hword]
    refine (hentry.zero_cases htype).imp ?_ ?_
    · rintro ⟨x, hx, hobject⟩
      rw [hobject]
      exact ⟨x, .ofObject x p.type, hx, by cases x <;> rfl, rfl⟩
    · rintro ⟨henumeration, hnone, q, hproblem⟩
      rw [hproblem]
      exact ⟨henumeration, hnone, q, rfl⟩
  · have hkept := mt hleft.1 (not_or.2 ⟨hnull, habsent⟩)
    rw [within_coerce, hentry.route_kept hkept, hentry.routeByType_parse (mt hzero.1 hother)]

/-- A class that was registered with a zero value has it for the tilde, and its parser is
given the word for the absent object. -/
theorem words_win_tag :
    let s := asking tagClass ⟨[⟨tagClass, evasive, some (.text "blank")⟩]⟩
    let p : Parameter := ⟨"p", "", tagClass, false⟩
    (∃ v, v.object = .text "blank" ∧ within s (coerce (Session.start 1) "~" p) = (.ok v, s))
      ∧ within s (coerce (Session.start 1) "Null" p)
        = valued tagClass (within { s with events := .parsed tagClass "Null" :: s.events }
          (Session.start 1 (evasive "Null"))) := by
  intro s p
  have hentry : s.parsers.Holds p.type ⟨tagClass, evasive, some (.text "blank")⟩ := ⟨rfl, rfl⟩
  have hnull : Text.lower "Null" = "null" := by decide +kernel
  obtain ⟨-, -, hzero, -⟩ := words_win hentry (Session.start 1) "~"
  obtain ⟨-, -, -, hparse⟩ := words_win hentry (Session.start 1) "Null"
  refine ⟨?_, hparse ?_ ?_ ?_⟩
  · obtain ⟨x, v, hx, hv, hcoerce⟩ | ⟨henumeration, -⟩ :=
      hzero (by simp [p]) (by simp [p]) ⟨.inr (.inr rfl), .inr rfl⟩
    · obtain hx | ⟨hx, -⟩ := hx
      · cases hx
        exact ⟨v, hv, hcoerce⟩
      · cases hx
    · cases henumeration
  · simp [p]
  · simp [p]
  · rw [hnull]
    simp

end Session

end CommandConsole
