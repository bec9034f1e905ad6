/-
Canonical forms are stable: a canonical form has no blanks, its letters are
small, and so it is its own canonical form (`canonical_canonical`). Looking
a name up by a canonical form is looking it up by the name. Spellings that
differ in their blanks only have one canonical form
(`canonical_of_respaced`).
-/
import CommandConsole.Proofs.Text.Lower
import CommandConsole.Text.Casing

namespace CommandConsole.Text

/-- Nothing is dropped from a text without blanks. -/
theorem withoutBlanks_of_forall {s : String} (h : ∀ c ∈ s.toList, isBlank c = false) :
    withoutBlanks s = s := by
  unfold withoutBlanks
  rw [List.filter_eq_self.2 fun c hc => by rw [h c hc, Bool.not_false], String.ofList_toList]

/-- No blank is left of a text without its blanks. -/
theorem isBlank_of_mem_withoutBlanks {s : String} :
    ∀ c ∈ (withoutBlanks s).toList, isBlank c = false := by
  intro c hc
  unfold withoutBlanks at hc
  rw [String.toList_ofList, List.mem_filter] at hc
  simpa using hc.2

/-- A canonical form has no blanks. -/
theorem isBlank_of_mem_canonical {s : String} :
    ∀ c ∈ (canonical s).toList, isBlank c = false :=
  fun _ hc => isBlank_of_mem_lower isBlank_of_mem_withoutBlanks hc

/-- A canonical form is its own canonical form. -/
theorem canonical_canonical (s : String) : canonical (canonical s) = canonical s := by
  rw [canonical, withoutBlanks_of_forall isBlank_of_mem_canonical]
  exact lower_lower (withoutBlanks s)

-- ================================================================ spacing

/-- The one row of characters comes of the other when blanks are put in or
taken out, at any places. -/
inductive Respaced : List Char → List Char → Prop
  | nil : Respaced [] []
  | keep (c : Char) {cs ds : List Char} (h : Respaced cs ds) : Respaced (c :: cs) (c :: ds)
  | drop {c : Char} {cs ds : List Char} (hblank : isBlank c = true) (h : Respaced cs ds) :
      Respaced (c :: cs) ds
  | insert {c : Char} {cs ds : List Char} (hblank : isBlank c = true) (h : Respaced cs ds) :
      Respaced cs (c :: ds)

/-- Rows that differ in their blanks have the same other characters. -/
theorem Respaced.filter_eq {cs ds : List Char} (h : Respaced cs ds) :
    (cs.filter fun c => !isBlank c) = ds.filter fun c => !isBlank c := by
  induction h with
  | nil => rfl
  | keep c _ ih => rw [List.filter_cons, List.filter_cons, ih]
  | drop hblank _ ih => rw [List.filter_cons_of_neg (by simp [hblank]), ih]
  | insert hblank _ ih => rw [List.filter_cons_of_neg (by simp [hblank]), ih]

/-- Texts that differ in their blanks have one canonical form. -/
theorem canonical_of_respaced {s t : String} (h : Respaced s.toList t.toList) :
    canonical t = canonical s := by
  unfold canonical withoutBlanks
  rw [h.filter_eq]

end CommandConsole.Text
