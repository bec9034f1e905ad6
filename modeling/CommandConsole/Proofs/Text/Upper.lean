/-
What lower case makes of a text in upper case.

To put a text into upper case and then into lower case is not always to put it into
lower case. It is if each character by itself comes back (`Returns`), and if every small
sigma has the form that its place asks for, since only one of the two forms can come back
from the capital one (`lowerFrom_upper_iff`).

- A character that becomes several in upper case does not come back, for no more than one
  can become one again. So the capital letters of a text that comes back stand one by one
  for its own (`turns_of_weight_eq`).
- A capital letter is cased if its small one is, and is passed over just if that is
  (`keepsCase_of_returns`). So a sigma has neighbours of the same kind in both.

Blanks are their own capital forms, and nothing else becomes one, so that it is the same
for canonical forms (`canonical_upper_iff`).
-/
import Mathlib.Tactic.MkIffOfInductiveProp
import CommandConsole.Proofs.Text.Parts

namespace CommandConsole.Text

-- =============================================================== the tables

/-- The code points of some runs as the bits of a number, so that a question about a
stretch of them is one operation on numbers. -/
def bits (runs : List (Nat × Nat)) : Nat :=
  runs.foldr (fun run rest => (2 ^ (run.2 + 1 - run.1) - 1) <<< run.1 ||| rest) 0

/-- The bits of the code points from `low` to `high`. -/
def window (runs : List (Nat × Nat)) (low high : Nat) : Nat :=
  (bits runs >>> low) % 2 ^ (high + 1 - low)

/-- Every code point from `low` to `high`, in steps, lies in one of the runs. -/
def spans (runs : List (Nat × Nat)) (low high step : Nat) : Bool :=
  (List.range (high + 1 - low)).all fun k =>
    !Nat.beq (k % step) 0 || (window runs low high).testBit k

/-- No code point from `low` to `high` lies in one of the runs. -/
def clears (runs : List (Nat × Nat)) (low high : Nat) : Bool := Nat.beq (window runs low high) 0

theorem testBit_bits (runs : List (Nat × Nat)) (n : Nat) :
    (bits runs).testBit n = inRuns runs n := by
  unfold bits inRuns
  induction runs with
  | nil => exact Nat.zero_testBit n
  | cons run rest ih =>
      have hrun : ((2 ^ (run.2 + 1 - run.1) - 1) <<< run.1).testBit n
          = (decide (run.1 ≤ n) && decide (n ≤ run.2)) := by
        rw [Nat.testBit_shiftLeft, Nat.testBit_two_pow_sub_one, ← Bool.decide_and,
          ← Bool.decide_and]
        exact decide_eq_decide.2 (by omega)
      rw [List.foldr_cons, Nat.testBit_or, ih, hrun, List.any_cons]

theorem testBit_window {runs : List (Nat × Nat)} {low high k : Nat} (hk : low + k ≤ high) :
    (window runs low high).testBit k = inRuns runs (low + k) := by
  unfold window
  rw [Nat.testBit_mod_two_pow, Nat.testBit_shiftRight, testBit_bits,
    decide_eq_true (by omega), Bool.true_and]

theorem inRuns_of_spans {runs : List (Nat × Nat)} {low high step k : Nat}
    (h : spans runs low high step = true) (hstep : k % step = 0) (hk : low + k ≤ high) :
    inRuns runs (low + k) = true := by
  have hletter := List.all_eq_true.1 h k (List.mem_range.2 (by omega))
  rw [hstep, testBit_window hk] at hletter
  exact hletter

theorem inRuns_of_clears {runs : List (Nat × Nat)} {low high n : Nat}
    (h : clears runs low high = true) (hlow : low ≤ n) (hhigh : n ≤ high) :
    inRuns runs n = false := by
  have hk : low + (n - low) = n := Nat.add_sub_cancel' hlow
  have hbit : (window runs low high).testBit (n - low) = inRuns runs (low + (n - low)) :=
    testBit_window (by omega)
  rw [Nat.eq_of_beq_eq_true h, Nat.zero_testBit, hk] at hbit
  exact hbit.symm

/-- What holds of a letter that is written as several: it is no blank, and neither is any
of them, nor a capital I with a dot above, and the plain table has no such letter. -/
@[mk_iff]
structure Expands (entry : Nat × List Nat) : Prop where
  several : 2 ≤ entry.2.length
  notPlain : 0x80 ≤ entry.1
  notBlank : clears blankRuns entry.1 entry.1 = true
  capitals : ∀ n ∈ entry.2, n < 0xD800 ∧ n ≠ 0x130 ∧ clears blankRuns n n = true

instance : DecidablePred Expands := fun entry => decidable_of_iff _ (expands_iff entry).symm

theorem upperExpansions_expand : ∀ entry ∈ upperExpansions, Expands entry := by
  decide +kernel

/-- What holds of a run of letters and the characters they are mapped to. None of those is
a capital I with a dot above, and only the two small sigmas are mapped to the capital one.
All of them are cased, but no blanks, and none but one mark is case-ignorable. -/
@[mk_iff]
structure CaseRun.Capitalizes (run : CaseRun) : Prop where
  characters : run.misses 0xD800 0xDFFF = true ∧ Nat.blt run.lastTarget 0x110000 = true
  notDotted : run.misses 0x130 0x130 = true
  sigma : run.misses 0x3A3 0x3A3 = true
    ∨ run.target = 0x3A3 ∧ (run.first = 0x3C2 ∨ run.first = 0x3C3)
  notBlank : clears blankRuns run.first run.last = true
    ∧ clears blankRuns run.target run.lastTarget = true
  cased : spans casedRuns run.first run.last run.step = true
    ∧ spans casedRuns run.target run.lastTarget run.step = true
  notIgnorable : run.first = 0x345 ∧ run.last = 0x345
    ∨ clears caseIgnorableRuns run.first run.last = true
      ∧ clears caseIgnorableRuns run.target run.lastTarget = true
  plain : 0x80 ≤ run.first ∨ run.first = 0x61 ∧ run.last = 0x7A ∧ run.target = 0x41

instance : DecidablePred CaseRun.Capitalizes :=
  fun run => decidable_of_iff _ run.capitalizes_iff.symm

theorem upperRuns_capitalize : ∀ run ∈ upperRuns, run.Capitalizes := by
  decide +kernel

-- ============================================================ one character

/-- The characters that a character becomes in upper case. -/
inductive Capitals (c : Char) : List Char → Prop
  | several {codes : List Nat} (h : (c.toNat, codes) ∈ upperExpansions) :
      Capitals c (codes.map Char.ofNat)
  | one {run : CaseRun} {m : Nat} (hrun : run ∈ upperRuns) (hm : run.image? c.toNat = some m) :
      Capitals c [Char.ofNat m]
  /-- It stays as it is. -/
  | same : Capitals c [c]

theorem capitals_upperChar (c : Char) : Capitals c (upperChar c) := by
  unfold upperChar
  cases hexpansion : expansion? upperExpansions c.toNat with
  | some cs =>
      obtain ⟨codes, hcodes, rfl⟩ := Option.map_eq_some_iff.1 hexpansion
      obtain ⟨before, after, htable, -⟩ := List.lookup_eq_some_iff.1 hcodes
      refine .several ?_
      rw [htable]
      exact List.mem_append_right before List.mem_cons_self
  | none =>
      dsimp only
      cases hlookup : CaseRun.lookup? upperRuns c.toNat with
      | some m =>
          obtain ⟨run, hrun, hm⟩ := CaseRun.exists_of_lookup?_eq_some hlookup
          exact .one hrun hm
      | none => exact .same

/-- What the table of capital letters maps a letter to is the code point of a character. -/
theorem toNat_of_upperRuns {run : CaseRun} {n m : Nat} (hrun : run ∈ upperRuns)
    (hm : run.image? n = some m) : (Char.ofNat m).toNat = m := by
  obtain ⟨hsurrogate, hbound⟩ := (upperRuns_capitalize run hrun).characters
  exact CaseRun.toNat_of_image? hsurrogate hbound hm

/-- A character that does not stay as it is and what it becomes are no blanks, and it does
not become the capital I with a dot above. -/
theorem upperChar_apart (c : Char) :
    upperChar c = [c]
      ∨ isBlank c = false ∧ ∀ d ∈ upperChar c, isBlank d = false ∧ d ≠ 'İ' := by
  have hdotted : 'İ'.toNat = 0x130 := by decide
  have hcapitals := capitals_upperChar c
  generalize upperChar c = cs at hcapitals
  cases hcapitals with
  | same => exact .inl rfl
  | @several codes h =>
      have hexpands := upperExpansions_expand _ h
      refine .inr ⟨?_, fun d hd => ?_⟩
      · exact inRuns_of_clears hexpands.notBlank (Nat.le_refl _) (Nat.le_refl _)
      · obtain ⟨n, hn, rfl⟩ := List.mem_map.1 hd
        obtain ⟨hlow, hne, hclear⟩ := hexpands.capitals n hn
        have htoNat : (Char.ofNat n).toNat = n := by
          unfold Char.ofNat
          rw [dif_pos (.inl hlow)]
          rfl
        constructor
        · unfold isBlank
          rw [htoNat]
          exact inRuns_of_clears hclear (Nat.le_refl _) (Nat.le_refl _)
        · intro heq
          rw [heq, hdotted] at htoNat
          exact hne htoNat.symm
  | @one run m hrun hm =>
      have htoNat := toNat_of_upperRuns hrun hm
      have hcapitalizes := upperRuns_capitalize run hrun
      obtain ⟨hletters, htargets⟩ := hcapitalizes.notBlank
      obtain ⟨hfirst, hlast, -, htarget⟩ := CaseRun.image?_eq_some_iff.1 hm
      refine .inr ⟨inRuns_of_clears hletters hfirst hlast, fun d hd => ?_⟩
      obtain rfl := List.mem_singleton.1 hd
      constructor
      · unfold isBlank
        rw [htoNat]
        unfold CaseRun.lastTarget at htargets
        exact inRuns_of_clears htargets (by omega) (by omega)
      · intro heq
        rw [heq, hdotted] at htoNat
        exact CaseRun.notMem_of_misses hcapitalizes.notDotted hm
          ⟨Nat.le_of_eq htoNat, Nat.le_of_eq htoNat.symm⟩

theorem upperChar_ne_nil (c : Char) : upperChar c ≠ [] := by
  have hcapitals := capitals_upperChar c
  generalize upperChar c = cs at hcapitals
  cases hcapitals with
  | same | one => exact List.cons_ne_nil _ _
  | several h =>
      have hseveral := (upperExpansions_expand _ h).several
      intro hnil
      rw [List.map_eq_nil_iff] at hnil
      rw [hnil] at hseveral
      cases hseveral

/-- A blank stays as it is, -/
theorem upperChar_of_isBlank {c : Char} (h : isBlank c = true) : upperChar c = [c] := by
  rcases upperChar_apart c with hsame | ⟨hblank, -⟩
  · exact hsame
  · cases h.symm.trans hblank

/-- and nothing else becomes a blank. -/
theorem isBlank_of_mem_upperChar {c d : Char} (hc : isBlank c = false) (hd : d ∈ upperChar c) :
    isBlank d = false := by
  rcases upperChar_apart c with hsame | ⟨-, hothers⟩
  · rw [hsame, List.mem_singleton] at hd
    rw [hd, hc]
  · exact (hothers d hd).1

/-- Nothing but itself becomes the capital I with a dot above. -/
theorem eq_dotted_of_mem_upperChar {c : Char} (h : 'İ' ∈ upperChar c) : c = 'İ' := by
  rcases upperChar_apart c with hsame | ⟨-, hothers⟩
  · rw [hsame, List.mem_singleton] at h
    exact h.symm
  · exact absurd rfl (hothers 'İ' h).2

-- =========================================================== one for another

/-- The first of the characters that a character becomes in upper case. -/
def capital (c : Char) : Char := (upperChar c).headD c

/-- A character becomes one capital letter, with a dot above just if it has one
already. -/
structure Turns (c : Char) : Prop where
  upperChar_eq : upperChar c = [capital c]
  dotted_iff : capital c = 'İ' ↔ c = 'İ'

theorem upperChar_dotted : upperChar 'İ' = ['İ'] := by
  decide +kernel

theorem capital_of_eq {c d : Char} (h : upperChar c = [d]) : capital c = d := by
  unfold capital
  rw [h]
  rfl

theorem turns_of_eq {c d : Char} (h : upperChar c = [d]) : Turns c := by
  refine ⟨by rw [capital_of_eq h, h], ?_⟩
  rw [capital_of_eq h]
  constructor
  · rintro rfl
    exact eq_dotted_of_mem_upperChar (h ▸ List.mem_singleton_self _)
  · rintro rfl
    exact List.singleton_inj.1 (h.symm.trans upperChar_dotted)

/-- The capital letter is the character itself, or what the table maps it to. -/
theorem Turns.capital_cases {c : Char} (h : Turns c) :
    capital c = c
      ∨ ∃ run ∈ upperRuns, ∃ m, run.image? c.toNat = some m ∧ capital c = Char.ofNat m := by
  have hcapitals := capitals_upperChar c
  rw [h.upperChar_eq] at hcapitals
  generalize hcs : [capital c] = cs at hcapitals
  cases hcapitals with
  | same => exact .inl (List.singleton_inj.1 hcs)
  | one hrun hm => exact .inr ⟨_, hrun, _, hm, List.singleton_inj.1 hcs⟩
  | @several codes hcodes =>
      have hseveral : 2 ≤ codes.length := (upperExpansions_expand _ hcodes).several
      have hlength := congrArg List.length hcs
      rw [List.length_singleton, List.length_map] at hlength
      omega

/-- How many characters become of some characters in lower case. -/
def weight (cs : List Char) : Nat := cs.length + cs.count 'İ'

theorem weight_append (cs ds : List Char) : weight (cs ++ ds) = weight cs + weight ds := by
  unfold weight
  rw [List.length_append, List.count_append]
  omega

/-- A character never becomes shorter by being put into upper case first, and no longer
only if it turns into one capital letter. -/
theorem weight_upperChar (c : Char) :
    weight [c] ≤ weight (upperChar c) ∧ (weight (upperChar c) = weight [c] → Turns c) := by
  by_cases hdotted : c = 'İ'
  · subst hdotted
    rw [upperChar_dotted]
    exact ⟨Nat.le_refl _, fun _ => turns_of_eq upperChar_dotted⟩
  · have hone : weight [c] = 1 := by
      unfold weight
      rw [List.count_singleton, if_neg (by simpa using hdotted)]
      rfl
    have hnone : weight (upperChar c) = (upperChar c).length := by
      have hnot : 'İ' ∉ upperChar c := fun h => hdotted (eq_dotted_of_mem_upperChar h)
      unfold weight
      rw [List.count_eq_zero_of_not_mem hnot, Nat.add_zero]
    rw [hone, hnone]
    refine ⟨List.length_pos_iff.2 (upperChar_ne_nil c), fun hlength => ?_⟩
    obtain ⟨d, hd⟩ := List.length_eq_one_iff.1 hlength
    exact turns_of_eq hd

theorem weight_le (cs : List Char) : weight cs ≤ weight (cs.flatMap upperChar) := by
  induction cs with
  | nil => exact Nat.le_refl _
  | cons c cs ih =>
      have hfirst := (weight_upperChar c).1
      rw [List.flatMap_cons, weight_append, ← List.singleton_append, weight_append]
      omega

/-- If a text does not become longer, each of its characters turns into one capital
letter. -/
theorem turns_of_weight_eq {cs : List Char} (h : weight (cs.flatMap upperChar) = weight cs) :
    ∀ c ∈ cs, Turns c := by
  induction cs with
  | nil => exact fun c hc => absurd hc List.not_mem_nil
  | cons c cs ih =>
      obtain ⟨hfirst, hturns⟩ := weight_upperChar c
      have hrest := weight_le cs
      rw [List.flatMap_cons, weight_append, ← List.singleton_append, weight_append] at h
      intro d hd
      rcases List.mem_cons.1 hd with rfl | hd
      · exact hturns (by omega)
      · exact ih (by omega) d hd

theorem flatMap_upperChar {cs : List Char} (h : ∀ c ∈ cs, Turns c) :
    cs.flatMap upperChar = cs.map capital := by
  induction cs with
  | nil => rfl
  | cons c cs ih =>
      rw [List.flatMap_cons, (h c List.mem_cons_self).upperChar_eq,
        ih fun d hd => h d (List.mem_cons_of_mem c hd)]
      rfl

theorem length_lowerFrom (before cs : List Char) : (lowerFrom before cs).length = weight cs := by
  rw [← lowerAmid_nil, length_lowerAmid]
  rfl

-- =========================================================== characters that return

/-- A character has the same lower-case form if it is put into upper case first. -/
def Returns (c : Char) : Prop := (upperChar c).flatMap lowerChar = lowerChar c

instance (c : Char) : Decidable (Returns c) := inferInstanceAs (Decidable (_ = _))

theorem length_flatMap_lowerChar (cs : List Char) : (cs.flatMap lowerChar).length = weight cs := by
  induction cs with
  | nil => rfl
  | cons c cs ih =>
      rw [List.flatMap_cons, List.length_append, length_lowerChar, ih, ← List.singleton_append,
        weight_append]
      congr 1
      unfold weight
      by_cases hdotted : c = 'İ'
      · simp [hdotted]
      · simp [hdotted]

theorem Returns.turns {c : Char} (h : Returns c) : Turns c := by
  refine (weight_upperChar c).2 ?_
  have hlength := congrArg List.length h
  rw [length_flatMap_lowerChar] at hlength
  rw [hlength, ← List.flatMap_singleton lowerChar c, length_flatMap_lowerChar]

/-- A character is cased and case-ignorable as its capital letter is. -/
structure KeepsCase (c : Char) : Prop where
  isCased_eq : isCased (capital c) = isCased c
  isCaseIgnorable_eq : isCaseIgnorable (capital c) = isCaseIgnorable c

/-- A character of the table of capital letters keeps its case, but for one mark. -/
theorem keepsCase_of_upperRuns {run : CaseRun} {c : Char} {m : Nat} (hrun : run ∈ upperRuns)
    (hm : run.image? c.toNat = some m) (hmark : c.toNat ≠ 0x345)
    (hcapital : capital c = Char.ofNat m) : KeepsCase c := by
  have htoNat := toNat_of_upperRuns hrun hm
  have hcapitalizes := upperRuns_capitalize run hrun
  obtain ⟨hfirst, hlast, hstep, htarget⟩ := CaseRun.image?_eq_some_iff.1 hm
  have hcased := hcapitalizes.cased
  have hclear := hcapitalizes.notIgnorable.resolve_left fun h => hmark (by omega)
  unfold CaseRun.lastTarget at hcased hclear
  have hletter : isCased c = true := by
    unfold isCased
    have hspan := inRuns_of_spans hcased.1 hstep (by omega)
    rwa [Nat.add_sub_cancel' hfirst] at hspan
  have hbig : isCased (capital c) = true := by
    unfold isCased
    rw [hcapital, htoNat, htarget]
    exact inRuns_of_spans hcased.2 hstep (by omega)
  have hletter' : isCaseIgnorable c = false :=
    inRuns_of_clears hclear.1 hfirst hlast
  have hbig' : isCaseIgnorable (capital c) = false := by
    unfold isCaseIgnorable
    rw [hcapital, htoNat]
    exact inRuns_of_clears hclear.2 (by omega) (by omega)
  exact ⟨hbig.trans hletter.symm, hbig'.trans hletter'.symm⟩

/-- Each of the three sigmas turns into the capital one. It returns by itself, unless it is
the final one, and it is in lower case, unless it is the capital one. -/
theorem sigma_cases {c : Char} (h : c = 'Σ' ∨ c = 'σ' ∨ c = 'ς') :
    upperChar c = ['Σ'] ∧ (Returns c ∨ c = 'ς') ∧ (c = 'Σ' ∨ lowerChar c = [c]) := by
  rcases h with rfl | rfl | rfl
  all_goals decide +kernel

theorem turns_of_returns {c : Char} (h : Returns c ∨ c = 'ς') : Turns c := by
  rcases h with h | rfl
  · exact h.turns
  · exact turns_of_eq (sigma_cases (.inr (.inr rfl))).1

theorem keepsCase_of_returns {c : Char} (h : Returns c ∨ c = 'ς') : KeepsCase c := by
  have hmark : c.toNat ≠ 0x345 := by
    intro heq
    have hc : c = Char.ofNat 0x345 := by
      rw [← heq, Char.ofNat_toNat]
    rw [hc] at h
    exact absurd h (by decide +kernel)
  rcases (turns_of_returns h).capital_cases with hsame | ⟨run, hrun, m, hm, hcapital⟩
  · exact ⟨congrArg isCased hsame, congrArg isCaseIgnorable hsame⟩
  · exact keepsCase_of_upperRuns hrun hm hmark hcapital

/-- Only a sigma turns into the capital sigma. -/
theorem eq_sigma_of_capital {c : Char} (hturns : Turns c) (h : capital c = 'Σ') :
    c = 'Σ' ∨ c = 'σ' ∨ c = 'ς' := by
  rcases hturns.capital_cases with hsame | ⟨run, hrun, m, hm, hcapital⟩
  · exact .inl (hsame.symm.trans h)
  · have hm' : m = 0x3A3 := by
      have htoNat := toNat_of_upperRuns hrun hm
      rw [← hcapital, h] at htoNat
      exact htoNat.symm
    subst hm'
    have hfinal : 'ς'.toNat = 0x3C2 := by decide
    have hinner : 'σ'.toNat = 0x3C3 := by decide
    have hsigma := (upperRuns_capitalize run hrun).sigma.resolve_left fun hmisses =>
      CaseRun.notMem_of_misses hmisses hm ⟨Nat.le_refl _, Nat.le_refl _⟩
    obtain ⟨hfirst, -, -, htarget⟩ := CaseRun.image?_eq_some_iff.1 hm
    rcases hsigma.2 with hletter | hletter
    · exact .inr (.inr (Char.toNat_inj.1 (by omega)))
    · exact .inr (.inl (Char.toNat_inj.1 (by omega)))

-- =================================================================== in place

theorem meetsCased_map {cs : List Char} (h : ∀ c ∈ cs, KeepsCase c) :
    meetsCased (cs.map capital) = meetsCased cs := by
  induction cs with
  | nil => rfl
  | cons c cs ih =>
      have hc := h c List.mem_cons_self
      have hrest := ih fun d hd => h d (List.mem_cons_of_mem c hd)
      unfold meetsCased at hrest ⊢
      rw [List.map_cons, List.dropWhile_cons, List.dropWhile_cons, hc.isCaseIgnorable_eq]
      cases isCaseIgnorable c with
      | true => exact hrest
      | false => exact hc.isCased_eq

theorem lowerBetween_of_ne {before after : List Char} {c : Char} (h : c ≠ 'Σ') :
    lowerBetween before c after = lowerChar c := by
  have hne : c.toNat ≠ 0x3A3 := fun heq => h (Char.toNat_inj.1 heq)
  unfold lowerBetween
  rw [if_neg hne]

/-- The neighbours of a character may be put into upper case if they keep their case. -/
theorem lowerBetween_map {before after : List Char} (c : Char) (hbefore : ∀ d ∈ before, KeepsCase d)
    (hafter : ∀ d ∈ after, KeepsCase d) :
    lowerBetween (before.map capital) c (after.map capital) = lowerBetween before c after := by
  unfold lowerBetween
  rw [meetsCased_map hbefore, meetsCased_map hafter]

/-- A text whose characters are replaced one by one, and keep their length in lower case,
has the same lower case just if each of them has the same one in its place. -/
theorem lowerFrom_map_eq_iff {f : Char → Char} {cs : List Char}
    (h : ∀ c ∈ cs, f c = 'İ' ↔ c = 'İ') : ∀ seen read : List Char,
      lowerFrom seen (cs.map f) = lowerFrom read cs
        ↔ ∀ before c after, cs = before ++ c :: after →
            lowerBetween (before.reverse.map f ++ seen) (f c) (after.map f)
              = lowerBetween (before.reverse ++ read) c after := by
  induction cs with
  | nil =>
      intro seen read
      refine iff_of_true rfl ?_
      intro before c after hsplit
      simp at hsplit
  | cons c cs ih =>
      intro seen read
      have hlength : (lowerBetween seen (f c) (cs.map f)).length
          = (lowerBetween read c cs).length := by
        simp only [length_lowerBetween, h c List.mem_cons_self]
      have hrest := ih (fun d hd => h d (List.mem_cons_of_mem c hd)) (f c :: seen) (c :: read)
      rw [List.map_cons, lowerFrom, lowerFrom]
      constructor
      · intro heq
        obtain ⟨hfirst, heq⟩ := List.append_inj heq hlength
        intro before d after hsplit
        cases before with
        | nil =>
            obtain ⟨rfl, rfl⟩ := List.cons.inj hsplit
            exact hfirst
        | cons b before =>
            obtain ⟨rfl, hbehind⟩ := List.cons.inj hsplit
            have hplace := hrest.1 heq before d after hbehind
            simpa using hplace
      · intro hall
        have hfirst := hall [] c cs rfl
        have heq : lowerFrom (f c :: seen) (cs.map f) = lowerFrom (c :: read) cs := by
          refine hrest.2 fun before d after hsplit => ?_
          have hplace := hall (c :: before) d after (by rw [hsplit]; rfl)
          simpa using hplace
        rw [heq]
        congr 1

-- ============================================================== whole texts

/-- The characters of a text come back from upper case: each of them by itself, unless it
is a final sigma, and each small sigma has the form that its place asks for. -/
structure ComesBack (cs : List Char) : Prop where
  returns : ∀ c ∈ cs, Returns c ∨ c = 'ς'
  sigmas : ∀ before c after, cs = before ++ c :: after → c = 'σ' ∨ c = 'ς' →
    lowerBetween before.reverse 'Σ' after = [c]

theorem Turns.returns_iff {c : Char} (h : Turns c) :
    Returns c ↔ lowerChar (capital c) = lowerChar c := by
  unfold Returns
  rw [h.upperChar_eq, List.flatMap_singleton]

/-- A character that is no sigma is put into lower case in the same way in any place, and
so is its capital letter. -/
theorem lowerBetween_of_notSigma {c : Char} (hturns : Turns c)
    (hsigma : ¬ (c = 'Σ' ∨ c = 'σ' ∨ c = 'ς')) (before after : List Char) :
    lowerBetween before c after = lowerChar c
      ∧ lowerBetween before (capital c) after = lowerChar (capital c) :=
  ⟨lowerBetween_of_ne fun h => hsigma (.inl h),
    lowerBetween_of_ne fun h => hsigma (eq_sigma_of_capital hturns h)⟩

/-- A character that has the same lower-case form as its capital letter, wherever the two
of them stand, returns by itself or is a final sigma. -/
theorem returns_of_lowerBetween_eq {seen rest before after : List Char} {c : Char}
    (hturns : Turns c) (h : lowerBetween seen (capital c) rest = lowerBetween before c after) :
    Returns c ∨ c = 'ς' := by
  by_cases hsigma : c = 'Σ' ∨ c = 'σ' ∨ c = 'ς'
  · exact (sigma_cases hsigma).2.1
  · have hsmall := (lowerBetween_of_notSigma hturns hsigma before after).1
    have hbig := (lowerBetween_of_notSigma hturns hsigma seen rest).2
    rw [hsmall, hbig] at h
    exact .inl (hturns.returns_iff.2 h)

/-- In its place such a character has the same form as its capital letter, unless it is a
small sigma of the other form. -/
theorem lowerBetween_capital_iff {before after : List Char} {c : Char} (hturns : Turns c)
    (hreturns : Returns c ∨ c = 'ς') :
    lowerBetween before (capital c) after = lowerBetween before c after
      ↔ (c = 'σ' ∨ c = 'ς' → lowerBetween before 'Σ' after = [c]) := by
  by_cases hsigma : c = 'Σ' ∨ c = 'σ' ∨ c = 'ς'
  · obtain ⟨hcapital, -, hlower⟩ := sigma_cases hsigma
    rw [capital_of_eq hcapital]
    by_cases hbig : c = 'Σ'
    · subst hbig
      refine iff_of_true rfl fun h => absurd h (by decide)
    · rw [lowerBetween_of_ne hbig, hlower.resolve_left hbig]
      exact ⟨fun h _ => h, fun h => h (hsigma.resolve_left hbig)⟩
  · refine iff_of_true ?_ fun h => absurd (.inr h) hsigma
    obtain ⟨hown, hother⟩ := lowerBetween_of_notSigma hturns hsigma before after
    have hback : Returns c := hreturns.resolve_right fun heq => hsigma (.inr (.inr heq))
    rw [hown, hother]
    exact hturns.returns_iff.1 hback

/-- Characters in upper case and then in lower case are what they are in lower case just
if they come back. -/
theorem lowerFrom_upper_iff (cs : List Char) :
    lowerFrom [] (cs.flatMap upperChar) = lowerFrom [] cs ↔ ComesBack cs := by
  have hplaces : (∀ c ∈ cs, Turns c) →
      (lowerFrom [] (cs.flatMap upperChar) = lowerFrom [] cs
        ↔ ∀ before c after, cs = before ++ c :: after →
            lowerBetween (before.reverse.map capital) (capital c) (after.map capital)
              = lowerBetween before.reverse c after) := by
    intro hturns
    rw [flatMap_upperChar hturns, lowerFrom_map_eq_iff fun c hc => (hturns c hc).dotted_iff]
    simp only [List.append_nil]
  -- among characters that return, the neighbours may stay in lower case
  have hneighbours : (∀ c ∈ cs, Returns c ∨ c = 'ς') → ∀ before c after,
      cs = before ++ c :: after →
        lowerBetween (before.reverse.map capital) (capital c) (after.map capital)
          = lowerBetween before.reverse (capital c) after := by
    intro hreturns before c after hsplit
    refine lowerBetween_map (capital c) (fun d hd => ?_) (fun d hd => ?_)
    · refine keepsCase_of_returns (hreturns d ?_)
      rw [hsplit]
      exact List.mem_append_left _ (List.mem_reverse.1 hd)
    · refine keepsCase_of_returns (hreturns d ?_)
      rw [hsplit]
      exact List.mem_append_right before (List.mem_cons_of_mem c hd)
  have hmem : ∀ {before c after}, cs = before ++ c :: after → c ∈ cs := by
    rintro before c after rfl
    exact List.mem_append_right before List.mem_cons_self
  constructor
  · intro heq
    have hweight : weight (cs.flatMap upperChar) = weight cs := by
      rw [← length_lowerFrom [], ← length_lowerFrom [], heq]
    have hturns := turns_of_weight_eq hweight
    have hall := (hplaces hturns).1 heq
    have hreturns : ∀ c ∈ cs, Returns c ∨ c = 'ς' := by
      intro c hc
      obtain ⟨before, after, hsplit⟩ := List.append_of_mem hc
      exact returns_of_lowerBetween_eq (hturns c hc) (hall before c after hsplit)
    refine ⟨hreturns, fun before c after hsplit => ?_⟩
    have hc := hmem hsplit
    rw [← lowerBetween_capital_iff (hturns c hc) (hreturns c hc),
      ← hneighbours hreturns before c after hsplit]
    exact hall before c after hsplit
  · intro hback
    have hturns : ∀ c ∈ cs, Turns c := fun c hc => turns_of_returns (hback.returns c hc)
    refine (hplaces hturns).2 fun before c after hsplit => ?_
    have hc := hmem hsplit
    rw [hneighbours hback.returns before c after hsplit]
    exact (lowerBetween_capital_iff (hturns c hc) (hback.returns c hc)).2
      (hback.sigmas before c after hsplit)

theorem lowerChar_of_plain {n : Nat} (hA : 0x41 ≤ n) (hZ : n ≤ 0x5A) :
    lowerChar (Char.ofNat n) = [Char.ofNat (n + 0x20)] := by
  have htoNat : (Char.ofNat n).toNat = n := by
    unfold Char.ofNat
    rw [dif_pos (.inl (by omega))]
    rfl
  have himage : CaseRun.image? ⟨0x41, 0x5A, 1, 0x61⟩ n = some (n + 0x20) := by
    refine CaseRun.image?_eq_some_iff.2 ⟨hA, hZ, Nat.mod_one _, ?_⟩
    dsimp only
    omega
  have hlookup : CaseRun.lookup? lowerRuns n = some (n + 0x20) := by
    unfold CaseRun.lookup? lowerRuns
    rw [List.findSome?_cons, himage]
  unfold lowerChar
  rw [htoNat, if_neg (by omega), hlookup]

/-- The characters of the plain table return. -/
theorem returns_of_plain {c : Char} (h : c.toNat < 0x80) : Returns c := by
  have hcapitals := capitals_upperChar c
  unfold Returns
  generalize upperChar c = cs at hcapitals
  cases hcapitals with
  | same => exact List.flatMap_singleton lowerChar c
  | several hcodes =>
      have hnot := (upperExpansions_expand _ hcodes).notPlain
      omega
  | @one run m hrun hm =>
      obtain ⟨hfirst, hlast, -, htarget⟩ := CaseRun.image?_eq_some_iff.1 hm
      have hplain := (upperRuns_capitalize run hrun).plain.resolve_left (by omega)
      have hlower : lowerChar (Char.ofNat m) = [c] := by
        have hback : m + 0x20 = c.toNat := by omega
        rw [lowerChar_of_plain (by omega) (by omega), hback, Char.ofNat_toNat]
      -- what comes of the capital letter is settled
      have hsettled : Settled c := by
        refine settled_of_mem_lowerChar (c := Char.ofNat m) ?_ ?_
        · rw [toNat_of_upperRuns hrun hm]
          omega
        · rw [hlower]
          exact List.mem_singleton_self c
      rw [List.flatMap_singleton, hlower, hsettled.lowerChar_eq]

theorem comesBack_of_plain {cs : List Char} (h : ∀ c ∈ cs, c.toNat < 0x80) : ComesBack cs := by
  refine ⟨fun c hc => .inl (returns_of_plain (h c hc)), fun before c after hsplit hsmall => ?_⟩
  have hlow := h c (by rw [hsplit]; exact List.mem_append_right before List.mem_cons_self)
  rcases hsmall with rfl | rfl
  · exact absurd hlow (by decide)
  · exact absurd hlow (by decide)

-- ========================================================= canonical forms

/-- Blanks may be dropped before or after a text is put into upper case. -/
theorem withoutBlanks_upper (s : String) : withoutBlanks (upper s) = upper (withoutBlanks s) := by
  have hfilter : ∀ cs : List Char, (cs.flatMap upperChar).filter (fun c => !isBlank c)
      = (cs.filter fun c => !isBlank c).flatMap upperChar := by
    intro cs
    induction cs with
    | nil => rfl
    | cons c cs ih =>
        rw [List.flatMap_cons, List.filter_append, ih, List.filter_cons]
        cases hblank : isBlank c with
        | true =>
            rw [upperChar_of_isBlank hblank]
            simp [hblank]
        | false =>
            have hkept : (upperChar c).filter (fun d => !isBlank d) = upperChar c := by
              refine List.filter_eq_self.2 fun d hd => ?_
              rw [isBlank_of_mem_upperChar hblank hd]
              rfl
            rw [hkept]
            simp
  unfold withoutBlanks upper
  rw [String.toList_ofList, String.toList_ofList, hfilter]

/-- A name in upper case has the same canonical form just if its characters, but for
blanks, come back. -/
theorem canonical_upper_iff (s : String) :
    canonical (upper s) = canonical s ↔ ComesBack (withoutBlanks s).toList := by
  unfold canonical
  rw [withoutBlanks_upper, ← lowerFrom_upper_iff]
  unfold lower upper
  rw [String.toList_ofList, String.ofList_inj]

end CommandConsole.Text
