/-
Lower case is reached in one step.

No letter that another letter is mapped to is mapped any further, and none
of them is the capital sigma, whose form hangs on its neighbours. A text
in lower case therefore consists of settled characters, which stay as they
are wherever they stand, and putting it into lower case again changes
nothing (`lower_lower`). Nor is a letter mapped to a blank, so that a text
without blanks has none in lower case either (`isBlank_of_mem_lower`).

What the table of letters has to say about this is one question for each
pair of its runs (`lowerRuns_avoid`), and one for each run (`lowerRuns_miss`).
-/
import CommandConsole.Text.Casing

namespace CommandConsole.Text

-- ================================================================== one run

namespace CaseRun

/-- The last code point that a letter of a run is mapped to. -/
def lastTarget (run : CaseRun) : Nat := run.target + (run.last - run.first)

/-- The letters of a run are mapped to none of the code points from `low`
to `high`. -/
def misses (run : CaseRun) (low high : Nat) : Bool :=
  Nat.blt run.lastTarget low || Nat.blt high run.target

/-- The letters of a run are mapped to no letter of another run: to none
between its ends, or only to those in between its letters. -/
def avoids (run other : CaseRun) : Bool :=
  run.misses other.first other.last
    || (Nat.beq other.step 2 && (Nat.beq run.step 2 || Nat.beq run.first run.last)
      && Nat.beq ((run.target + other.first) % 2) 1)

/-- What a letter of a run is mapped to. -/
theorem image?_eq_some_iff {run : CaseRun} {n m : Nat} :
    run.image? n = some m
      ↔ run.first ≤ n ∧ n ≤ run.last ∧ (n - run.first) % run.step = 0
        ∧ m = run.target + (n - run.first) := by
  unfold image?
  split
  · next h =>
    simp only [Bool.and_eq_true, decide_eq_true_eq, beq_iff_eq] at h
    rw [Option.some.injEq]
    exact ⟨fun hm => ⟨h.1.1, h.1.2, h.2, hm.symm⟩, fun hm => hm.2.2.2.symm⟩
  · next h =>
    simp only [Bool.and_eq_true, decide_eq_true_eq, beq_iff_eq] at h
    refine ⟨fun hm => (Option.some_ne_none m hm.symm).elim, fun hm => absurd ?_ h⟩
    exact ⟨⟨hm.1, hm.2.1⟩, hm.2.2.1⟩

theorem notMem_of_misses {run : CaseRun} {n m low high : Nat}
    (h : run.misses low high = true) (hm : run.image? n = some m) :
    ¬ (low ≤ m ∧ m ≤ high) := by
  obtain ⟨hfirst, hlast, -, rfl⟩ := image?_eq_some_iff.1 hm
  simp only [misses, lastTarget, Bool.or_eq_true, Nat.blt_eq] at h
  omega

/-- A run whose letters are mapped to code points of characters maps each of them to that
of the character it makes. -/
theorem toNat_of_image? {run : CaseRun} {n m : Nat} (hsurrogate : run.misses 0xD800 0xDFFF = true)
    (hbound : Nat.blt run.lastTarget 0x110000 = true) (hm : run.image? n = some m) :
    (Char.ofNat m).toNat = m := by
  have hvalid : m.isValidChar := by
    have hnot := notMem_of_misses hsurrogate hm
    obtain ⟨-, hlast, -, rfl⟩ := image?_eq_some_iff.1 hm
    rw [Nat.blt_eq] at hbound
    unfold lastTarget at hbound
    unfold Nat.isValidChar
    omega
  unfold Char.ofNat
  rw [dif_pos hvalid]
  rfl

/-- A run that avoids another one maps its letters to none of its. -/
theorem image?_of_avoids {run other : CaseRun} {n m : Nat}
    (h : run.avoids other = true) (hm : run.image? n = some m) :
    other.image? m = none := by
  rw [Option.eq_none_iff_forall_ne_some]
  intro k hk
  obtain ⟨hlow, hhigh, hstep, -⟩ := image?_eq_some_iff.1 hk
  rw [avoids, Bool.or_eq_true] at h
  rcases h with h | h
  · exact notMem_of_misses h hm ⟨hlow, hhigh⟩
  · -- both runs go in steps of two, and their letters differ in parity
    obtain ⟨hfirst, hlast, hstep', rfl⟩ := image?_eq_some_iff.1 hm
    simp only [Bool.and_eq_true, Bool.or_eq_true, Nat.beq_eq] at h
    obtain ⟨⟨hother, hrun⟩, hparity⟩ := h
    rw [hother] at hstep
    rcases hrun with hrun | hrun
    · rw [hrun] at hstep'
      omega
    · omega

theorem exists_of_lookup?_eq_some {runs : List CaseRun} {n m : Nat}
    (h : lookup? runs n = some m) : ∃ run ∈ runs, run.image? n = some m :=
  List.exists_of_findSome?_eq_some h

theorem lookup?_eq_none_iff {runs : List CaseRun} {n : Nat} :
    lookup? runs n = none ↔ ∀ run ∈ runs, run.image? n = none :=
  List.findSome?_eq_none_iff

end CaseRun

-- =============================================================== the table

/-- The runs of the table avoid each other. -/
theorem lowerRuns_avoid :
    (lowerRuns.all fun run => lowerRuns.all run.avoids) = true := by
  decide +kernel

/-- The letters of the table are mapped to characters, but neither to a
blank nor to the capital I with a dot above. -/
theorem lowerRuns_miss :
    (lowerRuns.all fun run => run.misses 0xD800 0xDFFF && Nat.blt run.lastTarget 0x110000
      && run.misses 0x130 0x130 && blankRuns.all fun blank => run.misses blank.1 blank.2)
      = true := by
  decide +kernel

-- ============================================================ one character

/-- A settled character is in lower case wherever it stands. -/
structure Settled (c : Char) : Prop where
  lowerChar_eq : lowerChar c = [c]
  ne_sigma : c.toNat ≠ 0x3A3

/-- What the table maps a letter to is the code point of a character. -/
theorem toNat_of_lookup? {n m : Nat} (h : CaseRun.lookup? lowerRuns n = some m) :
    (Char.ofNat m).toNat = m := by
  obtain ⟨run, hrun, hm⟩ := CaseRun.exists_of_lookup?_eq_some h
  have hmiss := List.all_eq_true.1 lowerRuns_miss run hrun
  simp only [Bool.and_eq_true] at hmiss
  obtain ⟨⟨⟨hsurrogate, hbound⟩, -⟩, -⟩ := hmiss
  exact CaseRun.toNat_of_image? hsurrogate hbound hm

/-- What the table maps a letter to: a character that is settled, and that
is no blank. -/
theorem settled_of_lookup? {n m : Nat} (h : CaseRun.lookup? lowerRuns n = some m) :
    Settled (Char.ofNat m) ∧ isBlank (Char.ofNat m) = false := by
  obtain ⟨run, hrun, hm⟩ := CaseRun.exists_of_lookup?_eq_some h
  have hmiss := List.all_eq_true.1 lowerRuns_miss run hrun
  simp only [Bool.and_eq_true, Nat.blt_eq, List.all_eq_true] at hmiss
  obtain ⟨⟨-, hdotted⟩, hblank⟩ := hmiss
  have htoNat := toNat_of_lookup? h
  have hnone : CaseRun.lookup? lowerRuns m = none :=
    CaseRun.lookup?_eq_none_iff.2 fun other hother =>
      CaseRun.image?_of_avoids
        (List.all_eq_true.1 (List.all_eq_true.1 lowerRuns_avoid run hrun) other hother) hm
  refine ⟨⟨?_, ?_⟩, ?_⟩
  · have hne : m ≠ 0x130 := fun heq =>
      CaseRun.notMem_of_misses hdotted hm ⟨Nat.le_of_eq heq.symm, Nat.le_of_eq heq⟩
    unfold lowerChar
    rw [htoNat, if_neg hne, hnone]
  · -- the capital sigma is itself a letter of the table
    rw [htoNat]
    rintro rfl
    revert hnone
    decide +kernel
  · unfold isBlank inRuns
    rw [htoNat, List.any_eq_false]
    intro blank hmem hin
    simp only [Bool.and_eq_true, decide_eq_true_eq] at hin
    exact CaseRun.notMem_of_misses (hblank blank hmem) hm hin

/-- The lower-case form of a character that is not the capital sigma
consists of settled characters. -/
theorem settled_of_mem_lowerChar {c d : Char} (hc : c.toNat ≠ 0x3A3)
    (hd : d ∈ lowerChar c) : Settled d := by
  unfold lowerChar at hd
  split at hd
  · simp only [List.mem_cons, List.not_mem_nil, or_false] at hd
    rcases hd with rfl | rfl
    · exact ⟨by decide +kernel, by decide⟩
    · exact ⟨by decide +kernel, by decide⟩
  · next hdotted =>
    split at hd
    · next m hm =>
      obtain rfl := List.mem_singleton.1 hd
      exact (settled_of_lookup? hm).1
    · next hnone =>
      obtain rfl := List.mem_singleton.1 hd
      refine ⟨?_, hc⟩
      unfold lowerChar
      rw [if_neg hdotted, hnone]

/-- No blank comes of a character that is none. -/
theorem isBlank_of_mem_lowerChar {c d : Char} (hc : isBlank c = false)
    (hd : d ∈ lowerChar c) : isBlank d = false := by
  unfold lowerChar at hd
  split at hd
  · simp only [List.mem_cons, List.not_mem_nil, or_false] at hd
    rcases hd with rfl | rfl
    · decide
    · decide
  · split at hd
    · next m hm =>
      obtain rfl := List.mem_singleton.1 hd
      exact (settled_of_lookup? hm).2
    · obtain rfl := List.mem_singleton.1 hd
      exact hc

/-- In its place, a character has a lower-case form that consists of settled
characters, -/
theorem settled_of_mem_lowerBetween {before after : List Char} {c d : Char}
    (hd : d ∈ lowerBetween before c after) : Settled d := by
  unfold lowerBetween at hd
  split at hd
  · split at hd
    · obtain rfl := List.mem_singleton.1 hd
      exact ⟨by decide +kernel, by decide⟩
    · obtain rfl := List.mem_singleton.1 hd
      exact ⟨by decide +kernel, by decide⟩
  · next hc => exact settled_of_mem_lowerChar hc hd

/-- and no blank if it is none. -/
theorem isBlank_of_mem_lowerBetween {before after : List Char} {c d : Char}
    (hc : isBlank c = false) (hd : d ∈ lowerBetween before c after) :
    isBlank d = false := by
  unfold lowerBetween at hd
  split at hd
  · split at hd
    · obtain rfl := List.mem_singleton.1 hd
      decide
    · obtain rfl := List.mem_singleton.1 hd
      decide
  · exact isBlank_of_mem_lowerChar hc hd

-- ============================================================== whole texts

/-- A property that lower-casing gives to each character in its place is one
of all characters of a text in lower case. -/
theorem forall_mem_lowerFrom {p : Char → Prop} {cs : List Char}
    (h : ∀ c ∈ cs, ∀ before after, ∀ d ∈ lowerBetween before c after, p d) :
    ∀ before, ∀ d ∈ lowerFrom before cs, p d := by
  induction cs with
  | nil => exact fun before d hd => absurd hd List.not_mem_nil
  | cons c cs ih =>
      intro before d hd
      rw [lowerFrom, List.mem_append] at hd
      rcases hd with hd | hd
      · exact h c List.mem_cons_self before cs d hd
      · exact ih (fun c' hc' => h c' (List.mem_cons_of_mem c hc')) (c :: before) d hd

/-- Settled characters stay as they are. -/
theorem lowerFrom_of_settled {cs : List Char} (h : ∀ c ∈ cs, Settled c) :
    ∀ before, lowerFrom before cs = cs := by
  induction cs with
  | nil => exact fun before => rfl
  | cons c cs ih =>
      intro before
      have hc := h c List.mem_cons_self
      rw [lowerFrom, lowerBetween, if_neg hc.ne_sigma, hc.lowerChar_eq,
        ih fun d hd => h d (List.mem_cons_of_mem c hd)]
      rfl

/-- The characters of a text in lower case are settled. -/
theorem settled_of_mem_lower {s : String} {c : Char} (h : c ∈ (lower s).toList) :
    Settled c := by
  unfold lower at h
  rw [String.toList_ofList] at h
  exact forall_mem_lowerFrom (fun c _ before after d hd => settled_of_mem_lowerBetween hd)
    [] c h

/-- A text without blanks has none in lower case. -/
theorem isBlank_of_mem_lower {s : String} (hs : ∀ c ∈ s.toList, isBlank c = false)
    {c : Char} (h : c ∈ (lower s).toList) : isBlank c = false := by
  unfold lower at h
  rw [String.toList_ofList] at h
  exact forall_mem_lowerFrom
    (fun c hc before after d hd => isBlank_of_mem_lowerBetween (hs c hc) hd) [] c h

/-- A text in lower case is its own lower case. -/
theorem lower_lower (s : String) : lower (lower s) = lower s := by
  rw [lower, lowerFrom_of_settled (fun c hc => settled_of_mem_lower hc), String.ofList_toList]

-- =============================================================== the tilde

/-- No letter is mapped to the tilde. -/
theorem lowerRuns_miss_tilde :
    (lowerRuns.all fun run => run.misses '~'.toNat '~'.toNat) = true := by
  decide +kernel

/-- Only the tilde is the tilde in lower case. -/
theorem eq_tilde_of_lowerChar_eq {c : Char} (h : lowerChar c = ['~']) : c = '~' := by
  unfold lowerChar at h
  split at h
  · cases h
  · split at h
    · next n hn =>
      obtain ⟨run, hrun, himage⟩ := CaseRun.exists_of_lookup?_eq_some hn
      have hmiss := List.all_eq_true.1 lowerRuns_miss_tilde run hrun
      have hne : n ≠ '~'.toNat := fun heq =>
        CaseRun.notMem_of_misses hmiss himage ⟨Nat.le_of_eq heq.symm, Nat.le_of_eq heq⟩
      have htilde : Char.ofNat n = '~' := List.singleton_inj.1 h
      exact absurd ((toNat_of_lookup? hn).symm.trans (congrArg Char.toNat htilde)) hne
    · exact List.singleton_inj.1 h

end CommandConsole.Text
