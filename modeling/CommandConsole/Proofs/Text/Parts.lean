/-
The lower case of a text, part by part.

A text in lower case may start with the lower case of a partial text. Whether
the partial text, with the rest of the other one behind it, has that text for
its lower case (`lower_append_drop_iff`) is a matter of two characters.

- The capital I with a dot above becomes two characters, and every other one
  becomes one (`length_lowerAmid`). The rest that stands after as many
  characters as the partial text has is the rest after its lower case only if
  the partial text has no such letter.
- The capital sigma looks at its neighbours. The lower case of a part hangs on
  what stands behind it only if the part closes a word with a capital sigma and
  what stands behind goes on with the word (`lowerAmid_eq_iff`). Only then is
  there a text that starts with the lower case of the whole, and not with that
  of the part (`starts_with_part_iff`).

What is in lower case already stays as it is behind any part, and so do blanks
in any place: a part has the blanks of its lower case (`isBlank_of_lower`).
-/
import CommandConsole.Proofs.Text.Canonical

namespace CommandConsole.Text

-- ================================================================== length

theorem length_lowerChar (c : Char) : (lowerChar c).length = if c = 'İ' then 2 else 1 := by
  unfold lowerChar
  by_cases hdotted : c = 'İ'
  · subst hdotted
    rfl
  · have hne : c.toNat ≠ 0x130 := fun h => hdotted (Char.toNat_inj.1 h)
    rw [if_neg hne, if_neg hdotted]
    cases CaseRun.lookup? lowerRuns c.toNat <;> rfl

theorem length_lowerBetween (before : List Char) (c : Char) (after : List Char) :
    (lowerBetween before c after).length = if c = 'İ' then 2 else 1 := by
  unfold lowerBetween
  split
  · next hsigma =>
    have hne : c ≠ 'İ' := by
      rintro rfl
      exact absurd hsigma (by decide)
    rw [if_neg hne]
    split <;> rfl
  · exact length_lowerChar c

-- =================================================================== parts

/-- The lower-case form of a part of a text that stands between `before`,
nearest character first, and `after`. -/
def lowerAmid (before : List Char) : List Char → List Char → List Char
  | [], _ => []
  | c :: cs, after => lowerBetween before c (cs ++ after) ++ lowerAmid (c :: before) cs after

/-- A text is put into lower case part by part. -/
theorem lowerFrom_append (before cs after : List Char) :
    lowerFrom before (cs ++ after)
      = lowerAmid before cs after ++ lowerFrom (cs.reverse ++ before) after := by
  induction cs generalizing before with
  | nil => rfl
  | cons c cs ih =>
      rw [List.cons_append, lowerFrom, ih, lowerAmid, List.append_assoc, List.reverse_cons,
        List.append_assoc]
      rfl

theorem lowerAmid_nil (before cs : List Char) : lowerAmid before cs [] = lowerFrom before cs := by
  have happend := lowerFrom_append before cs []
  rw [List.append_nil, lowerFrom, List.append_nil] at happend
  exact happend.symm

/-- Each capital I with a dot above makes a part of a text longer by one
character. -/
theorem length_lowerAmid (before cs after : List Char) :
    (lowerAmid before cs after).length = cs.length + cs.count 'İ' := by
  induction cs generalizing before with
  | nil => rfl
  | cons c cs ih =>
      rw [lowerAmid, List.length_append, length_lowerBetween, ih, List.length_cons,
        List.count_cons]
      by_cases hdotted : c = 'İ'
      · rw [if_pos hdotted, if_pos (beq_iff_eq.2 hdotted)]
        omega
      · rw [if_neg hdotted, if_neg fun h => hdotted (beq_iff_eq.1 h)]
        omega

/-- Only the tilde is the tilde in lower case. -/
theorem lower_eq_tilde_iff {s : String} : lower s = "~" ↔ s = "~" := by
  constructor
  · intro h
    have hchars : lowerFrom [] s.toList = ['~'] := by
      have hlower := congrArg String.toList h
      rwa [lower, String.toList_ofList] at hlower
    have hlength := length_lowerAmid [] s.toList []
    rw [lowerAmid_nil, hchars, List.length_singleton] at hlength
    obtain ⟨c, hc⟩ : ∃ c, s.toList = [c] := by
      refine List.length_eq_one_iff.1 ?_
      have hne : s.toList ≠ [] := fun hnil => by rw [hnil] at hchars; cases hchars
      have hpos := List.length_pos_iff.2 hne
      omega
    rw [hc, lowerFrom, lowerFrom, List.append_nil] at hchars
    have htilde : c = '~' := by
      unfold lowerBetween at hchars
      split at hchars
      · cases hchars
      · exact eq_tilde_of_lowerChar_eq hchars
    exact String.toList_inj.1 (hc.trans (by rw [htilde]; rfl))
  · rintro rfl
    decide +kernel

/-- The letters of a text close a word with a capital sigma: the nearest
character before it that is not case-ignorable is cased, and only
case-ignorable ones stand behind it. -/
def closesWithSigma (before : List Char) : List Char → Bool
  | [] => false
  | c :: cs =>
      (c = 'Σ' && cs.all isCaseIgnorable && meetsCased before)
        || closesWithSigma (c :: before) cs

/-- What is cased is looked for behind a text only if the text holds nothing but
case-ignorable characters. -/
theorem meetsCased_append (cs after : List Char) :
    meetsCased (cs ++ after)
      = if cs.all isCaseIgnorable = true then meetsCased after else meetsCased cs := by
  induction cs with
  | nil => rfl
  | cons c cs ih =>
      unfold meetsCased at ih ⊢
      rw [List.cons_append, List.dropWhile_cons, List.dropWhile_cons, List.all_cons]
      cases isCaseIgnorable c with
      | true => simpa using ih
      | false => rfl

theorem meetsCased_of_all {cs : List Char} (h : cs.all isCaseIgnorable = true) :
    meetsCased cs = false := by
  have happend := meetsCased_append cs []
  rw [List.append_nil, if_pos h] at happend
  exact happend

/-- A character has another lower-case form for what stands behind a part just
if it is a capital sigma that closes a word with the part and what stands behind
goes on with the word. -/
theorem lowerBetween_append_iff {before cs after : List Char} {c : Char} :
    lowerBetween before c (cs ++ after) = lowerBetween before c cs
      ↔ ¬ (((c = 'Σ' ∧ cs.all isCaseIgnorable = true) ∧ meetsCased before = true)
        ∧ meetsCased after = true) := by
  unfold lowerBetween
  by_cases hsigma : c = 'Σ'
  · subst hsigma
    have htoNat : 'Σ'.toNat = 0x3A3 := by decide
    rw [if_pos htoNat, if_pos htoNat, meetsCased_append]
    cases hall : cs.all isCaseIgnorable with
    | false => simp
    | true =>
        rw [meetsCased_of_all hall]
        cases meetsCased before <;> cases meetsCased after <;> simp
  · have hne : c.toNat ≠ 0x3A3 := fun h => hsigma (Char.toNat_inj.1 h)
    rw [if_neg hne, if_neg hne]
    exact iff_of_true rfl fun h => hsigma h.1.1.1

/-- A part of a text is put into lower case as if nothing stood behind it, unless
it closes a word with a capital sigma and what stands behind it goes on with the
word. -/
theorem lowerAmid_eq_iff {before cs after : List Char} :
    lowerAmid before cs after = lowerFrom before cs
      ↔ ¬ (closesWithSigma before cs = true ∧ meetsCased after = true) := by
  induction cs generalizing before with
  | nil => exact iff_of_true rfl fun h => Bool.false_ne_true h.1
  | cons c cs ih =>
      have hlength : (lowerBetween before c (cs ++ after)).length
          = (lowerBetween before c cs).length := by
        rw [length_lowerBetween, length_lowerBetween]
      have hparts : lowerAmid before (c :: cs) after = lowerFrom before (c :: cs)
          ↔ lowerBetween before c (cs ++ after) = lowerBetween before c cs
            ∧ lowerAmid (c :: before) cs after = lowerFrom (c :: before) cs :=
        ⟨fun h => List.append_inj h hlength, fun h => by rw [lowerAmid, lowerFrom, h.1, h.2]⟩
      rw [hparts, ih, lowerBetween_append_iff, closesWithSigma, Bool.or_eq_true, Bool.and_eq_true,
        Bool.and_eq_true, decide_eq_true_eq, or_and_right, not_or]

-- ================================================================== blanks

/-- No blank is a letter with a small letter of its own. -/
theorem lowerRuns_notBlank :
    (lowerRuns.all fun run => blankRuns.all fun blank =>
      Nat.blt run.last blank.1 || Nat.blt blank.2 run.first) = true := by
  decide +kernel

/-- Blanks are in lower case wherever they stand. -/
theorem settled_of_isBlank {c : Char} (h : isBlank c = true) : Settled c := by
  have hne : ∀ d : Char, isBlank d = false → c.toNat ≠ d.toNat := by
    intro d hd heq
    rw [Char.toNat_inj.1 heq, hd] at h
    exact Bool.false_ne_true h
  constructor
  · have hnone : CaseRun.lookup? lowerRuns c.toNat = none := by
      refine CaseRun.lookup?_eq_none_iff.2 fun run hrun => ?_
      rw [Option.eq_none_iff_forall_ne_some]
      intro m hm
      obtain ⟨hfirst, hlast, -, -⟩ := CaseRun.image?_eq_some_iff.1 hm
      obtain ⟨blank, hblank, hin⟩ := List.any_eq_true.1 h
      have hapart := List.all_eq_true.1 (List.all_eq_true.1 lowerRuns_notBlank run hrun)
        blank hblank
      simp only [Bool.or_eq_true, Nat.blt_eq, Bool.and_eq_true, decide_eq_true_eq] at hapart hin
      omega
    have hdotted : c.toNat ≠ 0x130 := hne 'İ' (by decide)
    unfold lowerChar
    rw [if_neg hdotted, hnone]
  · exact hne 'Σ' (by decide)

/-- What is in lower case wherever it stands is found in the lower case of a
text again. -/
theorem mem_lowerFrom_of_settled {before cs : List Char} {c : Char} (hc : Settled c)
    (h : c ∈ cs) : c ∈ lowerFrom before cs := by
  induction cs generalizing before with
  | nil => cases h
  | cons d cs ih =>
      rw [lowerFrom, List.mem_append]
      rcases List.mem_cons.1 h with rfl | h
      · refine .inl ?_
        rw [lowerBetween, if_neg hc.ne_sigma, hc.lowerChar_eq]
        exact List.mem_singleton_self c
      · exact .inr (ih h)

/-- A text has no blank if its lower case has none. -/
theorem isBlank_of_lower {s : String} (h : ∀ c ∈ (lower s).toList, isBlank c = false) :
    ∀ c ∈ s.toList, isBlank c = false := by
  intro c hc
  cases hblank : isBlank c with
  | false => rfl
  | true =>
      have hmem : c ∈ (lower s).toList := by
        unfold lower
        rw [String.toList_ofList]
        exact mem_lowerFrom_of_settled (settled_of_isBlank hblank) hc
      rw [← hblank, h c hmem]

-- =================================================================== rests

/-- A partial text, with what a text in lower case has after as many characters
behind it, has that text for its lower case just if the partial text has no
capital I with a dot above and does not close a word with a capital sigma that
goes on with the rest. The text starts with the lower case of the partial one. -/
theorem lower_append_drop_iff {typed t : String} (ht : ∀ c ∈ t.toList, Settled c)
    (hstarts : (lower typed).toList <+: t.toList) :
    let rest := t.toList.drop typed.toList.length
    lower (typed ++ String.ofList rest) = t
      ↔ 'İ' ∉ typed.toList
        ∧ ¬ (closesWithSigma [] typed.toList = true ∧ meetsCased rest = true) := by
  intro rest
  have hlower : (lower typed).toList = lowerFrom [] typed.toList := by
    rw [lower, String.toList_ofList]
  have hfull : (lower (typed ++ String.ofList rest)).toList
      = lowerAmid [] typed.toList rest ++ rest := by
    have hrest : ∀ c ∈ rest, Settled c := fun c hc => ht c (List.mem_of_mem_drop hc)
    rw [lower, String.toList_ofList, String.toList_append, String.toList_ofList,
      lowerFrom_append, lowerFrom_of_settled hrest]
  rw [← String.toList_inj, hfull, ← lowerAmid_eq_iff]
  obtain ⟨more, hmore⟩ := hstarts
  rw [hlower] at hmore
  have hlength : (lowerFrom [] typed.toList).length
      = typed.toList.length + typed.toList.count 'İ' := by
    rw [← lowerAmid_nil, length_lowerAmid]
  by_cases hdotted : 'İ' ∈ typed.toList
  · -- the lower case is longer, and so the rest is too long
    refine iff_of_false (fun heq => ?_) fun h => h.1 hdotted
    have hcount : 0 < typed.toList.count 'İ' := List.count_pos_iff.2 hdotted
    have hdrop : rest.length = t.toList.length - typed.toList.length := List.length_drop
    have hsum := congrArg List.length heq
    rw [List.length_append, length_lowerAmid] at hsum
    rw [← hmore, List.length_append] at hdrop hsum
    omega
  · rw [and_iff_right hdotted]
    rw [List.count_eq_zero_of_not_mem hdotted, Nat.add_zero] at hlength
    have hrest : rest = more := by
      show t.toList.drop typed.toList.length = more
      rw [← hmore, ← hlength, List.drop_left]
    rw [← hmore, hrest, List.append_cancel_right_eq]

/-- What starts with the lower case of a longer text starts with that of a part
it begins with, unless the part closes a word with a capital sigma that goes on
with the rest. -/
theorem starts_with_part_iff {part rest : String} {cs : List Char}
    (h : (lower (part ++ rest)).toList <+: cs) :
    (lower part).toList <+: cs
      ↔ ¬ (closesWithSigma [] part.toList = true ∧ meetsCased rest.toList = true) := by
  have hpart : (lower part).toList = lowerFrom [] part.toList := by
    rw [lower, String.toList_ofList]
  have hamid : lowerAmid [] part.toList rest.toList <+: cs := by
    rw [lower, String.toList_ofList, String.toList_append, lowerFrom_append] at h
    exact (List.prefix_append _ _).trans h
  -- both are as long, and so they start the same text just if they are equal
  have hlength : (lowerAmid [] part.toList rest.toList).length
      = (lowerFrom [] part.toList).length := by
    rw [← lowerAmid_nil, length_lowerAmid, length_lowerAmid]
  rw [hpart, ← lowerAmid_eq_iff]
  constructor
  · intro hstarts
    exact (List.prefix_of_prefix_length_le hamid hstarts (Nat.le_of_eq hlength)).eq_of_length
      hlength
  · intro heq
    rw [← heq]
    exact hamid

end CommandConsole.Text
