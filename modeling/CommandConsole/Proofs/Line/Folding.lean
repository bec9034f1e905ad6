/-
Folding the surplus tokens of a line.

Folding for a count of arguments leaves the tokens as they are if they are few
enough (`fold_of_le`). Otherwise it splits them: as many as the count says, the
name among them, stay, and those behind are joined into one
(`fold_append_length`). A token that has been joined already may be joined
again, since joined pieces are joined like the pieces themselves
(`joined_append_joined`). So it does not matter how often tokens are folded and
in which order: the smallest of the counts decides (`fold_fold_min`).

No text is lost where there is an argument to take it up (`joined_fold`). For a
command without parameters the surplus tokens are dropped (`fold_zero`).
-/
import CommandConsole.Proofs.Line.Surplus

namespace CommandConsole.Line

-- ================================================================= joining

/-- A row with a joined row at its end is joined like the two rows. -/
theorem joined_append_joined (front : List String) {back : List String} (hback : back ≠ []) :
    joined (front ++ [joined back]) = joined (front ++ back) := by
  cases front with
  | nil => exact String.intercalate_singleton
  | cons s rest =>
      have hfront : s :: rest ≠ [] := List.cons_ne_nil s rest
      unfold joined
      rw [String.intercalate_append_of_ne_nil hfront (List.cons_ne_nil _ _),
        String.intercalate_append_of_ne_nil hfront hback, String.intercalate_singleton]

-- ================================================================= folding

/-- There is nothing to fold in tokens that are few enough. -/
theorem fold_of_le {words : List String} {count : Nat} (h : words.length ≤ count + 1) :
    fold words count = words := if_pos h

/-- Without an argument only the name is kept. -/
theorem fold_zero (words : List String) : fold words 0 = words.take 1 := by
  unfold fold
  split
  · next hfew => exact (List.take_of_length_le hfew).symm
  · rfl

/-- The tokens behind as many as a count says are folded into one. -/
theorem fold_append_length {front surplus : List String} {n : Nat} (hfront : front.length = n + 1)
    (hsurplus : surplus ≠ []) : fold (front ++ surplus) (n + 1) = front ++ [joined surplus] := by
  have hne : front ≠ [] := List.ne_nil_of_length_eq_add_one hfront
  rw [← hfront]
  exact fold_append hne hsurplus

/-- More tokens than a count says are those that it keeps, and at least one
behind them. -/
theorem exists_surplus {words : List String} {n : Nat} (h : n < words.length) :
    ∃ front surplus, words = front ++ surplus ∧ front.length = n ∧ surplus ≠ [] := by
  refine ⟨words.take n, words.drop n, (List.take_append_drop n words).symm,
    List.length_take_of_le (Nat.le_of_lt h), ?_⟩
  intro hnil
  exact absurd (List.drop_eq_nil_iff.1 hnil) (Nat.not_le.2 h)

/-- Folding leaves as many tokens as there are, but one more than the count at
most. -/
theorem length_fold (words : List String) (count : Nat) :
    (fold words count).length = min words.length (count + 1) := by
  rcases Nat.lt_or_ge (count + 1) words.length with hmany | hfew
  · rw [Nat.min_eq_right (Nat.le_of_lt hmany)]
    cases count with
    | zero => rw [fold_zero, List.length_take_of_le (Nat.le_of_lt hmany)]
    | succ n =>
        obtain ⟨front, surplus, rfl, hfront, hsurplus⟩ :=
          exists_surplus (Nat.lt_of_succ_lt hmany)
        rw [fold_append_length hfront hsurplus, List.length_append, hfront, List.length_singleton]
  · rw [fold_of_le hfew, Nat.min_eq_left hfew]

/-- Where there is an argument, folding keeps the text of a line. -/
theorem joined_fold (words : List String) (n : Nat) :
    joined (fold words (n + 1)) = joined words := by
  rcases Nat.lt_or_ge (n + 1) words.length with hmany | hfew
  · obtain ⟨front, surplus, rfl, hfront, hsurplus⟩ := exists_surplus hmany
    rw [fold_append_length hfront hsurplus, joined_append_joined front hsurplus]
  · rw [fold_of_le (Nat.le_succ_of_le hfew)]

/-- Folding for an argument or more keeps the first token. -/
theorem take_one_fold (words : List String) (n : Nat) :
    (fold words (n + 1)).take 1 = words.take 1 := by
  rcases Nat.lt_or_ge (n + 1) words.length with hmany | hfew
  · obtain ⟨front, surplus, rfl, hfront, hsurplus⟩ := exists_surplus hmany
    have hone : 1 ≤ front.length := hfront ▸ Nat.succ_pos n
    rw [fold_append_length hfront hsurplus, List.take_append_of_le_length hone,
      List.take_append_of_le_length hone]
  · rw [fold_of_le (Nat.le_succ_of_le hfew)]

-- ============================================================ folding twice

/-- Tokens that have been folded are folded for a smaller count as if they had
not been. -/
theorem fold_fold_of_lt {m n : Nat} (words : List String) (h : n < m) :
    fold (fold words (m + 1)) (n + 1) = fold words (n + 1) := by
  rcases Nat.lt_or_ge (m + 1) words.length with hmany | hfew
  · obtain ⟨front, surplus, rfl, hfront, hsurplus⟩ := exists_surplus hmany
    -- the smaller count splits the tokens that the larger one has kept
    obtain ⟨kept, more, rfl, hkept, -⟩ :=
      exists_surplus (show n + 1 < front.length by omega)
    rw [fold_append_length hfront hsurplus, List.append_assoc, List.append_assoc,
      fold_append_length hkept (List.append_ne_nil_of_right_ne_nil more (List.cons_ne_nil _ _)),
      fold_append_length hkept (List.append_ne_nil_of_right_ne_nil more hsurplus),
      joined_append_joined more hsurplus]
  · rw [fold_of_le (Nat.le_succ_of_le hfew)]

/-- Tokens are folded twice as they are once for the smaller count. -/
theorem fold_fold_min (words : List String) (m n : Nat) :
    fold (fold words m) n = fold words (min m n) := by
  rcases Nat.lt_or_ge n m with hlt | hle
  · rw [Nat.min_eq_right (Nat.le_of_lt hlt)]
    obtain ⟨m, rfl⟩ := Nat.exists_eq_add_one_of_ne_zero (Nat.ne_zero_of_lt hlt)
    cases n with
    | zero => rw [fold_zero, fold_zero, take_one_fold]
    | succ n => exact fold_fold_of_lt words (Nat.lt_of_succ_lt_succ hlt)
  · rw [Nat.min_eq_left hle]
    have hlength := length_fold words m
    exact fold_of_le (by omega)

-- ============================================================ the operation

/-- The texts of a row of texts are found. -/
theorem wordsOf_texts (words : List String) (position : Nat) :
    foldRow.wordsOf position (words.map .text) = .ok words := by
  induction words generalizing position with
  | nil => rfl
  | cons word rest ih =>
      rw [List.map_cons, foldRow.wordsOf, ih]
      rfl

/-- A row of texts is folded as tokens are. -/
theorem foldRow_texts (words : List String) (count : Nat) :
    foldRow (words.map .text) count = .ok ((fold words count).map .text) := by
  unfold foldRow fold
  rw [List.length_map]
  split
  · rfl
  · cases count with
    | zero => exact congrArg Except.ok List.map_take.symm
    | succ n =>
        dsimp only
        rw [← List.map_drop, wordsOf_texts, List.map_append, List.map_take]
        rfl

/-- The operation folds a list of texts as tokens are folded, for every count
that is not negative. -/
theorem foldOf_texts (words : List String) (count : Nat) :
    foldOf (.list (words.map .text)) (.int count) = .ok ((fold words count).map .text) := by
  have hcount : (Object.int count).asCount "reconcile() count" = .ok count := by
    unfold Object.asCount
    dsimp only
    rw [if_neg (Int.not_lt.2 (Int.natCast_nonneg count)), Int.toNat_natCast]
  unfold foldOf
  dsimp only
  rw [hcount]
  simp only [Except.map, bind, Except.bind, Object.items?, Option.getD_some, foldRow_texts,
    List.length_map, decide_eq_true_eq]
  split
  · next hfew => rw [fold_of_le hfew]; rfl
  · rfl

-- ============================================================== the main law

/-- Folding for two counts, one after the other, is folding for the smaller
one, so that the order does not matter and nothing is folded a second time. As
many tokens are left as there were, but one more than the count at most, and
where there is an argument their text is the same. The operation that is
given a list of texts does all this. -/
theorem fold_composes (words : List String) (m n : Nat) :
    fold (fold words m) n = fold words (min m n)
      ∧ fold (fold words n) n = fold words n
      ∧ fold (fold words m) n = fold (fold words n) m
      ∧ (fold words n).length = min words.length (n + 1)
      ∧ joined (fold words (n + 1)) = joined words
      ∧ foldOf (.list (words.map .text)) (.int n) = .ok ((fold words n).map .text) := by
  refine ⟨fold_fold_min words m n, ?_, ?_, length_fold words n, joined_fold words n,
    foldOf_texts words n⟩
  · rw [fold_fold_min, Nat.min_self]
  · rw [fold_fold_min, fold_fold_min, Nat.min_comm]

/-- A folded token is folded again with those in front of it. -/
example : fold (fold ["bind", "up", "say", "hi", "there"] 3) 2
    = ["bind", "up", "say hi there"] := by
  decide

end CommandConsole.Line
