/-
Laws of the pieces of a line and of the quotes at their ends.

Cutting a line at its spaces and joining pieces by spaces undo each other:
the pieces of a joined row are the pieces of its parts, one row after the
other (`pieces_joined`), and joining the pieces of a line gives the line
back (`joined_pieces`). No piece holds a space, so a row of parts without
spaces is the row of pieces of what it joins to (`pieces_eq_of_joined`).

Taking quotes off an end never makes a piece longer, and it makes it
shorter exactly if there is a quote at that end. Proofs about tokens read
off the length of a token that it is not the one they look for.
-/
import Mathlib.Data.List.DropRight
import CommandConsole.Line

namespace CommandConsole.Line

-- ======================================================= cutting, joining

/-- A text always has a piece. -/
theorem pieces_ne_nil (s : String) : pieces s ≠ [] := by
  simp [pieces]

/-- A text without a space is its only piece. -/
theorem pieces_eq_singleton {s : String} (h : ' ' ∉ s.toList) : pieces s = [s] := by
  unfold pieces
  rw [List.splitOn_eq_singleton h]
  simp

/-- A space divides the pieces in front of it from those behind it. -/
theorem pieces_append_space (s t : String) :
    pieces (s ++ " " ++ t) = pieces s ++ pieces t := by
  unfold pieces
  rw [← List.map_append, ← List.splitOn_append_cons_self]
  simp

/-- A row of at least two parts is joined at its first space. -/
theorem joined_cons {parts : List String} (s : String) (h : parts ≠ []) :
    joined (s :: parts) = s ++ " " ++ joined parts :=
  String.intercalate_cons_of_ne_nil h

/-- The pieces of a joined row are the pieces of its parts. -/
theorem pieces_joined {parts : List String} (h : parts ≠ []) :
    pieces (joined parts) = parts.flatMap pieces := by
  induction parts with
  | nil => exact absurd rfl h
  | cons s rest ih =>
      cases rest with
      | nil => simp [joined]
      | cons t rest =>
          rw [joined_cons s (List.cons_ne_nil t rest), pieces_append_space,
            ih (List.cons_ne_nil t rest)]
          rfl

/-- Joining the pieces of a text gives the text back. -/
theorem joined_pieces (s : String) : joined (pieces s) = s := by
  have hlists : (pieces s).map String.toList = s.toList.splitOn ' ' := by
    simp [pieces, Function.comp_def]
  apply String.toList_inj.1
  unfold joined
  rw [String.toList_intercalate, hlists]
  exact List.intercalate_splitOn ' '

/-- No run of characters between separators holds a separator. -/
theorem sep_notMem_of_mem_splitOn {sep : Char} :
    ∀ {cs run : List Char}, run ∈ cs.splitOn sep → sep ∉ run := by
  intro cs
  induction cs with
  | nil =>
      intro run hrun
      rw [List.splitOn_nil, List.mem_singleton] at hrun
      subst hrun
      exact List.not_mem_nil
  | cons c cs ih =>
      intro run hrun
      rw [List.splitOn_cons_eq_if_modifyHead] at hrun
      obtain ⟨first, rest, hsplit⟩ :=
        List.exists_cons_of_ne_nil (List.splitOn_ne_nil sep cs)
      rw [hsplit, List.modifyHead_cons] at hrun
      rw [hsplit] at ih
      split at hrun
      · rcases List.mem_cons.1 hrun with rfl | hrun
        · exact List.not_mem_nil
        · exact ih hrun
      · next hc =>
        rcases List.mem_cons.1 hrun with rfl | hrun
        · rw [List.mem_cons, not_or]
          exact ⟨fun heq => hc (beq_iff_eq.2 heq.symm), ih List.mem_cons_self⟩
        · exact ih (List.mem_cons_of_mem _ hrun)

/-- A piece holds no space. -/
theorem space_notMem_of_mem_pieces {s piece : String} (h : piece ∈ pieces s) :
    ' ' ∉ piece.toList := by
  unfold pieces at h
  obtain ⟨run, hrun, rfl⟩ := List.mem_map.1 h
  rw [String.toList_ofList]
  exact sep_notMem_of_mem_splitOn hrun

/-- Parts without spaces are the pieces of what they join to. -/
theorem pieces_eq_of_joined {parts : List String} {s : String} (hne : parts ≠ [])
    (hparts : ∀ part ∈ parts, ' ' ∉ part.toList) (hs : joined parts = s) :
    pieces s = parts := by
  rw [← hs, pieces_joined hne]
  clear hs hne
  induction parts with
  | nil => rfl
  | cons part rest ih =>
      rw [List.flatMap_cons, pieces_eq_singleton (hparts part List.mem_cons_self),
        ih fun p hp => hparts p (List.mem_cons_of_mem part hp), List.singleton_append]

/-- A text with a space in it has at least two pieces. -/
theorem pieces_of_space_mem {s : String} (h : ' ' ∈ s.toList) :
    ∃ first rest, pieces s = first :: rest ∧ rest ≠ [] := by
  obtain ⟨first, rest, hpieces⟩ := List.exists_cons_of_ne_nil (pieces_ne_nil s)
  refine ⟨first, rest, hpieces, ?_⟩
  rintro rfl
  have hs : first = s := by
    have hjoined := joined_pieces s
    rw [hpieces] at hjoined
    simpa [joined] using hjoined
  have hmem : s ∈ pieces s := by
    rw [hpieces, hs]
    exact List.mem_singleton_self s
  exact space_notMem_of_mem_pieces hmem h

-- ================================================== quotes at the two ends

/-- A piece without quotes in front is a part of the piece. -/
theorem dropOpening_sublist (piece : String) :
    (dropOpening piece).toList.Sublist piece.toList := by
  unfold dropOpening
  rw [String.toList_ofList]
  exact List.dropWhile_sublist _

/-- A piece without quotes behind is a part of the piece. -/
theorem dropClosing_sublist (piece : String) :
    (dropClosing piece).toList.Sublist piece.toList := by
  unfold dropClosing
  rw [String.toList_ofList]
  exact (List.rdropWhile_prefix (· == '"') piece.toList).sublist

/-- The quotes in front are taken off first. -/
theorem dropQuotes_eq (piece : String) :
    dropQuotes piece = dropClosing (dropOpening piece) := by
  unfold dropQuotes dropClosing dropOpening
  rw [String.toList_ofList, Text.dropEnds]

/-- A piece without quotes at its ends is a part of the piece. -/
theorem dropQuotes_sublist (piece : String) :
    (dropQuotes piece).toList.Sublist piece.toList := by
  rw [dropQuotes_eq]
  exact (dropClosing_sublist (dropOpening piece)).trans (dropOpening_sublist piece)

/-- There is no quote to take off a piece that opens with none. -/
theorem dropOpening_of_not_opens {piece : String} (h : opensQuote piece = false) :
    dropOpening piece = piece := by
  unfold opensQuote at h
  unfold dropOpening
  cases hcs : piece.toList with
  | nil => exact String.toList_inj.1 (by simp [hcs])
  | cons c cs =>
      rw [hcs] at h
      rw [List.dropWhile_cons_of_neg (by simpa using h), ← hcs, String.ofList_toList]

/-- A piece that opens with a quote gets shorter without it. -/
theorem length_dropOpening_lt {piece : String} (h : opensQuote piece = true) :
    (dropOpening piece).length < piece.length := by
  unfold opensQuote at h
  unfold dropOpening
  rw [← String.length_toList, ← String.length_toList, String.toList_ofList]
  cases hcs : piece.toList with
  | nil => simp [hcs] at h
  | cons c cs =>
      rw [hcs] at h
      rw [List.dropWhile_cons_of_pos (by simpa using h), List.length_cons]
      exact Nat.lt_succ_of_le (List.dropWhile_sublist _).length_le

/-- A piece that opens with a quote is another one without its quotes. -/
theorem dropQuotes_ne {piece : String} (h : opensQuote piece = true) :
    dropQuotes piece ≠ piece := by
  intro heq
  have hlt := length_dropOpening_lt h
  have hle := (dropClosing_sublist (dropOpening piece)).length_le
  rw [← dropQuotes_eq, heq, String.length_toList, String.length_toList] at hle
  omega

/-- There is no quote to take off a piece that closes with none. -/
theorem dropClosing_of_not_closes {piece : String} (h : closesQuote piece = false) :
    dropClosing piece = piece := by
  unfold closesQuote at h
  unfold dropClosing
  rw [show Text.dropEnd (· == '"') piece.toList
      = piece.toList.rdropWhile (· == '"') from rfl, List.rdropWhile_eq_self_iff.2,
    String.ofList_toList]
  intro hne
  rw [List.getLast?_eq_some_getLast hne] at h
  simpa using h

/-- A piece that closes with a quote gets shorter without it. -/
theorem length_dropClosing_lt {piece : String} (h : closesQuote piece = true) :
    (dropClosing piece).length < piece.length := by
  unfold closesQuote at h
  have hlast : piece.toList.getLast? = some '"' := by simpa using h
  have hle := (dropClosing_sublist piece).length_le
  rw [String.length_toList, String.length_toList] at hle
  refine Nat.lt_of_le_of_ne hle fun hlen => ?_
  -- a part as long as the whole is the whole, and would close with no quote
  have hself : piece.toList.rdropWhile (· == '"') = piece.toList :=
    (List.rdropWhile_prefix (· == '"') piece.toList).eq_of_length (by
      rw [String.length_toList, ← hlen, ← String.length_toList]
      unfold dropClosing
      rw [String.toList_ofList]
      rfl)
  have hne : piece.toList ≠ [] := by
    intro hnil
    rw [hnil] at hlast
    cases hlast
  rw [List.getLast?_eq_some_getLast hne] at hlast
  exact List.rdropWhile_eq_self_iff.1 hself hne (by simpa using hlast)

end CommandConsole.Line
