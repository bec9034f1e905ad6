/-
The quoting grammar of a line, and what the scan of a line keeps.

The tokens of a line are read in one pass, which carries an open region along
and cannot see where it will end. The grammar (`parsed`) says the same with a
look ahead: a piece that only opens with a quote makes one token with all
pieces up to the one that ends its region (`regionEnd`), which is the first to
close with a quote, or the last one. The two agree on every line
(`tokens_eq_parsed`), since an open region takes up the pieces between as they
are and ends where the grammar says (`scan_some_eq`).

Whatever the quotes in a line are, the tokens hold the rest of it: joined by
single spaces they are the line, but for quotes (`unquoted_tokens`). A region
that was still open at the end would be lost with the spaces in it. There is
none, because a region begins at no last piece and ends at the last one at the
latest.
-/
import CommandConsole.Proofs.Line.RoundTrip

namespace CommandConsole.Line

-- ================================================================= grammar

/-- The position of the piece that a region ends with, among the pieces behind
the one that begins it: the first one that closes with a quote, or else the
last one. -/
def regionEnd (pieces : List String) : Nat :=
  min (pieces.findIdx closesQuote) (pieces.length - 1)

/-- The tokens of the pieces behind the first one, by the grammar. -/
def parsed : List String → List String
  | [] => []
  | piece :: rest =>
      if 2 ≤ piece.length ∧ opensQuote piece ∧ closesQuote piece then
        dropQuotes piece :: parsed rest
      else if opensQuote piece ∧ rest ≠ [] then
        let last := regionEnd rest
        joined (dropOpening piece :: (rest.take last ++ [dropClosing (rest.getD last "")]))
          :: parsed (rest.drop (last + 1))
      else piece :: parsed rest
  termination_by pieces => pieces.length
  decreasing_by
    · exact Nat.lt_succ_self rest.length
    · rw [List.length_drop, List.length_cons]
      omega
    · exact Nat.lt_succ_self rest.length

/-- A region ends at once with a piece that closes it, and with the last
one. -/
theorem regionEnd_cons_of_ends {piece : String} {rest : List String}
    (h : closesQuote piece = true ∨ rest = []) : regionEnd (piece :: rest) = 0 := by
  unfold regionEnd
  rcases h with hcloses | rfl
  · rw [List.findIdx_cons, hcloses, cond_true, Nat.zero_min]
  · exact Nat.min_zero _

/-- A region goes on behind any other piece. -/
theorem regionEnd_cons_of_open {piece : String} {rest : List String}
    (hcloses : closesQuote piece = false) (hrest : rest ≠ []) :
    regionEnd (piece :: rest) = regionEnd rest + 1 := by
  have hlength : 0 < rest.length := List.length_pos_iff.2 hrest
  unfold regionEnd
  rw [List.findIdx_cons, hcloses, cond_false, List.length_cons]
  omega

/-- A text with another one behind a space is joined like two parts. -/
theorem joined_append_space (s t : String) (rest : List String) :
    joined ((s ++ " " ++ t) :: rest) = joined (s :: t :: rest) := by
  rw [joined_cons s (List.cons_ne_nil t rest)]
  cases rest with
  | nil => simp [joined]
  | cons u rest =>
      rw [joined_cons _ (List.cons_ne_nil u rest), joined_cons t (List.cons_ne_nil u rest)]
      simp only [String.append_assoc]

/-- An open region ends where the grammar says, with the pieces before its
last one as they are. -/
theorem scan_some_eq {pieces : List String} (hne : pieces ≠ []) (region : String) :
    scan (some region) pieces
      = joined (region :: (pieces.take (regionEnd pieces)
            ++ [dropClosing (pieces.getD (regionEnd pieces) "")]))
          :: scan none (pieces.drop (regionEnd pieces + 1)) := by
  induction pieces generalizing region with
  | nil => exact absurd rfl hne
  | cons piece rest ih =>
      by_cases hends : closesQuote piece = true ∨ rest = []
      · have hscan : (closesQuote piece || rest.isEmpty) = true := by
          rw [Bool.or_eq_true, List.isEmpty_iff]
          exact hends
        rw [regionEnd_cons_of_ends hends, scan, if_pos hscan]
        rfl
      · obtain ⟨hcloses, hrest⟩ := not_or.1 hends
        rw [Bool.not_eq_true] at hcloses
        have hscan : (closesQuote piece || rest.isEmpty) = false := by
          rw [hcloses, Bool.false_or, List.isEmpty_eq_false_iff]
          exact hrest
        rw [regionEnd_cons_of_open hcloses hrest, scan,
          if_neg (Bool.eq_false_iff.1 hscan), dropClosing_of_not_closes hcloses, ih hrest,
          List.take_succ_cons, List.getD_cons_succ, List.drop_succ_cons]
        -- the piece was added to the region, and stands in front of the others now
        rw [joined_append_space, List.cons_append]

/-- A piece stands between quotes if it has two characters or more and a quote
at either end. -/
theorem isEnclosed_iff (piece : String) :
    isEnclosed piece = true
      ↔ 2 ≤ piece.length ∧ opensQuote piece = true ∧ closesQuote piece = true := by
  unfold isEnclosed
  rw [Bool.and_eq_true, Bool.and_eq_true, decide_eq_true_iff, and_comm]
  exact Iff.rfl

/-- The one-pass scan makes the tokens of the grammar. -/
theorem scan_none_eq_parsed (pieces : List String) : scan none pieces = parsed pieces := by
  induction pieces using parsed.induct with
  | case1 => rw [parsed, scan]
  | case2 piece rest hquoted ih =>
      rw [parsed, if_pos hquoted, scan_none_enclosed ((isEnclosed_iff piece).2 hquoted), ih]
  | case3 piece rest hquoted hopens last ih =>
      have henclosed := Bool.eq_false_iff.2 (mt (isEnclosed_iff piece).1 hquoted)
      rw [parsed, if_neg hquoted, if_pos hopens, scan_none_opening hopens.1 henclosed hopens.2,
        scan_some_eq hopens.2, ih]
  | case4 piece rest hquoted hopens ih =>
      have henclosed := mt (isEnclosed_iff piece).1 hquoted
      have hbegins : ¬ (opensQuote piece && !rest.isEmpty) = true := by
        rw [Bool.and_eq_true, Bool.not_eq_true', List.isEmpty_eq_false_iff]
        exact hopens
      rw [parsed, if_neg hquoted, if_neg hopens, scan, if_neg henclosed, if_neg hbegins, ih]

/-- The tokens of a line are its first piece and what the grammar makes of the
others. -/
theorem tokens_eq_parsed (line : String) :
    tokens line = (pieces line).head (pieces_ne_nil line) :: parsed (pieces line).tail := by
  obtain ⟨name, rest, hpieces⟩ := List.exists_cons_of_ne_nil (pieces_ne_nil line)
  unfold tokens
  simp only [hpieces, List.head_cons, List.tail_cons, scan_none_eq_parsed]

/-- A region reaches over empty pieces to the first quote behind a piece, and a
last piece that only opens with a quote begins none. -/
example : parsed ["\"to", "", "all\"\"", "\"hi\"", "\"there"] = ["to  all", "hi", "\"there"] := by
  cbv

-- ============================================================ conservation

/-- The characters of a text that are no quotes. -/
def unquoted (s : String) : List Char := s.toList.filter (· != '"')

theorem unquoted_append_space (s t : String) :
    unquoted (s ++ " " ++ t) = unquoted s ++ ' ' :: unquoted t := by
  unfold unquoted
  rw [String.toList_append, String.toList_append, List.filter_append, List.filter_append,
    List.append_assoc]
  rfl

/-- The quotes in front of a row of characters are none of its other ones. -/
private theorem filter_dropWhile_quote (cs : List Char) :
    (cs.dropWhile (· == '"')).filter (· != '"') = cs.filter (· != '"') := by
  induction cs with
  | nil => rfl
  | cons c rest ih =>
      by_cases hquote : c = '"'
      · subst hquote
        exact ih
      · rw [List.dropWhile_cons_of_neg (by simpa using hquote)]

/-- Quotes alone are taken off the front of a piece ... -/
theorem unquoted_dropOpening (piece : String) : unquoted (dropOpening piece) = unquoted piece := by
  unfold unquoted dropOpening
  rw [String.toList_ofList, filter_dropWhile_quote]

/-- ... and off its end. -/
theorem unquoted_dropClosing (piece : String) : unquoted (dropClosing piece) = unquoted piece := by
  unfold unquoted dropClosing Text.dropEnd
  rw [String.toList_ofList, List.filter_reverse, filter_dropWhile_quote, List.filter_reverse,
    List.reverse_reverse]

theorem unquoted_dropQuotes (piece : String) : unquoted (dropQuotes piece) = unquoted piece := by
  rw [dropQuotes_eq, unquoted_dropClosing, unquoted_dropOpening]

/-- There are tokens where there are pieces. -/
theorem scan_ne_nil {pieces : List String} (hne : pieces ≠ []) (region? : Option String) :
    scan region? pieces ≠ [] := by
  cases region? with
  | some region =>
      rw [scan_some_eq hne]
      exact List.cons_ne_nil _ _
  | none =>
      obtain ⟨piece, rest, rfl⟩ := List.exists_cons_of_ne_nil hne
      rw [scan]
      split
      · exact List.cons_ne_nil _ _
      · split
        · next hbegins =>
          rw [Bool.and_eq_true, Bool.not_eq_true', List.isEmpty_eq_false_iff] at hbegins
          rw [scan_some_eq hbegins.2]
          exact List.cons_ne_nil _ _
        · exact List.cons_ne_nil _ _

/-- A part may be put in the place of another one with the same characters, but
for quotes. -/
theorem unquoted_joined_congr {s t : String} (h : unquoted s = unquoted t) (rest : List String) :
    unquoted (joined (s :: rest)) = unquoted (joined (t :: rest)) := by
  cases rest with
  | nil => exact h
  | cons u rest =>
      rw [joined_cons s (List.cons_ne_nil u rest), joined_cons t (List.cons_ne_nil u rest),
        unquoted_append_space, unquoted_append_space, h]

/-- A token stands in front of those of the pieces that are left. -/
theorem unquoted_joined_cons (token : String) {rest : List String}
    (hrest : rest ≠ [] → unquoted (joined (scan none rest)) = unquoted (joined rest)) :
    unquoted (joined (token :: scan none rest)) = unquoted (joined (token :: rest)) := by
  by_cases hnil : rest = []
  · subst hnil
    rfl
  · rw [joined_cons token (scan_ne_nil hnil none), joined_cons token hnil, unquoted_append_space,
      unquoted_append_space, hrest hnil]

/-- What the scan reads, and what it has read of an open region, is what the
tokens hold, but for quotes. -/
theorem unquoted_joined_scan {pieces : List String} (hne : pieces ≠ []) :
    unquoted (joined (scan none pieces)) = unquoted (joined pieces)
      ∧ ∀ region, unquoted (joined (scan (some region) pieces))
          = unquoted (joined (region :: pieces)) := by
  induction pieces with
  | nil => exact absurd rfl hne
  | cons piece rest ih =>
      have hrest : rest ≠ [] → unquoted (joined (scan none rest)) = unquoted (joined rest) :=
        fun h => (ih h).1
      constructor
      · rw [scan]
        split
        · exact (unquoted_joined_cons _ hrest).trans
            (unquoted_joined_congr (unquoted_dropQuotes piece) rest)
        · split
          · next hbegins =>
            rw [Bool.and_eq_true, Bool.not_eq_true', List.isEmpty_eq_false_iff] at hbegins
            rw [(ih hbegins.2).2]
            exact unquoted_joined_congr (unquoted_dropOpening piece) rest
          · exact unquoted_joined_cons piece hrest
      · intro region
        have hlonger : unquoted (region ++ " " ++ dropClosing piece)
            = unquoted (region ++ " " ++ piece) := by
          rw [unquoted_append_space, unquoted_append_space, unquoted_dropClosing]
        rw [← joined_append_space, ← unquoted_joined_congr hlonger, scan]
        split
        · exact unquoted_joined_cons _ hrest
        · next hgoes =>
          rw [Bool.or_eq_true, not_or, List.isEmpty_iff] at hgoes
          exact (ih hgoes.2).2 _

/-- The tokens of a line hold every character of it that is no quote, once and
in its place: joined by single spaces they are the line, but for quotes. -/
theorem unquoted_tokens (line : String) :
    unquoted (joined (tokens line)) = unquoted line := by
  obtain ⟨name, rest, hpieces⟩ := List.exists_cons_of_ne_nil (pieces_ne_nil line)
  have hline := joined_pieces line
  unfold tokens
  rw [hpieces] at hline ⊢
  dsimp only
  rw [unquoted_joined_cons name fun hrest => (unquoted_joined_scan hrest).1, hline]

end CommandConsole.Line
