/-
Writing tokens as a line, and reading them back.

A name and some arguments are written with single spaces between them, an
argument between quotes exactly if there is a space in it (`ofTokens`).
Not every row of tokens comes back from its line: a quote at the wrong end
of a piece opens or closes a region that was not meant. The main result,
`tokens_ofTokens_iff`, says which rows come back. They are those whose
name holds no space and whose arguments are `Recoverable`.

Both directions go argument by argument. The pieces that an argument is
written as stand in front of those of the arguments behind it, and the
scan of the tokens either consumes them all and answers the argument
(`scan_quoted`), or its first token is another text. That it is another
one shows in its length: whatever quote is out of place gets lost, or the
region ends too early (`scan_closed_length`).
-/
import CommandConsole.Proofs.Line.Pieces

namespace CommandConsole.Line

-- ================================================================= writing

/-- An argument as it is written in a line. -/
def written (argument : String) : String :=
  if ' ' ∈ argument.toList then "\"" ++ argument ++ "\"" else argument

/-- The line that a name and some arguments are written as. -/
def ofTokens (name : String) (arguments : List String) : String :=
  joined (name :: arguments.map written)

/-- Quotes around a text keep it together: it opens with no quote of its
own, and none of its pieces closes with one. -/
def Quotable (s : String) : Prop :=
  opensQuote s = false ∧ ∀ piece ∈ pieces s, closesQuote piece = false

/-- The arguments come back from the line that they are written in. -/
structure Recoverable (arguments : List String) : Prop where
  /-- What is written between quotes is kept together by them. -/
  quoted : ∀ a ∈ arguments, ' ' ∈ a.toList → Quotable a
  /-- What is written as it is opens with no quote ... -/
  bare : ∀ a ∈ arguments.dropLast, ' ' ∉ a.toList → opensQuote a = false
  /-- ... but for the last argument, which may be a quote or may open with
  a quote and close with none. -/
  last : ∀ a ∈ arguments.getLast?, ' ' ∉ a.toList → opensQuote a = true →
    a = "\"" ∨ closesQuote a = false

-- ==================================================== steps of the scan

/-- A piece that opens with no quote is a token. -/
theorem scan_none_bare {piece : String} (h : opensQuote piece = false)
    (rest : List String) : scan none (piece :: rest) = piece :: scan none rest := by
  simp [scan, isEnclosed, h]

/-- A piece between quotes is a token without them. -/
theorem scan_none_enclosed {piece : String} (h : isEnclosed piece = true)
    (rest : List String) :
    scan none (piece :: rest) = dropQuotes piece :: scan none rest := by
  simp [scan, h]

/-- A piece that only opens with a quote begins a region, if pieces follow
it. -/
theorem scan_none_opening {piece : String} {rest : List String}
    (hopens : opensQuote piece = true) (henclosed : isEnclosed piece = false)
    (hrest : rest ≠ []) :
    scan none (piece :: rest) = scan (some (dropOpening piece)) rest := by
  simp [scan, henclosed, hopens, hrest]

/-- The last piece is a token unless it stands between quotes. -/
theorem scan_none_last {piece : String} (h : isEnclosed piece = false) :
    scan none [piece] = [piece] := by
  simp [scan, h]

/-- A region goes on behind a piece that does not close it. -/
theorem scan_some_open {piece : String} {rest : List String}
    (h : closesQuote piece = false) (hrest : rest ≠ []) (region : String) :
    scan (some region) (piece :: rest)
      = scan (some (region ++ " " ++ piece)) rest := by
  simp [scan, h, hrest, dropClosing_of_not_closes h]

/-- A region ends with a piece that closes it. -/
theorem scan_some_closed {piece : String} (h : closesQuote piece = true)
    (region : String) (rest : List String) :
    scan (some region) (piece :: rest)
      = (region ++ " " ++ dropClosing piece) :: scan none rest := by
  simp [scan, h]

-- ===================================================== the end of a region

/-- Pieces with a quote behind the last one. -/
def closed : List String → List String
  | [] => []
  | [piece] => [piece ++ "\""]
  | piece :: next :: rest => piece :: closed (next :: rest)

theorem closed_ne_nil {parts : List String} (h : parts ≠ []) : closed parts ≠ [] := by
  match parts with
  | [] => exact absurd rfl h
  | [_] => simp [closed]
  | _ :: _ :: _ => simp [closed]

/-- The quote behind the last piece is behind the text. -/
theorem joined_closed {parts : List String} (h : parts ≠ []) :
    joined (closed parts) = joined parts ++ "\"" := by
  induction parts with
  | nil => exact absurd rfl h
  | cons piece rest ih =>
      cases rest with
      | nil => simp [closed, joined]
      | cons next rest =>
          have hne : next :: rest ≠ [] := List.cons_ne_nil next rest
          rw [closed, joined_cons piece (closed_ne_nil hne), ih hne, joined_cons piece hne]
          simp only [String.append_assoc]

/-- The quote is the only character that is new. -/
theorem space_notMem_of_mem_closed {parts : List String}
    (h : ∀ part ∈ parts, ' ' ∉ part.toList) :
    ∀ piece ∈ closed parts, ' ' ∉ piece.toList := by
  induction parts with
  | nil => exact fun piece hp => absurd hp List.not_mem_nil
  | cons part rest ih =>
      have hpart := h part List.mem_cons_self
      cases rest with
      | nil =>
          intro piece hp
          obtain rfl := List.mem_singleton.1 hp
          simp [hpart]
      | cons next rest =>
          intro piece hp
          rcases List.mem_cons.1 hp with rfl | hp
          · exact hpart
          · exact ih (fun p hp => h p (List.mem_cons_of_mem part hp)) piece hp

/-- A quote behind a piece closes it. -/
theorem closesQuote_append_quote (piece : String) :
    closesQuote (piece ++ "\"") = true := by
  simp [closesQuote]

/-- A quote behind a piece is taken off with the others. -/
theorem dropClosing_append_quote (piece : String) :
    dropClosing (piece ++ "\"") = dropClosing piece := by
  simp [dropClosing, Text.dropEnd]

/-- A region whose pieces do not close it ends with the quote behind the
last one, and nothing of it is lost. -/
theorem scan_closed {parts : List String} (hne : parts ≠ [])
    (h : ∀ part ∈ parts, closesQuote part = false) (tail : List String) :
    ∀ region, scan (some region) (closed parts ++ tail)
      = (region ++ " " ++ joined parts) :: scan none tail := by
  induction parts with
  | nil => exact absurd rfl hne
  | cons part rest ih =>
      intro region
      have hpart := h part List.mem_cons_self
      cases rest with
      | nil =>
          show scan (some region) ((part ++ "\"") :: tail) = _
          rw [scan_some_closed (closesQuote_append_quote part), dropClosing_append_quote,
            dropClosing_of_not_closes hpart]
          simp [joined]
      | cons next rest =>
          have hrest : next :: rest ≠ [] := List.cons_ne_nil next rest
          show scan (some region) (part :: (closed (next :: rest) ++ tail)) = _
          rw [scan_some_open hpart (List.append_ne_nil_of_left_ne_nil (closed_ne_nil hrest) _),
            ih hrest (fun p hp => h p (List.mem_cons_of_mem part hp)),
            joined_cons part hrest]
          simp only [String.append_assoc]

/-- A piece that closes a region makes it end with fewer characters than
its pieces have, since its quotes get lost. -/
theorem length_region_lt {part : String} (h : closesQuote part = true) (region : String) :
    (region ++ " " ++ dropClosing part).length < (region ++ " " ++ part).length := by
  have hlt := length_dropClosing_lt h
  simp only [String.length_append]
  omega

/-- A region of which a piece has quotes behind it ends with a token that is
shorter than the text of the region. -/
theorem scan_closed_length {parts : List String}
    (h : ∃ part ∈ parts, closesQuote part = true) (tail : List String) :
    ∀ region, ∃ token rest, scan (some region) (closed parts ++ tail) = token :: rest
      ∧ token.length < (region ++ " " ++ joined parts).length := by
  induction parts with
  | nil =>
      obtain ⟨part, hmem, -⟩ := h
      exact absurd hmem List.not_mem_nil
  | cons part rest ih =>
      intro region
      cases rest with
      | nil =>
          obtain ⟨other, hmem, hcloses⟩ := h
          obtain rfl := List.mem_singleton.1 hmem
          refine ⟨region ++ " " ++ dropClosing other, scan none tail, ?_,
            length_region_lt hcloses region⟩
          show scan (some region) ((other ++ "\"") :: tail) = _
          rw [scan_some_closed (closesQuote_append_quote other), dropClosing_append_quote]
      | cons next rest =>
          have hne : next :: rest ≠ [] := List.cons_ne_nil next rest
          have hcons : closed (part :: next :: rest) ++ tail
              = part :: (closed (next :: rest) ++ tail) := rfl
          rw [hcons, joined_cons part hne]
          cases hpart : closesQuote part with
          | true =>
              refine ⟨_, _, scan_some_closed hpart region _, ?_⟩
              have hlt := length_region_lt hpart region
              simp only [String.length_append] at hlt ⊢
              omega
          | false =>
              have hlater : ∃ p ∈ next :: rest, closesQuote p = true := by
                obtain ⟨p, hp, hcloses⟩ := h
                rcases List.mem_cons.1 hp with rfl | hp
                · rw [hpart] at hcloses
                  cases hcloses
                · exact ⟨p, hp, hcloses⟩
              obtain ⟨token, after, hscan, hlt⟩ := ih hlater (region ++ " " ++ part)
              refine ⟨token, after, ?_, ?_⟩
              · rw [scan_some_open hpart
                  (List.append_ne_nil_of_left_ne_nil (closed_ne_nil hne) _)]
                exact hscan
              · simp only [String.length_append] at hlt ⊢
                omega

/-- A region that begins with a piece is read as a token that is shorter
than its text, if the piece has quotes in front of it or a later one has
some behind it. -/
theorem scan_region_length {parts : List String} (hne : parts ≠ []) (tail : List String)
    (first : String)
    (h : opensQuote first = true ∨ ∃ part ∈ parts, closesQuote part = true) :
    ∃ token rest, scan (some (dropOpening first)) (closed parts ++ tail) = token :: rest
      ∧ token.length < (first ++ " " ++ joined parts).length := by
  have hle := (dropOpening_sublist first).length_le
  rw [String.length_toList, String.length_toList] at hle
  by_cases hcloses : ∃ part ∈ parts, closesQuote part = true
  · obtain ⟨token, rest, hscan, hlt⟩ := scan_closed_length hcloses tail (dropOpening first)
    refine ⟨token, rest, hscan, ?_⟩
    simp only [String.length_append] at hlt ⊢
    omega
  · refine ⟨_, _, scan_closed hne ?_ tail (dropOpening first), ?_⟩
    · intro part hp
      exact Bool.eq_false_iff.2 fun hc => hcloses ⟨part, hp, hc⟩
    · have hlt := length_dropOpening_lt (h.resolve_right hcloses)
      simp only [String.length_append]
      omega

-- ============================================================ one argument

/-- The pieces of a text between quotes are those of the text, with a quote
in front of the first one and a quote behind the last one. -/
theorem pieces_between_quotes {s first : String} {rest : List String}
    (h : pieces s = first :: rest) (hne : rest ≠ []) :
    pieces ("\"" ++ s ++ "\"") = ("\"" ++ first) :: closed rest := by
  have hfree : ∀ piece ∈ pieces s, ' ' ∉ piece.toList :=
    fun piece hp => space_notMem_of_mem_pieces hp
  rw [h] at hfree
  refine pieces_eq_of_joined (List.cons_ne_nil _ _) ?_ ?_
  · intro piece hp
    rcases List.mem_cons.1 hp with rfl | hp
    · simp [hfree first List.mem_cons_self]
    · exact space_notMem_of_mem_closed
        (fun p hp => hfree p (List.mem_cons_of_mem first hp)) piece hp
  · have hs := joined_pieces s
    rw [h, joined_cons first hne] at hs
    rw [joined_cons _ (closed_ne_nil hne), joined_closed hne, ← hs]
    simp only [String.append_assoc]

/-- A quote in front of a piece encloses it if the piece closes with one. -/
theorem isEnclosed_quote_append (piece : String) :
    isEnclosed ("\"" ++ piece) = closesQuote piece := by
  unfold isEnclosed opensQuote closesQuote
  rw [← String.length_toList]
  cases hcs : piece.toList with
  | nil => simp [hcs]
  | cons c cs => simp [hcs]

/-- A quote in front of a piece is taken off with the others. -/
theorem dropOpening_quote_append (piece : String) :
    dropOpening ("\"" ++ piece) = dropOpening piece := by
  simp [dropOpening]

/-- A piece with a quote in front of it begins a region unless it closes
with one. -/
theorem scan_none_quote_append {first : String} {rest : List String}
    (hfirst : closesQuote first = false) (hrest : rest ≠ []) (tail : List String) :
    scan none (("\"" ++ first) :: (closed rest ++ tail))
      = scan (some (dropOpening first)) (closed rest ++ tail) := by
  have hopens : opensQuote ("\"" ++ first) = true := by simp [opensQuote]
  have henclosed : isEnclosed ("\"" ++ first) = false := by
    rw [isEnclosed_quote_append, hfirst]
  have hne : closed rest ++ tail ≠ [] :=
    List.append_ne_nil_of_left_ne_nil (closed_ne_nil hrest) tail
  rw [scan_none_opening hopens henclosed hne, dropOpening_quote_append]

/-- What follows a space does not tell whether a text opens with a quote. -/
theorem opensQuote_append_space (s t : String) :
    opensQuote (s ++ " " ++ t) = opensQuote s := by
  unfold opensQuote
  cases hcs : s.toList with
  | nil => simp [hcs]
  | cons c cs => simp [hcs]

/-- The pieces of an argument between quotes are read as the argument if the
quotes keep it together, ... -/
theorem scan_quoted {a : String} (hspace : ' ' ∈ a.toList) (h : Quotable a)
    (tail : List String) :
    scan none (pieces (written a) ++ tail) = a :: scan none tail := by
  obtain ⟨first, rest, hpieces, hne⟩ := pieces_of_space_mem hspace
  obtain ⟨hopens, hcloses⟩ := h
  have ha := joined_pieces a
  rw [hpieces] at hcloses ha
  rw [joined_cons first hne] at ha
  rw [← ha, opensQuote_append_space] at hopens
  unfold written
  rw [if_pos hspace, pieces_between_quotes hpieces hne, List.cons_append,
    scan_none_quote_append (hcloses first List.mem_cons_self) hne,
    scan_closed hne (fun p hp => hcloses p (List.mem_cons_of_mem first hp)),
    dropOpening_of_not_opens hopens, ha]

/-- ... and the first token is another text if they do not. -/
theorem scan_quoted_ne {a : String} (hspace : ' ' ∈ a.toList) (h : ¬ Quotable a)
    (tail tokens : List String) :
    scan none (pieces (written a) ++ tail) ≠ a :: tokens := by
  obtain ⟨first, rest, hpieces, hne⟩ := pieces_of_space_mem hspace
  have ha := joined_pieces a
  rw [hpieces, joined_cons first hne] at ha
  have hfirst : ' ' ∉ ("\"" ++ first).toList := by
    have hfree := space_notMem_of_mem_pieces (s := a) (by
      rw [hpieces]; exact List.mem_cons_self)
    simp [hfree]
  unfold written
  rw [if_pos hspace, pieces_between_quotes hpieces hne, List.cons_append]
  cases hclosed : closesQuote first with
  | true =>
      -- the first piece is a token by itself, and has no space
      rw [scan_none_enclosed (by rw [isEnclosed_quote_append]; exact hclosed)]
      intro heq
      rw [← (List.cons.inj heq).1] at hspace
      exact hfirst ((dropQuotes_sublist _).subset hspace)
  | false =>
      -- a quote in front, or a piece of the region that closes it
      have hedge : opensQuote first = true ∨ ∃ piece ∈ rest, closesQuote piece = true := by
        by_contra hnone
        rw [not_or, Bool.not_eq_true] at hnone
        refine h ⟨?_, ?_⟩
        · rw [← ha, opensQuote_append_space]
          exact hnone.1
        · rw [hpieces]
          intro piece hp
          rcases List.mem_cons.1 hp with rfl | hp
          · exact hclosed
          · exact Bool.eq_false_iff.2 fun hc => hnone.2 ⟨piece, hp, hc⟩
      obtain ⟨token, after, hscan, hlt⟩ := scan_region_length hne tail first hedge
      rw [scan_none_quote_append hclosed hne, hscan]
      intro heq
      rw [(List.cons.inj heq).1, ha] at hlt
      exact Nat.lt_irrefl _ hlt

-- ===================================================== rows of arguments

/-- A piece that opens with a quote does not stand between quotes exactly if
it is a quote or closes with none. -/
theorem isEnclosed_eq_false_iff {piece : String} (h : opensQuote piece = true) :
    isEnclosed piece = false ↔ piece = "\"" ∨ closesQuote piece = false := by
  unfold isEnclosed
  rw [h, Bool.true_and]
  cases hcloses : closesQuote piece with
  | false => simp
  | true =>
      unfold opensQuote at h
      simp only [Bool.true_and, decide_eq_false_iff_not, Nat.not_lt, Bool.true_eq_false,
        or_false]
      rw [← String.length_toList, ← String.toList_inj]
      cases hcs : piece.toList with
      | nil => simp [hcs] at h
      | cons c cs =>
          rw [hcs] at h
          have hc : c = '"' := by simpa using h
          subst hc
          simp

/-- The written form of a row without arguments has no pieces, any other one
has. -/
theorem pieces_written_eq_nil_iff {arguments : List String} :
    arguments.flatMap (fun a => pieces (written a)) = [] ↔ arguments = [] := by
  cases arguments with
  | nil => simp
  | cons a rest => simp [pieces_ne_nil]

/-- A row without arguments is recoverable. -/
theorem recoverable_nil : Recoverable [] := by
  constructor <;> simp

/-- A row of arguments is recoverable if the first one is in its place and
the others are. -/
theorem recoverable_cons_iff {a : String} {rest : List String} :
    Recoverable (a :: rest)
      ↔ (' ' ∈ a.toList → Quotable a)
        ∧ (' ' ∉ a.toList → opensQuote a = true → rest = [] ∧ isEnclosed a = false)
        ∧ Recoverable rest := by
  cases rest with
  | nil =>
      constructor
      · intro h
        refine ⟨h.quoted a List.mem_cons_self, fun hspace hopens => ⟨rfl, ?_⟩,
          recoverable_nil⟩
        exact (isEnclosed_eq_false_iff hopens).2 (h.last a rfl hspace hopens)
      · rintro ⟨hquoted, hbare, -⟩
        refine ⟨?_, fun b hb => absurd hb List.not_mem_nil, ?_⟩
        · intro b hb
          obtain rfl := List.mem_singleton.1 hb
          exact hquoted
        · intro b hb hspace hopens
          obtain rfl := Option.some.inj hb
          exact (isEnclosed_eq_false_iff hopens).1 (hbare hspace hopens).2
  | cons b rest =>
      constructor
      · intro h
        refine ⟨h.quoted a List.mem_cons_self, fun hspace hopens => ?_, ?_⟩
        · rw [h.bare a List.mem_cons_self hspace] at hopens
          cases hopens
        · exact ⟨fun c hc => h.quoted c (List.mem_cons_of_mem a hc),
            fun c hc => h.bare c (List.mem_cons_of_mem a hc), h.last⟩
      · rintro ⟨hquoted, hbare, hrest⟩
        refine ⟨?_, ?_, hrest.last⟩
        · intro c hc
          rcases List.mem_cons.1 hc with rfl | hc
          · exact hquoted
          · exact hrest.quoted c hc
        · intro c hc hspace
          rcases List.mem_cons.1 hc with rfl | hc
          · refine Bool.eq_false_iff.2 fun hopens => ?_
            exact absurd (hbare hspace hopens).1 (List.cons_ne_nil b rest)
          · exact hrest.bare c hc hspace

/-- The token that a region ends with has a space in it. -/
theorem scan_some_head (region : String) {pieces : List String} (h : pieces ≠ []) :
    ∃ token rest, scan (some region) pieces = token :: rest ∧ ' ' ∈ token.toList := by
  induction pieces generalizing region with
  | nil => exact absurd rfl h
  | cons piece rest ih =>
      by_cases hend : (closesQuote piece || rest.isEmpty) = true
      · refine ⟨region ++ " " ++ dropClosing piece, scan none rest, ?_, by simp⟩
        simp [scan, hend]
      · have hrest : rest ≠ [] := by
          rintro rfl
          simp at hend
        obtain ⟨token, after, hscan, hspace⟩ :=
          ih (region ++ " " ++ dropClosing piece) hrest
        refine ⟨token, after, ?_, hspace⟩
        rw [← hscan]
        simp [scan, hend]

/-- An argument without a space is read as itself, and the others after it,
exactly if it opens with no quote or is the last one and does not stand
between quotes. -/
theorem scan_bare_eq_iff {a : String} (hspace : ' ' ∉ a.toList) (tail tokens : List String) :
    scan none (a :: tail) = a :: tokens
      ↔ (opensQuote a = true → tail = [] ∧ isEnclosed a = false)
        ∧ scan none tail = tokens := by
  cases hopens : opensQuote a with
  | false => simp [scan_none_bare hopens]
  | true =>
      cases henclosed : isEnclosed a with
      | true => simp [scan_none_enclosed henclosed, dropQuotes_ne hopens]
      | false =>
          cases tail with
          | nil =>
              have hnil : scan none [] = [] := rfl
              simp [scan_none_last henclosed, hnil]
          | cons piece rest =>
              obtain ⟨token, after, hscan, htoken⟩ :=
                scan_some_head (dropOpening a) (List.cons_ne_nil piece rest)
              have hne : token ≠ a := by
                rintro rfl
                exact hspace htoken
              rw [scan_none_opening hopens henclosed (List.cons_ne_nil piece rest), hscan]
              simp [hne]

/-- Arguments are read back from the pieces that they are written as exactly
if they are recoverable. -/
theorem scan_written_eq_iff (arguments : List String) :
    scan none (arguments.flatMap fun a => pieces (written a)) = arguments
      ↔ Recoverable arguments := by
  induction arguments with
  | nil => simp [scan, recoverable_nil]
  | cons a rest ih =>
      rw [List.flatMap_cons, recoverable_cons_iff]
      by_cases hspace : ' ' ∈ a.toList
      · by_cases hquotable : Quotable a
        · rw [scan_quoted hspace hquotable]
          simp [hspace, hquotable, ih]
        · have hne := scan_quoted_ne hspace hquotable
            (rest.flatMap fun a => pieces (written a)) rest
          simp [hspace, hquotable, hne]
      · have hwritten : written a = a := if_neg hspace
        rw [hwritten, pieces_eq_singleton hspace, List.singleton_append,
          scan_bare_eq_iff hspace, pieces_written_eq_nil_iff, ih]
        simp [hspace]

-- ============================================================ the round trip

/-- The tokens of a written line are the name and the arguments that it was
written from exactly if the name holds no space and the arguments are
recoverable. -/
theorem tokens_ofTokens_iff (name : String) (arguments : List String) :
    tokens (ofTokens name arguments) = name :: arguments
      ↔ ' ' ∉ name.toList ∧ Recoverable arguments := by
  have hpieces : pieces (ofTokens name arguments)
      = pieces name ++ arguments.flatMap fun a => pieces (written a) := by
    unfold ofTokens
    rw [pieces_joined (List.cons_ne_nil _ _), List.flatMap_cons, List.flatMap_map]
  unfold tokens
  rw [hpieces]
  by_cases hspace : ' ' ∈ name.toList
  · obtain ⟨first, rest, hname, -⟩ := pieces_of_space_mem hspace
    have hne : first ≠ name := by
      rintro rfl
      refine space_notMem_of_mem_pieces (s := first) ?_ hspace
      rw [hname]
      exact List.mem_cons_self
    rw [hname]
    simp [hspace, hne]
  · rw [pieces_eq_singleton hspace, List.singleton_append]
    simp [hspace, scan_written_eq_iff]

/-- A quote that only the last argument opens with is no region. -/
example : tokens (ofTokens "say" ["to all", "\"hi"]) = ["say", "to all", "\"hi"] := by
  decide

end CommandConsole.Line
