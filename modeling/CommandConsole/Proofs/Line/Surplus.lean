/-
A line that ends in running text.

The last argument of a command may be written without quotes, however many
spaces it has: the tokens that are too many are folded back into it. A line
in which a text stands behind a name and some arguments (`withText`) is
therefore read as that name, those arguments and that text, if nothing in
the text begins a region of its own (`fold_tokens_withText`).

The arguments in front are written as in `ofTokens`. No argument is the last
token here, so an argument must be one that comes back wherever it stands
(`Steady`); that it may open with a quote at the end of a line is of no use.
-/
import CommandConsole.Proofs.Line.RoundTrip

namespace CommandConsole.Line

/-- The line in which a text stands behind a name and some arguments. -/
def withText (name : String) (arguments : List String) (text : String) : String :=
  joined (name :: (arguments.map written ++ [text]))

/-- An argument comes back wherever it stands in a line: it opens with no
quote, and if it has pieces, none of them closes with one. -/
def Steady (a : String) : Prop :=
  opensQuote a = false ∧ (' ' ∈ a.toList → ∀ piece ∈ pieces a, closesQuote piece = false)

/-- What such an argument is written as is read as the argument, whatever
comes behind it. -/
theorem scan_steady {a : String} (h : Steady a) (tail : List String) :
    scan none (pieces (written a) ++ tail) = a :: scan none tail := by
  by_cases hspace : ' ' ∈ a.toList
  · exact scan_quoted hspace ⟨h.1, h.2 hspace⟩ tail
  · have hwritten : written a = a := if_neg hspace
    rw [hwritten, pieces_eq_singleton hspace, List.singleton_append, scan_none_bare h.1]

/-- Pieces that open with no quote are tokens as they are. -/
theorem scan_none_unquoted {parts : List String}
    (h : ∀ part ∈ parts, opensQuote part = false) : scan none parts = parts := by
  induction parts with
  | nil => rfl
  | cons part rest ih =>
      rw [scan_none_bare (h part List.mem_cons_self),
        ih fun p hp => h p (List.mem_cons_of_mem part hp)]

/-- The arguments are read back from their pieces, in front of pieces that
open with no quote. -/
theorem scan_written_append {arguments parts : List String}
    (harguments : ∀ a ∈ arguments, Steady a)
    (hparts : ∀ part ∈ parts, opensQuote part = false) :
    scan none ((arguments.flatMap fun a => pieces (written a)) ++ parts)
      = arguments ++ parts := by
  induction arguments with
  | nil => exact scan_none_unquoted hparts
  | cons a rest ih =>
      rw [List.flatMap_cons, List.append_assoc, scan_steady (harguments a List.mem_cons_self),
        ih fun b hb => harguments b (List.mem_cons_of_mem a hb), List.cons_append]

/-- The tokens of a line with a text at its end are the name, the arguments
and the pieces of the text. -/
theorem tokens_withText {name text : String} {arguments : List String}
    (hname : ' ' ∉ name.toList) (harguments : ∀ a ∈ arguments, Steady a)
    (htext : ∀ piece ∈ pieces text, opensQuote piece = false) :
    tokens (withText name arguments text) = name :: (arguments ++ pieces text) := by
  have hpieces : pieces (withText name arguments text)
      = name :: ((arguments.flatMap fun a => pieces (written a)) ++ pieces text) := by
    unfold withText
    rw [pieces_joined (List.cons_ne_nil _ _), List.flatMap_cons, List.flatMap_append,
      List.flatMap_map, List.flatMap_singleton, pieces_eq_singleton hname, List.singleton_append]
  unfold tokens
  rw [hpieces]
  exact congrArg (name :: ·) (scan_written_append harguments htext)

/-- Tokens behind the first ones are folded into one, if there are as many
first ones as a name and all but one of the arguments make. -/
theorem fold_append {words surplus : List String} (hwords : words ≠ [])
    (hsurplus : surplus ≠ []) :
    fold (words ++ surplus) words.length = words ++ [joined surplus] := by
  obtain ⟨name, rest, rfl⟩ := List.exists_cons_of_ne_nil hwords
  unfold fold
  split
  · next hle =>
    -- there is one token behind them, and nothing to fold
    obtain ⟨s, more, rfl⟩ := List.exists_cons_of_ne_nil hsurplus
    have hmore : more = [] := by
      simp only [List.length_append, List.length_cons] at hle
      exact List.length_eq_zero_iff.1 (by omega)
    rw [hmore]
    simp [joined]
  · rw [List.length_cons]
    show (name :: rest ++ surplus).take (name :: rest).length
        ++ [joined ((name :: rest ++ surplus).drop (name :: rest).length)] = _
    rw [List.take_left, List.drop_left]

/-- A line with a text at its end is read as the name, the arguments and the
text for a command that takes one argument more. -/
theorem fold_tokens_withText {name text : String} {arguments : List String}
    (hname : ' ' ∉ name.toList) (harguments : ∀ a ∈ arguments, Steady a)
    (htext : ∀ piece ∈ pieces text, opensQuote piece = false) :
    fold (tokens (withText name arguments text)) (arguments.length + 1)
      = name :: (arguments ++ [text]) := by
  rw [tokens_withText hname harguments htext, ← List.cons_append,
    show arguments.length + 1 = (name :: arguments).length from rfl,
    fold_append (List.cons_ne_nil name arguments) (pieces_ne_nil text), joined_pieces]
  rfl

/-- The line is not empty: there is a space in it at least. -/
theorem withText_ne_empty (name : String) (arguments : List String) (text : String) :
    withText name arguments text ≠ "" := by
  intro hempty
  have hne : arguments.map written ++ [text] ≠ [] := by simp
  unfold withText at hempty
  rw [joined_cons name hne] at hempty
  have hlength := congrArg String.length hempty
  simp only [String.length_append] at hlength
  have hspace : (" " : String).length = 1 := rfl
  have hnil : ("" : String).length = 0 := rfl
  omega

end CommandConsole.Line
