/-
Control sequences in what is written.

An output that understands codes gets more characters than one that does not:
the control sequences around each run that has a style. A text with control
sequences put into it (`Coded`) is the text itself once they are taken out
again, if it has no character of its own that begins one
(`Coded.stripped_eq`). A row of cells is written as its characters, with
nothing but control sequences put in (`coded_writeCells`), and a row in the
style that changes nothing is written as its characters alone
(`writeCells_of_plain`), like any row on an output that understands no codes
(`writeCells_false`).
-/
import CommandConsole.Display.Terminal
import Mathlib.Data.List.SplitBy

namespace CommandConsole.Display.Terminal

-- =============================================================== sequences

/-- A character of the parameters of a control sequence. -/
def isParameter (c : Char) : Bool := c.isDigit || c == ';'

/-- The first row of characters is the second one with control sequences put
in, each with parameters and a letter at its end. -/
inductive Coded : List Char → List Char → Prop
  | nil : Coded [] []
  | char (c : Char) {cs text : List Char} (h : Coded cs text) : Coded (c :: cs) (c :: text)
  | code {parameters : List Char} (hparameters : ∀ c ∈ parameters, isParameter c = true)
      {last : Char} (hlast : last.isAlpha = true) {cs text : List Char} (h : Coded cs text) :
      Coded (escapeChar :: '[' :: (parameters ++ last :: cs)) text

theorem coded_refl (text : List Char) : Coded text text := by
  induction text with
  | nil => exact .nil
  | cons c rest ih => exact .char c ih

theorem Coded.append {cs cs' text text' : List Char} (h : Coded cs text) (h' : Coded cs' text') :
    Coded (cs ++ cs') (text ++ text') := by
  induction h with
  | nil => exact h'
  | char c _ ih => exact .char c ih
  | code hparameters hlast _ ih =>
      rw [List.cons_append, List.cons_append, List.append_assoc, List.cons_append]
      exact .code hparameters hlast ih

mutual

/-- A row of characters without its control sequences, each of which ends with
its first letter. -/
def stripped : List Char → List Char
  | [] => []
  | c :: rest => if c = escapeChar then behindSequence rest else c :: stripped rest

/-- What is left of a row of characters that begins inside a control
sequence. -/
def behindSequence : List Char → List Char
  | [] => []
  | c :: rest => if c.isAlpha then stripped rest else behindSequence rest

end

theorem stripped_cons_of_ne {c : Char} (h : c ≠ escapeChar) (rest : List Char) :
    stripped (c :: rest) = c :: stripped rest := by
  rw [stripped, if_neg h]

/-- No letter is a parameter of a control sequence. -/
theorem isAlpha_of_isParameter {c : Char} (h : isParameter c = true) : c.isAlpha = false := by
  rw [isParameter, Bool.or_eq_true, beq_iff_eq] at h
  rcases h with hdigit | rfl
  · have hdigit_le : c.toNat ≤ 57 := (Char.isDigit_iff_toNat.1 hdigit).2
    refine Bool.eq_false_iff.2 fun halpha => ?_
    rcases Bool.or_eq_true_iff.1 halpha with hupper | hlower
    · have hletter : 65 ≤ c.toNat := UInt32.le_iff_toNat_le.1 (of_decide_eq_true hupper).1
      omega
    · have hfirst := of_decide_eq_true (Bool.and_eq_true_iff.1 hlower).1
      have hletter : 97 ≤ c.toNat := UInt32.le_iff_toNat_le.1 hfirst
      omega
  · rfl

theorem behindSequence_append {parameters : List Char}
    (hparameters : ∀ c ∈ parameters, isParameter c = true) {last : Char}
    (hlast : last.isAlpha = true) (rest : List Char) :
    behindSequence (parameters ++ last :: rest) = stripped rest := by
  induction parameters with
  | nil => rw [List.nil_append, behindSequence, if_pos hlast]
  | cons c parameters ih =>
      rw [List.forall_mem_cons] at hparameters
      rw [List.cons_append, behindSequence, isAlpha_of_isParameter hparameters.1, if_neg nofun,
        ih hparameters.2]

/-- What was put into a text is taken out of it again, if the text has no
control sequences of its own. -/
theorem Coded.stripped_eq {cs text : List Char} (h : Coded cs text) (hfree : escapeChar ∉ text) :
    stripped cs = text := by
  induction h with
  | nil => rfl
  | char c _ ih =>
      rw [List.mem_cons, not_or] at hfree
      rw [stripped_cons_of_ne (Ne.symm hfree.1), ih hfree.2]
  | code hparameters hlast _ ih =>
      have hbracket : ('[' : Char).isAlpha = false := rfl
      rw [stripped, if_pos rfl, behindSequence, hbracket, if_neg nofun,
        behindSequence_append hparameters hlast, ih hfree]

-- =================================================================== codes

theorem isParameter_of_mem_toString {n : Nat} {c : Char} (h : c ∈ (toString n).toList) :
    isParameter c = true := by
  rw [Nat.toString_eq_ofList_toDigits, String.toList_ofList] at h
  rw [isParameter, Nat.isDigit_of_mem_toDigits (by decide) (by decide) h, Bool.true_or]

/-- The codes of an attribute are numbers ... -/
theorem isParameter_of_mem_attributeCodes :
    ∀ entry ∈ Attribute.codes, ∀ c ∈ entry.2.toList, isParameter c = true := by
  have hall : (Attribute.codes.all fun entry => entry.2.toList.all isParameter) = true := by decide
  exact fun entry hentry => List.all_eq_true.1 (List.all_eq_true.1 hall entry hentry)

/-- ... and so are those of a colour ... -/
theorem isParameter_of_mem_colourCodes {ground : Bool} {colour : Colour} :
    ∀ code ∈ colour.codes ground, ∀ c ∈ code.toList, isParameter c = true := by
  have hfront : ∀ c ∈ (if ground then "48" else "38").toList, isParameter c = true := by
    cases ground
    · exact List.all_eq_true.1 rfl
    · exact List.all_eq_true.1 rfl
  have hnumber : ∀ n : Nat, ∀ c ∈ (toString n).toList, isParameter c = true :=
    fun _ _ => isParameter_of_mem_toString
  cases colour with
  | standard =>
      cases ground
      · exact List.forall_mem_singleton.2 (List.all_eq_true.1 rfl)
      · exact List.forall_mem_singleton.2 (List.all_eq_true.1 rfl)
  | palette n =>
      rw [Colour.codes]
      split
      · exact List.forall_mem_singleton.2 (hnumber _)
      · split
        · exact List.forall_mem_singleton.2 (hnumber _)
        · simp only [List.forall_mem_cons]
          exact ⟨hfront, List.all_eq_true.1 rfl, hnumber n, List.forall_mem_nil _⟩
  | exact red green blue =>
      simp only [Colour.codes, List.forall_mem_cons]
      exact ⟨hfront, List.all_eq_true.1 rfl, hnumber red, hnumber green, hnumber blue,
        List.forall_mem_nil _⟩

/-- ... and thus all codes of a style. -/
theorem isParameter_of_mem_codes (style : Style) :
    ∀ code ∈ style.codes, ∀ c ∈ code.toList, isParameter c = true := by
  have hcolour : ∀ (ground : Bool) (colour? : Option Colour),
      ∀ code ∈ (colour?.map (Colour.codes ground)).getD [], ∀ c ∈ code.toList,
        isParameter c = true := by
    intro ground colour?
    cases colour? with
    | none => exact List.forall_mem_nil _
    | some colour => exact isParameter_of_mem_colourCodes
  unfold Style.codes
  simp only [List.forall_mem_append, List.forall_mem_map, List.mem_filter]
  exact ⟨⟨fun entry h => isParameter_of_mem_attributeCodes entry h.1, hcolour false _⟩,
    hcolour true _⟩

/-- The codes of a style with semicolons in between are parameters. -/
theorem isParameter_of_mem_intercalate {codes : List String}
    (h : ∀ code ∈ codes, ∀ c ∈ code.toList, isParameter c = true) :
    ∀ c ∈ (";".intercalate codes).toList, isParameter c = true := by
  induction codes with
  | nil =>
      rw [String.intercalate_nil]
      exact List.forall_mem_nil _
  | cons code rest ih =>
      rw [List.forall_mem_cons] at h
      cases rest with
      | nil =>
          rw [String.intercalate_singleton]
          exact h.1
      | cons next rest =>
          have hseparator : ∀ c ∈ (";" : String).toList, isParameter c = true :=
            List.all_eq_true.1 rfl
          rw [String.intercalate_cons_cons, String.toList_append, String.toList_append,
            List.forall_mem_append, List.forall_mem_append]
          exact ⟨⟨h.1, hseparator⟩, ih h.2⟩

-- ================================================================== writing

/-- The control sequence that selects a style, with a text behind it. -/
theorem Coded.selecting {cs text : List Char} (h : Coded cs text) (parameters : String)
    (hparameters : ∀ c ∈ parameters.toList, isParameter c = true) :
    Coded ((sequence (parameters ++ "m")).toList ++ cs) text := by
  have hsequence : (sequence (parameters ++ "m")).toList ++ cs
      = escapeChar :: '[' :: (parameters.toList ++ 'm' :: cs) := by
    rw [sequence, String.toList_append, String.toList_append, String.toList_ofList,
      List.append_assoc, List.append_assoc]
    rfl
  rw [hsequence]
  exact .code hparameters rfl h

/-- A piece of text in a style is the text between control sequences. -/
theorem coded_styledText (style : Style) (text : String) :
    Coded (styledText style text).toList text.toList := by
  unfold styledText
  split
  · exact coded_refl _
  · have hend : Coded (sequence ("0" ++ "m")).toList [] := by
      have hcode := Coded.nil.selecting "0" (List.all_eq_true.1 rfl)
      rwa [List.append_nil] at hcode
    have htext := (coded_refl text.toList).append hend
    rw [List.append_nil] at htext
    rw [String.toList_append, String.toList_append, List.append_assoc]
    exact htext.selecting _ (isParameter_of_mem_intercalate (isParameter_of_mem_codes style))

theorem coded_writeRun (cells : List Cell) :
    Coded (writeRun true cells).toList (Cell.chars cells) := by
  cases cells with
  | nil => exact .nil
  | cons cell rest =>
      have htext := coded_styledText cell.style (String.ofList (Cell.chars (cell :: rest)))
      rwa [String.toList_ofList] at htext

/-- The runs of a row hold its cells, one run after the other. -/
theorem flatten_runsOf (cells : List Cell) : (runsOf cells).flatten = cells :=
  List.flatten_splitBy _ cells

theorem flatMap_chars_runsOf (cells : List Cell) :
    (runsOf cells).flatMap Cell.chars = Cell.chars cells := by
  have hchars : ((runsOf cells).flatten).map Cell.char = (runsOf cells).flatMap Cell.chars := by
    rw [List.map_flatten, List.flatMap_def]
    rfl
  rw [← hchars, flatten_runsOf]
  rfl

theorem coded_join {α : Type} {f : α → String} {g : α → List Char} {row : List α}
    (h : ∀ x ∈ row, Coded (f x).toList (g x)) :
    Coded (String.join (row.map f)).toList (row.flatMap g) := by
  induction row with
  | nil => exact .nil
  | cons x rest ih =>
      rw [List.forall_mem_cons] at h
      rw [List.map_cons, String.join_cons, String.toList_append, List.flatMap_cons]
      exact h.1.append (ih h.2)

/-- A row of cells is written as its characters, with control sequences put
in. -/
theorem coded_writeCells (cells : List Cell) :
    Coded (writeCells true cells).toList (Cell.chars cells) := by
  rw [← flatMap_chars_runsOf]
  exact coded_join fun run _ => coded_writeRun run

/-- Runs that are written as their characters make a row that is. -/
theorem writeCells_eq {ansi : Bool} {cells : List Cell}
    (h : ∀ run ∈ runsOf cells, writeRun ansi run = String.ofList (Cell.chars run)) :
    writeCells ansi cells = String.ofList (Cell.chars cells) := by
  unfold writeCells
  rw [List.map_congr_left h, ← flatMap_chars_runsOf cells]
  induction runsOf cells with
  | nil => rfl
  | cons run rest ih =>
      rw [List.map_cons, String.join_cons, ih, List.flatMap_cons, String.ofList_append]

/-- An output that understands no codes gets the characters of a row
alone ... -/
theorem writeCells_false (cells : List Cell) :
    writeCells false cells = String.ofList (Cell.chars cells) :=
  writeCells_eq fun run _ => by cases run <;> rfl

/-- ... and so does every output if the row has no style. -/
theorem writeCells_of_plain {cells : List Cell} (h : ∀ cell ∈ cells, cell.style = Style.plain)
    (ansi : Bool) : writeCells ansi cells = String.ofList (Cell.chars cells) := by
  refine writeCells_eq fun run hrun => ?_
  cases run with
  | nil => rfl
  | cons cell rest =>
      have hcell : cell ∈ cells :=
        flatten_runsOf cells ▸ List.mem_flatten_of_mem hrun List.mem_cons_self
      unfold writeRun styledText
      dsimp only
      rw [if_pos (h cell hcell), ite_self]

end CommandConsole.Display.Terminal
