/-
Layout without styles.

The layout of a text looks at its characters alone. Two rows of cells that have
the same characters, whatever their styles and runs are (`Cell.Like`), are laid
out in rows that have the same characters again: cut into lines, with spaces
for tabs, broken and clipped (`forall₂_wrap`), or in the border of a panel
(`forall₂_headerCells`). No style comes up in a layout that its row has not.

Two styled texts with the same text (`Restyled`) are therefore written alike:
the one on any output, the other one on an output that understands no codes
(`exists_written`, `exists_panel`). What is written differs in control
sequences at most (`Shows`), and in nothing if there are no styles.
-/
import CommandConsole.Proofs.Display.Sequence
import CommandConsole.Proofs.Relations

namespace CommandConsole.Display

namespace Cell

-- =================================================================== cells

/-- Two cells have the same character, and the first one has a style of a
kind. -/
structure Like (P : Style → Prop) (a b : Cell) : Prop where
  char : a.char = b.char
  style : P a.style

variable {P : Style → Prop} {x y : List Cell}

theorem forall₂_like (hchars : chars x = chars y) (hstyle : ∀ a ∈ x, P a.style) :
    List.Forall₂ (Like P) x y := by
  induction x generalizing y with
  | nil =>
      cases y with
      | nil => exact .nil
      | cons b y => cases hchars
  | cons a x ih =>
      cases y with
      | nil => cases hchars
      | cons b y =>
          obtain ⟨hchar, hrest⟩ := List.cons.inj hchars
          rw [List.forall_mem_cons] at hstyle
          exact .cons ⟨hchar, hstyle.1⟩ (ih hrest hstyle.2)

theorem chars_eq (h : List.Forall₂ (Like P) x y) : chars x = chars y := by
  induction h with
  | nil => rfl
  | cons hab _ ih => exact congrArg₂ List.cons hab.char ih

theorem style_of_mem (h : List.Forall₂ (Like P) x y) : ∀ a ∈ x, P a.style := by
  induction h with
  | nil => exact List.forall_mem_nil _
  | cons hab _ ih => exact List.forall_mem_cons.2 ⟨hab.style, ih⟩

theorem width_eq (h : List.Forall₂ (Like P) x y) : width x = width y :=
  congrArg Text.width (chars_eq h)

-- ================================================================== layout

/-- A cell that is repeated. -/
theorem forall₂_replicate {a b : Cell} (h : Like P a b) (n : Nat) :
    List.Forall₂ (Like P) (List.replicate n a) (List.replicate n b) := by
  induction n with
  | zero => exact .nil
  | succ n ih => exact .cons h ih

theorem forall₂_expandTabs (h : List.Forall₂ (Like P) x y) :
    ∀ column cuts cuts', List.Forall₂ (Like P) (expandTabs column cuts x)
      (expandTabs column cuts' y) := by
  induction h with
  | nil => exact fun _ _ _ => .nil
  | cons hab _ ih =>
      intro column cuts cuts'
      rw [expandTabs, expandTabs, hab.char]
      split
      · refine List.rel_append (forall₂_replicate ?_ _) (ih _ _ _)
        exact ⟨rfl, hab.style⟩
      · exact .cons ⟨rfl, hab.style⟩ (ih _ _ _)

/-- A cell in front of the first of some lines. -/
theorem forall₂_modifyHead {a b : Cell} (hab : Like P a b) {ls ls' : List (List Cell)}
    (h : List.Forall₂ (List.Forall₂ (Like P)) ls ls') :
    List.Forall₂ (List.Forall₂ (Like P)) (ls.modifyHead (a :: ·)) (ls'.modifyHead (b :: ·)) := by
  cases h with
  | nil => exact .nil
  | cons hline hrest => exact .cons (.cons hab hline) hrest

theorem forall₂_lines (h : List.Forall₂ (Like P) x y) :
    List.Forall₂ (List.Forall₂ (Like P)) (lines x) (lines y) := by
  unfold lines
  induction h with
  | nil => exact .cons .nil .nil
  | cons hab _ ih =>
      rw [List.splitOnP_cons_eq_if_modifyHead, List.splitOnP_cons_eq_if_modifyHead, hab.char]
      split
      · exact .cons .nil ih
      · exact forall₂_modifyHead hab ih

theorem forall₂_cutAt (h : List.Forall₂ (Like P) x y) (positions : List Nat) :
    ∀ start, List.Forall₂ (List.Forall₂ (Like P)) (cutAt start positions x)
      (cutAt start positions y) := by
  induction positions generalizing x y with
  | nil => exact fun _ => .cons h .nil
  | cons position rest ih =>
      exact fun start => .cons (List.forall₂_take _ h) (ih (List.forall₂_drop _ h) position)

theorem rel_getLast? (h : List.Forall₂ (Like P) x y) :
    Option.Rel (Like P) x.getLast? y.getLast? := by
  have hreverse := List.rel_reverse h
  rw [List.getLast?_eq_head?_reverse, List.getLast?_eq_head?_reverse]
  generalize x.reverse = u at hreverse
  generalize y.reverse = v at hreverse
  cases hreverse with
  | nil => exact .none
  | cons hab _ => exact .some hab

theorem forall₂_halve (h : List.Forall₂ (Like P) x y) (limit fuel : Nat) :
    ∀ low high, List.Forall₂ (Like P) (halve limit x fuel low high)
      (halve limit y fuel low high) := by
  induction fuel with
  | zero => exact fun _ _ => h
  | succ fuel ih =>
      intro low high
      have hpart := List.forall₂_take ((low + high) / 2 + 1) h
      have hlast := rel_getLast? hpart
      rw [halve, halve, width_eq hpart]
      generalize (x.take ((low + high) / 2 + 1)).getLast? = last? at hlast
      generalize (y.take ((low + high) / 2 + 1)).getLast? = last?' at hlast
      cases hlast with
      | none => exact hpart
      | some hlast =>
          dsimp only
          rw [hlast.char]
          split
          · rw [List.dropLast_eq_take, List.dropLast_eq_take, hpart.length_eq]
            refine List.rel_append (List.forall₂_take _ hpart) (.cons ?_ .nil)
            exact ⟨rfl, hlast.style⟩
          · split
            · exact hpart
            · split
              · exact ih _ _
              · exact ih _ _

theorem forall₂_fitting (h : List.Forall₂ (Like P) x y) (limit : Nat) :
    List.Forall₂ (Like P) (fitting limit x) (fitting limit y) := by
  unfold fitting
  rw [width_eq h, h.length_eq]
  split
  · exact .nil
  · split
    · exact h
    · exact forall₂_halve h limit _ _ _

/-- The blanks at the end of a row are as many as at the end of a row with the
same characters. -/
theorem length_takeWhile_blank (h : List.Forall₂ (Like P) x y) :
    (x.takeWhile fun cell => Text.isBlank cell.char).length
      = (y.takeWhile fun cell => Text.isBlank cell.char).length := by
  have hchars : ∀ cells : List Cell, (cells.takeWhile fun cell => Text.isBlank cell.char).length
      = ((chars cells).takeWhile Text.isBlank).length := by
    intro cells
    rw [chars, List.takeWhile_map, List.length_map]
    rfl
  rw [hchars, hchars, chars_eq h]

theorem forall₂_clip (h : List.Forall₂ (Like P) x y) (limit : Nat) :
    List.Forall₂ (Like P) (clip limit x) (clip limit y) := by
  unfold clip trimEnd
  dsimp only
  rw [h.length_eq, length_takeWhile_blank (List.rel_reverse h)]
  exact forall₂_fitting (List.forall₂_take _ h) limit

theorem forall₂_wrapLine (h : List.Forall₂ (Like P) x y) (limit : Nat) :
    List.Forall₂ (List.Forall₂ (Like P)) (wrapLine limit x) (wrapLine limit y) := by
  have hexpanded := forall₂_expandTabs h 0 0 0
  unfold wrapLine
  dsimp only
  rw [chars_eq hexpanded]
  refine List.rel_map (fun _ _ hline => ?_) (forall₂_cutAt hexpanded _ 0)
  exact forall₂_clip hline limit

/-- The lines that a row takes have the same characters as those of a row with
the same characters. -/
theorem forall₂_wrap (h : List.Forall₂ (Like P) x y) (limit : Nat) :
    List.Forall₂ (List.Forall₂ (Like P)) (wrap limit x) (wrap limit y) :=
  List.rel_flatMap (forall₂_lines h) fun _ _ hline => forall₂_wrapLine hline limit

/-- Cells that are changed in the same way. -/
theorem forall₂_map {x y : List Cell} {f g : Cell → Cell} (h : List.Forall₂ (Like P) x y)
    (hfg : ∀ {a b : Cell}, Like P a b → Like P (f a) (g b)) :
    List.Forall₂ (Like P) (x.map f) (y.map g) :=
  List.rel_map (fun _ _ hab => hfg hab) h

/-- The header of a panel has the same characters as one with the same
characters. -/
theorem forall₂_headerCells (h : List.Forall₂ (Like P) x y) (hplain : P .plain) (limit : Nat) :
    List.Forall₂ (Like P) (Terminal.headerCells limit x) (Terminal.headerCells limit y) := by
  have hflat : ∀ {a b : Cell}, Like P a b →
      Like P (if a.char = '\n' then { a with char := ' ' } else a)
        (if b.char = '\n' then { b with char := ' ' } else b) := by
    intro a b hab
    rw [hab.char]
    split
    · exact ⟨rfl, hab.style⟩
    · exact hab
  have hrow := forall₂_expandTabs (forall₂_map h hflat) 0 0 0
  have hnumbered := forall₂_map (f := fun cell => { cell with run := cell.run + 1 })
    (g := fun cell => { cell with run := cell.run + 1 }) hrow fun hab => ⟨hab.char, hab.style⟩
  unfold Terminal.headerCells
  refine forall₂_fitting (List.rel_append (.cons ⟨rfl, hplain⟩ hnumbered) (.cons ?_ .nil)) limit
  exact ⟨rfl, hplain⟩

end Cell

namespace Terminal

open Cell

-- ================================================================= showing

/-- What is written shows a text: control sequences may be put into it if
there are `codes`, and it is the text otherwise. -/
def Shows (codes : Bool) (written text : String) : Prop :=
  if codes then Coded written.toList text.toList else written = text

variable {codes : Bool}

theorem shows_refl (text : String) : Shows codes text text := by
  cases codes
  · rfl
  · exact coded_refl _

theorem Shows.append {a a' b b' : String} (h : Shows codes a b) (h' : Shows codes a' b') :
    Shows codes (a ++ a') (b ++ b') := by
  cases codes with
  | false => exact congrArg₂ (· ++ ·) h h'
  | true =>
      show Coded _ _
      rw [String.toList_append, String.toList_append]
      exact Coded.append h h'

theorem shows_join {row row' : List String} (h : List.Forall₂ (Shows codes) row row') :
    Shows codes (String.join row) (String.join row') := by
  induction h with
  | nil => exact shows_refl _
  | cons htext _ ih =>
      rw [String.join_cons, String.join_cons]
      exact htext.append ih

/-- A style that comes up in a text: the one that changes nothing, unless the
text has `colours`. -/
def Usable (colours : Bool) (style : Style) : Prop := colours = false → style = .plain

variable {colours : Bool} {x y : List Cell}

theorem shows_writeCells (h : List.Forall₂ (Like (Usable colours)) x y) (ansi : Bool) :
    Shows (colours && ansi) (writeCells ansi x) (writeCells false y) := by
  rw [writeCells_false, ← chars_eq h]
  cases colours with
  | false => exact writeCells_of_plain (fun a ha => style_of_mem h a ha rfl) ansi
  | true =>
      cases ansi with
      | false => exact writeCells_false x
      | true =>
          show Coded _ _
          rw [String.toList_ofList]
          exact coded_writeCells x

/-- The output of the same width that understands no codes. -/
def plain (t : Terminal) : Terminal := { t with ansi := false }

theorem width_plain (t : Terminal) : t.plain.width = t.width := rfl

-- ============================================================= styled texts

/-- What names a style can be read, and it names the style that changes nothing
unless there are `colours`. -/
def Reads (colours : Bool) (x : Object) : Prop :=
  ∃ style, Style.ofObject x = .ok style ∧ Usable colours style

/-- No style at all can be read anywhere. -/
theorem reads_none : Reads colours (.text "") := by
  have hplain : Style.ofObject (.text "") = .ok .plain := by
    have hname : Style.ofName "" = .ok .plain := rfl
    unfold Style.ofObject
    dsimp only
    rw [hname]
  exact ⟨.plain, hplain, fun _ => rfl⟩

theorem Reads.weaken {x : Object} (h : Reads colours x) : Reads true x :=
  h.imp fun _ hstyle => ⟨hstyle.1, nofun⟩

/-- A text can be read in the place of a style, known or not, unless it names a
colour with a part that is no number. -/
theorem reads_text_iff {name : String} :
    Reads true (.text name) ↔ ∀ p, Style.ofName name ≠ .error (.number p) := by
  have husable (style : Style) : Usable true style := Bool.noConfusion
  unfold Reads Style.ofObject
  dsimp only
  cases Style.ofName name with
  | ok style =>
      refine ⟨fun _ p hname => ?_, fun _ => ⟨style, rfl, husable style⟩⟩
      cases hname
  | error refusal =>
      cases refusal with
      | unknown =>
          refine ⟨fun _ p hname => ?_, fun _ => ⟨.plain, rfl, husable .plain⟩⟩
          cases hname
      | number p =>
          constructor
          · rintro ⟨style, hstyle, -⟩
            cases hstyle
          · exact fun h => absurd rfl (h p)

theorem reads_of_isOk {name : String} (h : (Style.ofName name).isOk = true) :
    Reads true (.text name) := by
  refine reads_text_iff.2 fun p hname => ?_
  rw [hname] at h
  cases h

/-- Two styled texts have the same text and styles that can be read, and the
first one has none unless it has `colours`. -/
structure Restyled (colours : Bool) (s s' : Styled) : Prop where
  text : s.plain = s'.plain
  style : ∀ r ∈ s, Reads colours r.style
  style' : ∀ r ∈ s', Reads true r.style

theorem plain_cons (r : Run) (rest : Styled) :
    Styled.plain (r :: rest) = Styled.visible r.text ++ Styled.plain rest :=
  String.join_cons

theorem plain_append (s u : Styled) : Styled.plain (s ++ u) = s.plain ++ u.plain := by
  induction s with
  | nil => exact String.empty_append.symm
  | cons r rest ih => rw [List.cons_append, plain_cons, plain_cons, ih, String.append_assoc]

theorem Restyled.append {s s' u u' : Styled} (h : Restyled colours s s')
    (h' : Restyled colours u u') : Restyled colours (s ++ u) (s' ++ u') where
  text := by rw [plain_append, plain_append, h.text, h'.text]
  style := List.forall_mem_append.2 ⟨h.style, h'.style⟩
  style' := List.forall_mem_append.2 ⟨h.style', h'.style'⟩

/-- The same run of text in two styles. -/
theorem restyled_run {style style' : Object} (h : Reads colours style) (h' : Reads true style')
    (text : String) : Restyled colours [⟨text, style⟩] [⟨text, style'⟩] :=
  ⟨rfl, List.forall_mem_singleton.2 h, List.forall_mem_singleton.2 h'⟩

theorem restyled_bare (text : String) : Restyled colours (.bare text) (.bare text) :=
  restyled_run reads_none reads_none text

theorem restyled_nil : Restyled colours [] [] :=
  ⟨rfl, List.forall_mem_nil _, List.forall_mem_nil _⟩

theorem restyled_part {style style' : Object} (h : Reads colours style) (h' : Reads true style')
    (text : String) : Restyled colours (.part text style) (.part text style') := by
  unfold Styled.part
  split
  · exact restyled_nil
  · exact restyled_run h h' text

theorem restyled_shownPart {style style' : Object} (h : Reads colours style)
    (h' : Reads true style') (text : String) :
    Restyled colours (.shownPart text style) (.shownPart text style') := by
  unfold Styled.shownPart
  split
  · exact restyled_nil
  · exact restyled_run h h' text

/-- The cells of a text whose styles can be read. -/
theorem exists_ofRuns {P : Style → Prop} {s : Styled}
    (h : ∀ r ∈ s, ∃ style, Style.ofObject r.style = .ok style ∧ P style) :
    ∀ number, ∃ cells, ofRuns number s = .ok cells ∧ chars cells = s.plain.toList
      ∧ ∀ cell ∈ cells, P cell.style := by
  induction s with
  | nil => exact fun _ => ⟨[], rfl, rfl, List.forall_mem_nil _⟩
  | cons r rest ih =>
      intro number
      obtain ⟨⟨style, hstyle, hP⟩, hrest⟩ := List.forall_mem_cons.1 h
      obtain ⟨cells, hcells, hchars, hstyles⟩ := ih hrest (number + 1)
      refine ⟨(Styled.visible r.text).toList.map (fun c => ⟨c, style, number⟩) ++ cells,
        ?_, ?_, ?_⟩
      · rw [ofRuns, hstyle, hcells]
        rfl
      · rw [plain_cons, String.toList_append, ← hchars, chars, chars, List.map_append, List.map_map]
        exact congrArg (· ++ _) (List.map_id _)
      · rw [List.forall_mem_append, List.forall_mem_map]
        exact ⟨fun _ _ => hP, hstyles⟩

/-- The cells of two texts that are restyled are alike. -/
theorem Restyled.exists_ofStyled {s s' : Styled} (h : Restyled colours s s') :
    ∃ x y, ofStyled s = .ok x ∧ ofStyled s' = .ok y
      ∧ List.Forall₂ (Like (Usable colours)) x y := by
  obtain ⟨x, hx, hchars, hstyles⟩ := exists_ofRuns h.style 0
  obtain ⟨y, hy, hchars', -⟩ := exists_ofRuns h.style' 0
  exact ⟨x, y, hx, hy, forall₂_like (by rw [hchars, hchars', h.text]) hstyles⟩

/-- A text is written on any output as it is with other styles on an output
that understands no codes, but for control sequences if it has colours. -/
theorem Restyled.exists_written {s s' : Styled} (h : Restyled colours s s') (t : Terminal) :
    ∃ a b, t.written s = .ok a ∧ t.plain.written s' = .ok b ∧ Shows (colours && t.ansi) a b := by
  unfold written
  rw [width_plain]
  by_cases hwidth : t.width = 0
  · rw [if_pos hwidth, if_pos hwidth]
    exact ⟨"", "", rfl, rfl, shows_refl _⟩
  · obtain ⟨x, y, hx, hy, hlike⟩ := h.exists_ofStyled
    rw [if_neg hwidth, if_neg hwidth, hx, hy]
    refine ⟨_, _, rfl, rfl, shows_join (List.rel_map (fun _ _ hline => ?_)
      (forall₂_wrap hlike t.width))⟩
    exact (shows_writeCells hline t.ansi).append (shows_refl "\n")

/-- The styles of a text that has cells can be read. -/
theorem reads_of_ofRuns {s : Styled} : ∀ {number : Nat} {cells : List Cell},
    ofRuns number s = .ok cells → ∀ r ∈ s, Reads true r.style := by
  induction s with
  | nil => exact fun _ => List.forall_mem_nil _
  | cons r rest ih =>
      intro number cells h
      rw [ofRuns] at h
      cases hstyle : Style.ofObject r.style with
      | error p =>
          rw [hstyle] at h
          cases h
      | ok style =>
          cases hrest : ofRuns (number + 1) rest with
          | error p =>
              rw [hstyle, hrest] at h
              cases h
          | ok others => exact List.forall_mem_cons.2 ⟨⟨style, hstyle, nofun⟩, ih hrest⟩

/-- A text is written on any output as it is on one that understands no codes,
but for control sequences, or on neither since a style of it cannot be
read. -/
theorem rel_written (s : Styled) (t : Terminal) :
    Except.Rel (· = ·) (Shows t.ansi) (t.written s) (t.plain.written s) := by
  cases hcells : ofStyled s with
  | ok cells =>
      have hreads : ∀ r ∈ s, Reads true r.style := reads_of_ofRuns hcells
      have hsame : Restyled true s s := ⟨rfl, hreads, hreads⟩
      obtain ⟨a, b, ha, hb, hshows⟩ := hsame.exists_written t
      rw [ha, hb]
      exact .ok hshows
  | error p =>
      unfold written
      rw [width_plain, hcells]
      split
      · exact .ok (shows_refl _)
      · exact .error rfl

-- ================================================================== panels

theorem shows_panelLine (h : List.Forall₂ (Like (Usable colours)) x y) (t : Terminal) :
    Shows (colours && t.ansi) (t.panelLine x) (t.plain.panelLine y) := by
  unfold panelLine
  rw [width_eq h]
  exact (((shows_refl _).append (shows_writeCells h t.ansi)).append (shows_refl _)).append
    (shows_refl _)

theorem shows_headerText (h : List.Forall₂ (Like (Usable colours)) x y) (t : Terminal)
    (limit : Nat) :
    Shows (colours && t.ansi) (t.headerText limit x) (t.plain.headerText limit y) := by
  have hhead := forall₂_headerCells h (fun _ => rfl) limit
  unfold headerText
  dsimp only
  rw [width_eq hhead]
  split
  · exact (shows_writeCells hhead t.ansi).append (shows_refl _)
  · exact shows_writeCells (forall₂_clip hhead limit) t.ansi

/-- What is made of the texts of two rows, one by one. -/
theorem exists_mapM {α : Type} {f g : Styled → Except Problem α} {R : α → α → Prop}
    (hfg : ∀ {s s'}, Restyled colours s s' → ∃ x y, f s = .ok x ∧ g s' = .ok y ∧ R x y)
    {row row' : List Styled} (h : List.Forall₂ (Restyled colours) row row') :
    ∃ xs ys, row.mapM f = .ok xs ∧ row'.mapM g = .ok ys ∧ List.Forall₂ R xs ys := by
  induction h with
  | nil => exact ⟨[], [], rfl, rfl, .nil⟩
  | cons hs _ ih =>
      obtain ⟨x, y, hx, hy, hxy⟩ := hfg hs
      obtain ⟨xs, ys, hxs, hys, hrest⟩ := ih
      refine ⟨x :: xs, y :: ys, ?_, ?_, .cons hxy hrest⟩
      · rw [List.mapM_cons, hx, hxs]
        rfl
      · rw [List.mapM_cons, hy, hys]
        rfl

/-- Texts are written one after the other on any output as they are with other
styles on an output that understands no codes. -/
theorem exists_mapM_written {row row' : List Styled} (h : List.Forall₂ (Restyled colours) row row')
    (t : Terminal) :
    ∃ a b, (do return String.join (← row.mapM t.written)) = Except.ok a
      ∧ (do return String.join (← row'.mapM t.plain.written)) = Except.ok b
      ∧ Shows (colours && t.ansi) a b := by
  obtain ⟨as, bs, has, hbs, hshows⟩ := exists_mapM (fun hs => hs.exists_written t) h
  rw [has, hbs]
  exact ⟨_, _, rfl, rfl, shows_join hshows⟩

/-- A panel is written on any output as it is with other styles on an output
that understands no codes, but for control sequences if it has colours. -/
theorem exists_panel {header header' : Styled} {body body' : List Styled}
    (hheader : Restyled colours header header') (hbody : List.Forall₂ (Restyled colours) body body')
    (t : Terminal) :
    ∃ a b, t.panel header body = .ok a ∧ t.plain.panel header' body' = .ok b
      ∧ Shows (colours && t.ansi) a b := by
  unfold panel
  rw [width_plain]
  by_cases hnone : t.width = 0
  · rw [if_pos hnone, if_pos hnone]
    exact ⟨"", "", rfl, rfl, shows_refl _⟩
  · by_cases hnarrow : t.width ≤ 4
    · rw [if_neg hnone, if_neg hnone, if_pos hnarrow, if_pos hnarrow]
      exact ⟨_, _, rfl, rfl, shows_refl _⟩
    · obtain ⟨xs, ys, hxs, hys, hrows⟩ := exists_mapM (fun hs => hs.exists_ofStyled) hbody
      obtain ⟨x, y, hx, hy, hlike⟩ := hheader.exists_ofStyled
      rw [if_neg hnone, if_neg hnone, if_neg hnarrow, if_neg hnarrow, hxs, hys, hx, hy]
      refine ⟨_, _, rfl, rfl, ?_⟩
      have hhead := shows_headerText hlike t (t.width - 4)
      refine ((((shows_refl _).append hhead).append (shows_refl _)).append
        (shows_join (List.rel_flatMap hrows fun _ _ hrow => ?_))).append (shows_refl _)
      refine List.rel_map (fun _ _ hline => ?_) (forall₂_wrap hrow (t.width - 4))
      exact shows_panelLine hline t

end Terminal

end CommandConsole.Display
