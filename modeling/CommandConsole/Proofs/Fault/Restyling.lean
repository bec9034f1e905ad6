/-
How a fault is shown in other styles.

What a fault shows of itself does not depend on its colours, and hosts that
differ in their styles alone have the same texts for it. So two faults that are
the same without regard to colours have headers and bodies that differ in their
styles alone (`rel_header`, `forall₂_body`), and are shown as the same text,
the second one on an output that understands no codes (`rel_shown`).
-/
import CommandConsole.Proofs.Display.Layout
import CommandConsole.Proofs.Fault.Dull
import CommandConsole.Proofs.Fault.Layout
import CommandConsole.Proofs.Relations

namespace CommandConsole

open Display Display.Terminal

-- ================================================================== styles

/-- The styles of a host can be read, whether or not they are known
(`reads_text_iff`). -/
def Host.Legible (h : Host) : Prop := ∀ entry ∈ h.styles, Reads true entry.2

theorem Host.Legible.reads_style {h : Host} (hh : h.Legible) {own : List (String × String)}
    (hown : ∀ entry ∈ own, (Style.ofName entry.2).isOk = true) (part : String) :
    Reads true (h.style own part) := by
  unfold Host.style
  cases hhost : h.styles.lookup part with
  | some x =>
      obtain ⟨before, after, hsplit, -⟩ := List.lookup_eq_some_iff.1 hhost
      exact hh (part, x) (hsplit ▸ List.mem_append_right _ List.mem_cons_self)
  | none =>
      dsimp only
      cases hstyle : own.lookup part with
      | none => exact reads_none
      | some name =>
          obtain ⟨before, after, hsplit, -⟩ := List.lookup_eq_some_iff.1 hstyle
          exact reads_of_isOk
            (hown (part, name) (hsplit ▸ List.mem_append_right _ List.mem_cons_self))

namespace Fault

variable {colours : Bool} {h h' : Host} {f g : Fault}

/-- A part of a fault has a style that can be read, and none if the fault has no
colours. -/
theorem reads_partStyle (hcolours : colours = true → h.Legible)
    (hplain : colours = false → f.holds "colorful" true = false) (part : String) :
    Reads colours (partStyle h f part) := by
  unfold partStyle
  cases colours with
  | false =>
      rw [hplain rfl]
      exact reads_none
  | true =>
      split
      · refine (hcolours rfl).reads_style (fun entry hentry => readable_ownStyles entry ?_) part
        split at hentry
        · exact List.mem_append_right _ hentry
        · exact List.mem_append_left _ hentry
      · exact reads_none

-- =================================================================== texts

/-- What a fault shows of an option is the same. -/
theorem rel_option? (hfg : f.dull colours = g.dull colours) (name : String)
    (hname : name ≠ "colorful") :
    Option.Rel (fun d e => d.dull colours = e.dull colours) (f.option? name) (g.option? name) := by
  have hheld : (f.option? name).map (Detail.dull colours)
      = (g.option? name).map (Detail.dull colours) := by
    rw [← option?_dull colours hname, hfg, option?_dull colours hname]
  cases hf : f.option? name with
  | none =>
      rw [hf, Option.map_none] at hheld
      rw [Option.map_eq_none_iff.1 hheld.symm]
      exact .none
  | some d =>
      rw [hf, Option.map_some] at hheld
      obtain ⟨e, he, hde⟩ := Option.map_eq_some_iff.1 hheld.symm
      rw [he]
      exact .some hde.symm

/-- A line for what an option holds, if that counts as true. -/
theorem forall₂_line {line line' : String → Styled}
    (hline : ∀ text, Restyled colours (line text) (line' text)) {d? e? : Option (Detail Raised)} :
    Option.Rel (fun d e => d.dull colours = e.dull colours) d? e? →
    List.Forall₂ (Restyled colours)
      (match d? with
        | some d => if d.truthy then [line (detailText d)] else []
        | none => [])
      (match e? with
        | some e => if e.truthy then [line' (detailText e)] else []
        | none => []) := by
  intro h
  cases h with
  | none => exact .nil
  | @some d e hde =>
      have htruthy : d.truthy = e.truthy := by
        rw [← d.truthy_dull colours, hde, Detail.truthy_dull]
      have htext : detailText d = detailText e := by
        rw [← d.detailText_dull colours, hde, Detail.detailText_dull]
      dsimp only
      rw [htruthy, htext]
      split
      · exact .cons (hline _) .nil
      · exact .nil

theorem programText_dull (colours : Bool) (h : Host) (f : Fault) :
    programText h (f.dull colours) = programText h f := by
  unfold programText
  rw [option?_dull colours (by decide)]
  cases f.option? "prog" with
  | none => rfl
  | some d =>
      cases h.program? with
      | none => exact d.detailText_dull colours
      | some x => rfl

theorem codeText_dull (colours : Bool) (h : Host) (f : Fault) :
    codeText h (f.dull colours) = codeText h f := by
  unfold codeText
  rw [option?_dull colours (by decide)]
  cases f.option? "code" with
  | none => rfl
  | some d =>
      cases d with
      | _ => rfl

theorem titleText_dull (colours : Bool) (f : Fault) : titleText (f.dull colours) = titleText f := by
  unfold titleText
  rw [option?_dull colours (by decide)]
  cases f.option? "title" with
  | none => rfl
  | some d =>
      cases d with
      | _ => rfl

-- =================================================================== parts

section

variable (hfg : f.dull colours = g.dull colours) (hhost : h' = { h with styles := h'.styles })
  (hstyle : ∀ part, Reads colours (partStyle h f part))
  (hstyle' : ∀ part, Reads true (partStyle h' g part))

include hfg hhost hstyle hstyle'

theorem rel_header :
    Except.Rel (· = ·) (Restyled colours) (header h f) (header h' g) := by
  have hprogram : programText h' g = programText h f := by
    rw [hhost, ← programText_dull colours h f, hfg]
    exact (programText_dull colours h g).symm
  have hcode : codeText h' g = codeText h f := by
    rw [hhost, ← codeText_dull colours h f, hfg]
    exact (codeText_dull colours h g).symm
  have htitle : titleText g = titleText f := by
    rw [← titleText_dull colours f, hfg, titleText_dull]
  have hinner : ∀ name text,
      Restyled colours (innerPart h f name text) (innerPart h' g name text) :=
    fun name text => restyled_shownPart (hstyle name) (hstyle' name) text
  unfold header
  rw [hprogram, hcode, htitle]
  cases codeText h f with
  | error p => exact .error rfl
  | ok code =>
      cases titleText f with
      | error p => exact .error rfl
      | ok title =>
          have hfront := (restyled_bare "[ ").append (hinner "prog-name" (programText h f))
          have hmiddle := (hfront.append (restyled_bare " — ")).append (hinner "code" code)
          have hback := (hmiddle.append (restyled_bare " | ")).append (hinner "title" title)
          exact .ok (hback.append (restyled_bare " ]"))

omit hhost in
theorem forall₂_body : List.Forall₂ (Restyled colours) (body h f) (body h' g) := by
  have hpart : ∀ name text, Restyled colours (part h f name text) (part h' g name text) :=
    fun name text => restyled_part (hstyle name) (hstyle' name) text
  have hinner : ∀ name text,
      Restyled colours (innerPart h f name text) (innerPart h' g name text) :=
    fun name text => restyled_shownPart (hstyle name) (hstyle' name) text
  have hhint := rel_option? hfg "hint" (by decide)
  have hdocs := rel_option? hfg "docs" (by decide)
  unfold body
  rw [message_eq hfg]
  exact .cons (hpart _ _) (List.rel_append
    (forall₂_line (fun text => (hinner "hint-arrow" " → ").append (hinner "hint" text)) hhint)
    (forall₂_line (hpart "docs") hdocs))

/-- A fault is shown on any output as it is without regard to colours on an
output that understands no codes, but for control sequences if it has
colours. -/
theorem rel_shown (t : Terminal) :
    Except.Rel (· = ·) (Shows (colours && t.ansi)) (shown h t f) (shown h' t.plain g) := by
  have hbody : List.Forall₂ (Restyled colours) (body h f) (body h' g) :=
    forall₂_body hfg hstyle hstyle'
  have hheader := rel_header hfg hhost hstyle hstyle'
  unfold shown
  rw [holds_eq hfg (by decide)]
  generalize header h f = head? at hheader
  generalize header h' g = head?' at hheader
  cases hheader with
  | error hp => exact .error hp
  | ok hhead =>
      show Except.Rel _ _ (if _ then _ else _) (if _ then _ else _)
      split
      · obtain ⟨a, b, ha, hb, hshows⟩ := exists_panel hhead hbody t
        rw [ha, hb]
        exact .ok hshows
      · obtain ⟨a, b, ha, hb, hshows⟩ := exists_mapM_written (.cons hhead hbody) t
        rw [ha, hb]
        exact .ok hshows

end

end Fault

end CommandConsole
