/-
What logging a collection writes.

The lines of the items are made first, and only then is anything written. If
the line of an item cannot be made, what that raises is raised, and the
session is left as it was. Otherwise the lines go to the output at once, and
what is written is what logging them one by one writes
(`logCollection_lines`).

The reason for this is the layout. A text is cut at its line feeds before
anything else is done to it, and every line of it is broken by itself. So a
line feed ends whatever was laid out before it (`wrap_append_feed`), and
writing some lines joined by line feeds is writing one line after the other
(`writtenText_intercalate`), also if the lines are empty, hold line feeds or
are wider than the output.
-/
import CommandConsole.Proofs.Session.Colours

namespace CommandConsole

namespace Display

-- ================================================================== layout

namespace Cell

/-- A line feed ends the lines before it. -/
theorem wrap_append_feed (limit : Nat) (before : List Cell) {feed : Cell} (after : List Cell)
    (hfeed : feed.char = '\n') :
    wrap limit (before ++ feed :: after) = wrap limit before ++ wrap limit after := by
  have hlines : lines (before ++ feed :: after) = lines before ++ lines after :=
    List.splitOnP_append_cons before after (beq_iff_eq.2 hfeed)
  unfold wrap
  rw [hlines, List.flatMap_append]

end Cell

-- ================================================================= writing

namespace Terminal

/-- The cells of a text in one style. -/
def cellsOf (style : Style) (text : String) : List Cell :=
  (Styled.visible text).toList.map fun c => ⟨c, style, 0⟩

/-- A text in one style as it is written. -/
def writtenText (t : Terminal) (style : Style) (text : String) : String :=
  if t.width = 0 then ""
  else String.join ((Cell.wrap t.width (cellsOf style text)).map fun line =>
    writeCells t.ansi line ++ "\n")

/-- A text whose style can be read is written. -/
theorem written_run (t : Terminal) {r : Run} {style : Style}
    (h : Style.ofObject r.style = .ok style) :
    t.written [r] = .ok (t.writtenText style r.text) := by
  have hcells : Cell.ofStyled [r] = .ok (cellsOf style r.text ++ []) := by
    unfold Cell.ofStyled Cell.ofRuns
    rw [h]
    rfl
  unfold written writtenText
  rw [hcells, List.append_nil]
  split
  · rfl
  · rfl

/-- A line feed in a text ends what is written of the text before it. -/
theorem writtenText_append_feed (t : Terminal) (style : Style) (a b : String) :
    t.writtenText style (a ++ "\n" ++ b) = t.writtenText style a ++ t.writtenText style b := by
  have hcells : cellsOf style (a ++ "\n" ++ b)
      = cellsOf style a ++ ⟨'\n', style, 0⟩ :: cellsOf style b := by
    unfold cellsOf Styled.visible
    simp only [String.toList_ofList, String.toList_append, List.filter_append, List.map_append,
      List.append_assoc]
    rfl
  unfold writtenText
  split
  · rfl
  · rw [hcells, Cell.wrap_append_feed t.width _ _ rfl, List.map_append, String.join_append]

/-- Lines that are joined by line feeds are written one after the other. -/
theorem writtenText_intercalate (t : Terminal) (style : Style) {lines : List String}
    (h : lines ≠ []) :
    t.writtenText style ("\n".intercalate lines)
      = String.join (lines.map (t.writtenText style)) := by
  induction lines with
  | nil => exact absurd rfl h
  | cons line rest ih =>
      cases rest with
      | nil =>
          rw [String.intercalate_singleton, List.map_singleton, String.join_cons]
          exact String.append_empty.symm
      | cons next rest =>
          rw [String.intercalate_cons_cons, writtenText_append_feed,
            ih (List.cons_ne_nil next rest)]
          exact String.join_cons.symm

end Terminal

end Display

/-- What makes something of each element of a row makes it of all of them, or
it fails as it does for the first one for which it fails. -/
theorem mapM_cases {ε α β : Type} (f : α → Except ε β) (row : List α) :
    (∃ made : List β, row.map f = made.map .ok ∧ row.mapM f = .ok made)
      ∨ ∃ before x after e, row = before ++ x :: after ∧ (∀ y ∈ before, ∃ b, f y = .ok b)
        ∧ f x = .error e ∧ row.mapM f = .error e := by
  induction row with
  | nil => exact .inl ⟨[], rfl, rfl⟩
  | cons x rest ih =>
      rw [List.mapM_cons]
      cases hx : f x with
      | error e => exact .inr ⟨[], x, rest, e, rfl, nofun, hx, rfl⟩
      | ok b =>
          rcases ih with ⟨made, hmap, hmade⟩ | ⟨before, y, after, e, rfl, hbefore, hy, hfailed⟩
          · refine .inl ⟨b :: made, ?_, ?_⟩
            · rw [List.map_cons, hx, hmap]
              rfl
            · rw [hmade]
              rfl
          · refine .inr ⟨x :: before, y, after, e, rfl, ?_, hy, ?_⟩
            · exact List.forall_mem_cons.2 ⟨⟨b, hx⟩, hbefore⟩
            · rw [hfailed]
              rfl

/-- A text can be put before whatever is a text, and before nothing else. -/
theorem Object.operate_add_text (s : String) (x : Object) :
    Object.operate .add (.text s) x
      = match x.bare with
        | .text t => .ok (.text (s ++ t))
        | _ => .error (.textPlusOther x.className) := by
  have hnumbers : Object.operateNumbers .add (.text s) x = Option.none := by
    unfold Object.operateNumbers
    cases x.bare with
    | _ => rfl
  unfold Object.operate
  rw [hnumbers]
  show (Object.joined (.text s) x).getD _ = _
  unfold Object.joined
  cases x.bare with
  | _ => rfl

namespace Session

open CommandConsole.Action
open Display

variable {σ : Type}

-- =================================================================== lines

/-- Between two texts the line of an item is a text, or it cannot be made. -/
theorem exists_of_itemLine_eq_ok {format : Object → Except Raised Object}
    {opening closing : String} {item line : Object}
    (h : itemLine format (.text opening) (.text closing) item = .ok line) :
    ∃ s, line = .text s := by
  unfold itemLine at h
  obtain ⟨middle, -, h⟩ := exists_of_bind_eq_ok h
  rw [Object.operate_add_text] at h
  split at h
  · next made hmade =>
    cases Except.ok.inj h
    split at hmade
    · obtain ⟨front, hfront, hmade⟩ := exists_of_bind_eq_ok hmade
      cases Except.ok.inj hfront
      rw [Object.operate_add_text] at hmade
      split at hmade
      · exact ⟨_, (Except.ok.inj hmade).symm⟩
      · cases hmade
    · cases hmade
  · cases h

/-- Between two texts the lines of items that can all be made are texts. -/
theorem exists_texts_of_map_itemLine {format : Object → Except Raised Object}
    {opening closing : String} {items lines : List Object}
    (h : items.map (itemLine format (.text opening) (.text closing)) = lines.map .ok) :
    ∃ texts : List String, lines = texts.map .text := by
  induction lines generalizing items with
  | nil => exact ⟨[], rfl⟩
  | cons line rest ih =>
      obtain ⟨item, others, rfl, hitem, hothers⟩ := List.map_eq_cons_iff.1 h
      obtain ⟨text, rfl⟩ := exists_of_itemLine_eq_ok hitem
      obtain ⟨texts, rfl⟩ := ih hothers
      exact ⟨text :: texts, rfl⟩

/-- A row of texts holds nothing else. -/
theorem textRow_texts (lines : List String) :
    ∀ position, textRow position (lines.map .text) = .ok lines := by
  induction lines with
  | nil => exact fun _ => rfl
  | cons line rest ih =>
      intro position
      show (textRow (position + 1) (rest.map Object.text)).map (line :: ·) = _
      rw [ih]
      rfl

-- ================================================================= logging

/-- A text whose style can be read is printed. -/
theorem within_print_run {s : Session σ} {r : Run} {style : Style}
    (h : Style.ofObject r.style = .ok style) :
    within s (print [r])
      = (.ok (), s.onward s.state [.wrote (s.terminal.writtenText style r.text)]) := by
  unfold print
  rw [within_bind_ok (within_session s), s.terminal.written_run h]
  rfl

/-- A text that is logged without a style is written. -/
theorem within_log (s : Session σ) (text : String) :
    within s (log (.text text) none)
      = (.ok (), s.onward s.state [.wrote (s.terminal.writtenText Style.plain text)]) := by
  have hstyle : (if s.settings.colorful = true then (none : Option Object).getD (.text "")
      else .text "") = .text "" := ite_self _
  have hread : Style.ofObject (.text "") = .ok Style.plain := rfl
  unfold log
  rw [within_bind_ok (within_session s)]
  show within s (print [⟨text, if s.settings.colorful = true then _ else _⟩]) = _
  rw [hstyle]
  exact within_print_run (r := ⟨text, .text ""⟩) hread

/-- Logging texts one by one writes one after the other. -/
theorem after_logs (lines : List String) : ∀ s : Session σ,
    s.after (lines.map fun line => .log (.text line) none)
      = s.onward s.state
        ((lines.map (s.terminal.writtenText Style.plain)).map Event.wrote).reverse := by
  induction lines with
  | nil => exact fun _ => rfl
  | cons line rest ih =>
      intro s
      have hlog : operate s (.log (.text line) none)
          = (.ok .nothing, s.onward s.state [.wrote (s.terminal.writtenText Style.plain line)]) :=
        within_bind_ok (within_log s line) _
      show (operate s (.log (.text line) none)).2.after _ = _
      rw [hlog, ih, List.map_cons, List.map_cons, List.reverse_cons]
      exact onward_onward s s.state s.state _ _

/-- What texts that are written one after the other leave on the output. -/
theorem output_onward_wrote (s : Session σ) (texts : List String) :
    (s.onward s.state (texts.map Event.wrote).reverse).output
      = s.output ++ String.join texts := by
  show Event.output ((texts.map Event.wrote).reverse ++ s.events) = Event.output s.events ++ _
  have hwritten : (texts.map Event.wrote).filterMap Event.text? = texts := by
    rw [List.filterMap_map]
    exact List.filterMap_some
  unfold Event.output
  rw [List.filterMap_append, List.filterMap_reverse, hwritten, List.reverse_append,
    List.reverse_reverse, String.join_append]

section

variable (s : Session σ) {collection : Object} {format : Object → Except Raised Object}
  {opening closing : Object}

/-- Nothing is written of a collection whose lines cannot be made. -/
theorem operate_logCollection_error {e : Raised}
    (h : collectionLines collection format opening closing = .error e) :
    operate s (.logCollection collection format opening closing) = (.error e, s) := by
  have hraised : within s (logCollection collection format opening closing) = (.error e, s) := by
    unfold logCollection
    rw [h]
    rfl
  refine (within_bind s (logCollection collection format opening closing) _).trans ?_
  rw [hraised]

/-- The lines of a collection are written at once. -/
theorem operate_logCollection_ok {lines : List String}
    (h : collectionLines collection format opening closing = .ok lines) :
    operate s (.logCollection collection format opening closing)
      = (.ok .nothing, s.onward s.state
          [.wrote (s.terminal.writtenText Style.plain ("\n".intercalate lines))]) := by
  have hlogged : within s (logCollection collection format opening closing)
      = (.ok (), s.onward s.state
          [.wrote (s.terminal.writtenText Style.plain ("\n".intercalate lines))]) := by
    unfold logCollection
    rw [h]
    exact within_log s _
  exact within_bind_ok hlogged _

end

/-- The items of a collection are logged all or not at all. If the line of one
of them cannot be made, what the first such item raises is raised, and the
session is as it was. Otherwise, unless there are no items, logging them
answers, and it writes at once what logging their lines writes one by one. -/
theorem logCollection_lines (s : Session σ) {collection : Object} {items : List Object}
    (hitems : collection.items? = some items) (format : Object → Except Raised Object)
    (opening closing : String) :
    let line := itemLine format (.text opening) (.text closing)
    let result := operate s (.logCollection collection format (.text opening) (.text closing))
    ((∃ item ∈ items, ∃ e, line item = .error e) →
        ∃ before item after e, items = before ++ item :: after
          ∧ (∀ x ∈ before, ∃ made, line x = .ok made) ∧ line item = .error e
          ∧ result = (.error e, s))
      ∧ ∀ lines : List Object, items.map line = lines.map .ok → items ≠ [] →
        ∃ texts : List String,
          result = (.ok .nothing, s.onward s.state [.wrote (String.join texts)])
          ∧ s.after (lines.map fun line => .log line none)
            = s.onward s.state (texts.map .wrote).reverse
          ∧ result.2.output = (s.after (lines.map fun line => .log line none)).output := by
  intro line result
  rcases mapM_cases line items with
    ⟨made, hmap, hmade⟩ | ⟨before, item, after, e, hsplit, hbefore, hitem, hfailed⟩
  · refine ⟨?_, ?_⟩
    · rintro ⟨item, hmem, e, he⟩
      obtain ⟨other, -, hother⟩ := List.mem_map.1 (hmap ▸ List.mem_map_of_mem hmem)
      exact absurd (hother.trans he) nofun
    · intro lines hlines hne
      obtain rfl : made = lines := List.map_injective_iff.2 (fun _ _ => Except.ok.inj)
        (hmap.symm.trans hlines)
      obtain ⟨texts, rfl⟩ := exists_texts_of_map_itemLine hmap
      have htexts : texts ≠ [] := by
        rintro rfl
        exact hne (List.map_eq_nil_iff.1 hmap)
      have hmake : collectionLines collection format (.text opening) (.text closing) = .ok texts := by
        unfold collectionLines
        rw [hitems]
        show items.mapM line >>= textRow 0 = _
        rw [hmade]
        exact textRow_texts texts 0
      have hresult : result = (.ok .nothing, s.onward s.state
          [.wrote (String.join (texts.map (s.terminal.writtenText Style.plain)))]) := by
        rw [← s.terminal.writtenText_intercalate Style.plain htexts]
        exact operate_logCollection_ok s hmake
      have hafter : s.after ((texts.map Object.text).map fun line => .log line none)
          = s.onward s.state
            ((texts.map (s.terminal.writtenText Style.plain)).map Event.wrote).reverse := by
        rw [List.map_map]
        exact after_logs texts s
      refine ⟨_, hresult, hafter, ?_⟩
      rw [hafter, output_onward_wrote, hresult]
      exact Event.output_cons _ s.events
  · refine ⟨fun _ => ⟨before, item, after, e, hsplit, hbefore, hitem, ?_⟩, ?_⟩
    · refine operate_logCollection_error s ?_
      unfold collectionLines
      rw [hitems]
      show items.mapM line >>= _ = _
      rw [hfailed]
      rfl
    · intro lines hlines
      have hmem : line item ∈ lines.map Except.ok := by
        rw [← hlines, hsplit]
        exact List.mem_map_of_mem (List.mem_append_right before List.mem_cons_self)
      obtain ⟨made, -, hmade⟩ := List.mem_map.1 hmem
      exact absurd (hmade.trans hitem) nofun

/-- A collection of an empty text and a text with a line feed in it. -/
theorem logCollection_lines_feeds :
    ∃ s : Session Unit, openWith .standard .quiet = .ok s
      ∧ (Object.list [.text "", .text "a\nb"]).items? = some [.text "", .text "a\nb"]
      ∧ (operate s (.logCollection (.list [.text "", .text "a\nb"]) .ok (.text "- ")
          (.text ";"))).2.output = "- ;\n- a\nb;\n"
      ∧ (s.after [.log (.text "- ;") none, .log (.text "- a\nb;") none]).output
        = "- ;\n- a\nb;\n" := by
  obtain ⟨s, hopen, houtput⟩ : ∃ s : Session Unit, openWith .standard .quiet = .ok s
      ∧ (s.after [.log (.text "- ;") none, .log (.text "- a\nb;") none]).output
        = "- ;\n- a\nb;\n" := ⟨_, rfl, by decide +kernel⟩
  obtain ⟨texts, -, -, hsame⟩ := (logCollection_lines s
    (show (Object.list [.text "", .text "a\nb"]).items? = some [.text "", .text "a\nb"] from rfl)
    .ok "- " ";").2 [.text "- ;", .text "- a\nb;"] rfl (List.cons_ne_nil _ _)
  exact ⟨s, hopen, rfl, hsame.trans houtput, houtput⟩

end Session

end CommandConsole
