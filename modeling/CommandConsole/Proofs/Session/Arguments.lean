/-
The arguments of a line reach the routine of a command as they are.

A command whose parameters are all texts gets the arguments that its line
was written from: none of them changes, and the last one keeps all its
spaces although nothing quotes it (`run_withText`). Four stages have to
agree on this:

- the tokens of the line are the name, the arguments and the pieces of the
  last one (`Line.tokens_withText`);
- the name finds the command, whose routine is asked for with as many
  arguments as it has parameters (`Registry.dispatch_withText`);
- the pieces are folded back into the last argument
  (`Line.fold_tokens_withText`);
- each argument is converted to itself, if it is not a word for the absent
  object (`within_coerce_text`, `within_coerceAll`).
-/
import CommandConsole.Console
import CommandConsole.Proofs.Line.Surplus
import CommandConsole.Proofs.Session.Run

namespace CommandConsole

-- =============================================================== dispatch

namespace Registry

variable {ρ : Type}

/-- A command is called with its arguments if there are some, as many as it
has parameters. -/
theorem request_of_length {c : Command ρ} {words arguments : List String} {name : String}
    (hfold : Line.fold words c.outline.parameters.length = name :: arguments)
    (hne : arguments ≠ []) (hlength : arguments.length = c.outline.parameters.length) :
    request c words = .call c (arguments.zip c.outline.parameters) := by
  obtain ⟨first, rest, rfl⟩ := List.exists_cons_of_ne_nil hne
  unfold request
  simp only [hfold, List.tail_cons]
  exact if_pos hlength

variable {r : Registry ρ} {c : Command ρ} {name text : String} {arguments : List String}

/-- What a line with a text at its end asks for. -/
theorem dispatch_withText (hfound : r.find? name = some c) (hname : ' ' ∉ name.toList)
    (hcount : c.outline.parameters.length = arguments.length + 1)
    (harguments : ∀ a ∈ arguments, Line.Steady a)
    (htext : ∀ piece ∈ Line.pieces text, Line.opensQuote piece = false) :
    r.dispatch (Line.withText name arguments text)
      = .call c ((arguments ++ [text]).zip c.outline.parameters) := by
  have hfold := Line.fold_tokens_withText hname harguments htext
  rw [← hcount] at hfold
  have hlength : (arguments ++ [text]).length = c.outline.parameters.length := by
    rw [hcount, List.length_append, List.length_singleton]
  unfold dispatch
  simp only [Line.tokens_withText hname harguments htext, List.headD_cons, hfound] at hfold ⊢
  exact request_of_length hfold (by simp) hlength

end Registry

-- ============================================================= conversion

/-- A token for a text is converted to itself, unless it is a word for the
absent object or texts have a parser. -/
theorem Parsers.route_text {ρ : Type} {ps : Parsers ρ} {token : String} {p : Parameter}
    (htype : p.type = .text) (hnullable : p.nullable = false)
    (hparsers : ps.contains .text = false) (hword : Text.lower token ∉ nullWords) :
    ps.route token p = .ok (.convert (.object (.text token))) := by
  have hentry : ps.entry? .text = none := Option.isNone_iff_eq_none.1 (by
    simpa [contains] using hparsers)
  have hkey : key .text = .ok .text := rfl
  have hvalue : ps.isValueType .text = false := by
    simp [isValueType, default?, hentry, Ty.isPrimitive, Ty.isEnumeration]
  have htoken : nullWords.contains (Text.lower token) = false := by
    simpa using hword
  have hroute : ps.routeByType token .text = .convert (.object (.text token)) := by
    simp [routeByType, hvalue, hentry, Ty.isClass, Ty.convert]
  unfold route
  simp only [hnullable, htype, hkey]
  show (if (!ps.isValueType .text && nullWords.contains (Text.lower token)) = true
    then _ else _) = _
  rw [hvalue, htoken]
  exact congrArg Except.ok hroute

namespace Session

open CommandConsole.Action

variable {σ : Type} (start : Program σ → Action σ Reply)

/-- An argument that is a text reaches the routine as it is. -/
theorem within_coerce_text {s : Session σ} {token : String} {p : Parameter}
    (htype : p.type = .text) (hnullable : p.nullable = false)
    (hparsers : s.parsers.contains .text = false) (hword : Text.lower token ∉ nullWords) :
    within s (coerce start token p) = (.ok ⟨.text, .text token, .text⟩, s) := by
  unfold coerce
  rw [within_bind_ok (within_session s),
    Parsers.route_text htype hnullable hparsers hword, within_bind_ok (within_ofExcept_ok s _),
    htype]
  rfl

/-- Arguments that are converted without an effect are converted one by
one. -/
theorem within_coerceAll {s : Session σ} (value : String × Parameter → Value) :
    ∀ (arguments : List (String × Parameter)) (index : Nat),
      (∀ a ∈ arguments, within s (coerce start a.1 a.2) = (.ok (value a), s)) →
      within s (coerceAll start index arguments)
        = (.ok (.ok (arguments.map fun a => (value a).object)), s) := by
  intro arguments
  induction arguments with
  | nil => exact fun _ _ => rfl
  | cons a rest ih =>
      intro index h
      have hfirst := h a List.mem_cons_self
      have hrest := ih (index + 1) fun b hb => h b (List.mem_cons_of_mem a hb)
      rw [within_coerceAll_cons, hfirst]
      dsimp only
      rw [hrest]
      rfl

/-- Texts that are no words for the absent object are converted to
themselves for parameters that are texts. -/
theorem within_coerceAll_text {s : Session σ} {words : List String} {parameters : List Parameter}
    (hlength : words.length = parameters.length)
    (hparameters : ∀ p ∈ parameters, p.type = .text ∧ p.nullable = false)
    (hparsers : s.parsers.contains .text = false)
    (hwords : ∀ word ∈ words, Text.lower word ∉ nullWords) :
    within s (coerceAll start 1 (words.zip parameters)) = (.ok (.ok (words.map .text)), s) := by
  have htexts : (words.zip parameters).map (fun a => Object.text a.1) = words.map .text := by
    have hmap := List.map_map (f := Prod.fst) (g := Object.text) (l := words.zip parameters)
    rw [List.map_fst_zip (Nat.le_of_eq hlength)] at hmap
    exact hmap.symm
  rw [← htexts]
  refine within_coerceAll start (fun a => ⟨.text, .text a.1, .text⟩) (words.zip parameters) 1 ?_
  intro a ha
  obtain ⟨hword, hparameter⟩ := List.of_mem_zip ha
  obtain ⟨htype, hnullable⟩ := hparameters a.2 hparameter
  exact within_coerce_text start htype hnullable hparsers (hwords a.1 hword)

-- ==================================================================== runs

/-- A line in which a text stands behind a name and some arguments calls the
routine of the command that the name finds, once, with those arguments and
that text, if the parameters of the command are texts and one more than the
arguments. The run ends as the routine does; no other routine is called
unless the routine or the receiver of its fault calls one. -/
theorem run_withText {s : Session σ} {c : Command (Program σ)} {name text : String}
    {arguments : List String} (hfound : s.registry.find? name = some c)
    (hname : ' ' ∉ name.toList)
    (hcount : c.outline.parameters.length = arguments.length + 1)
    (hparameters : ∀ p ∈ c.outline.parameters, p.type = .text ∧ p.nullable = false)
    (hparsers : s.parsers.contains .text = false)
    (harguments : ∀ a ∈ arguments, Line.Steady a)
    (htext : ∀ piece ∈ Line.pieces text, Line.opensQuote piece = false)
    (hwords : ∀ word ∈ arguments ++ [text], Text.lower word ∉ nullWords) :
    let line := Line.withText name arguments text
    let objects := (arguments ++ [text]).map Object.text
    let called := calling (begun s line) c .callback objects
    let result := within called (start (c.callback objects))
    within s (run start (.text line)) = ended start line c result
      ∧ (Keeps invocations called (start (c.callback objects)) →
          ReceiverKeeps start invocations result.2 →
          invocations (within s (run start (.text line))).2
            = (c.outline.name, .callback, objects) :: invocations s) := by
  intro line objects called result
  have hlength : (arguments ++ [text]).length = c.outline.parameters.length := by
    rw [hcount, List.length_append, List.length_singleton]
  have hcall : within (begun s line)
      (call start line c ((arguments ++ [text]).zip c.outline.parameters))
        = within (begun s line) (invoke start line c .callback c.callback objects) :=
    within_call_ok start (within_coerceAll_text start hlength hparameters hparsers hwords)
  have hrun : within s (run start (.text line)) = ended start line c result := by
    rw [within_run start s (Line.withText_ne_empty name arguments text), within_runLine,
      Registry.dispatch_withText hfound hname hcount harguments htext]
    exact hcall.trans (within_invoke start (begun s line) line c .callback c.callback objects)
  refine ⟨hrun, fun hroutine hreceiver => ?_⟩
  rw [hrun, unreported_invocations.ended result hreceiver]
  exact hroutine

/-- A command that keeps the arguments it is called with. -/
def saying : Command (Program (List Object)) where
  outline := ⟨"say", [], "", [⟨"name", "", .text, false⟩, ⟨"words", "", .text, false⟩], true⟩
  callback := fun objects => .write objects (.answer .nothing)
  default? := none

/-- A session with that command. -/
def talk : Session (List Object) :=
  { Session.beginning ⟨"devconsole", true, false, true, true⟩ (History.empty 10) false
      ⟨⟨80, false⟩, .quiet, fun _ _ _ => .answer .nothing, []⟩ with
    registry := ⟨[("say", saying)]⟩ }

/-- The words of such a line arrive with both of their spaces. -/
theorem run_withText_talk :
    let line := "say \"a b\" hi  there"
    let objects := [Object.text "a b", .text "hi  there"]
    let result := within talk (run (Session.start 1) (.text line))
    result.1 = .ok true ∧ result.2.state = objects
      ∧ invocations result.2 = [("say", .callback, objects)] := by
  have hline : Line.withText "say" ["a b"] "hi  there" = "say \"a b\" hi  there" := by decide
  have hfound : talk.registry.find? "say" = some saying := by
    have hname : Text.canonical "say" = "say" := by decide
    simp [Registry.find?, hname, Registry.named?, talk]
  have htoken : ∀ a ∈ ["a b"], Line.Steady a := by
    unfold Line.Steady
    decide
  obtain ⟨hrun, hcalls⟩ := @run_withText _ (Session.start 1) talk saying "say" "hi  there" ["a b"]
    hfound (by decide) rfl (by simp [saying]) rfl htoken (by decide) (by decide)
  rw [hline] at hrun hcalls
  refine ⟨?_, ?_, hcalls rfl fun receive hreceive => ?_⟩
  · rw [hrun]
    rfl
  · rw [hrun]
    rfl
  · cases hreceive

end Session

end CommandConsole
