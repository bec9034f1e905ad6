/-
Host code that does not look at colours.

Two answers are the same without regard to colours if they differ at most in
the options of faults that are about colours and in whether an overview tells
of colours (`Reply.dull`). Two programs are alike (`Program.Alike`) if they take
the same steps and go on alike with whatever is the same without regard to
colours, and with states of the host that the host itself takes for the same. A
program is blind to colours if it is alike itself: it may keep a fault of the
console, pass it on or raise it, but what it does does not depend on the
colours that the fault tells.

If nothing is to be left out (`colours` is false), any program is alike itself
that brings no styles of its own: that prints no styled text, but for the lines
that help prints about parameters, and triggers no fault that is told to have
colours.

The built-in commands are alike themselves (`Builtin.alike_commands`).
-/
import CommandConsole.Builtin
import CommandConsole.Proofs.Fault.Restyling
import CommandConsole.Proofs.Registry.Parametricity

namespace CommandConsole

open Display Display.Terminal

-- ================================================================= replies

/-- What a console tells about itself, without regard to colours. -/
def Overview.dull (colours : Bool) (o : Overview) : Overview :=
  { o with
    settings := { o.settings with colorful := !colours && o.settings.colorful }
    fault? := o.fault?.map (Fault.dull colours) }

/-- An answer without regard to colours. -/
def Reply.dull (colours : Bool) : Reply → Reply
  | .fault f => .fault (Fault.dull colours f)
  | .overview o => .overview (o.dull colours)
  | r => r

theorem Overview.dull_false (o : Overview) : o.dull false = o := by
  obtain ⟨settings, commands, parsers, history, fault?⟩ := o
  cases fault? with
  | none => rfl
  | some f =>
      exact congrArg (fun f => Overview.mk settings commands parsers history (some f))
        (Fault.dull_false f)

/-- With regard to colours nothing is left out of an answer. -/
theorem Reply.dull_false (r : Reply) : r.dull false = r := by
  cases r with
  | fault f => exact congrArg Reply.fault (Fault.dull_false f)
  | overview o => exact congrArg Reply.overview o.dull_false
  | _ => rfl

theorem Reply.value_dull (colours : Bool) (r : Reply) : (r.dull colours).value = r.value := by
  cases r with
  | _ => rfl

/-- Two outcomes are answers that are related, or errors that are the same
without regard to colours. -/
abbrev EndsAlike {α β : Type} (colours : Bool) (S : α → β → Prop) :
    Except Raised α → Except Raised β → Prop :=
  Except.Rel (fun e e' => e.dull colours = e'.dull colours) S

/-- Two answers are the same without regard to colours. -/
def Reply.Alike (colours : Bool) (r r' : Reply) : Prop := r.dull colours = r'.dull colours

variable {colours : Bool}

/-- They give the same object to the one who asked for one. -/
theorem Reply.Alike.value_eq {r r' : Reply} (h : r.Alike colours r') : r.value = r'.value := by
  rw [← r.value_dull colours, h, Reply.value_dull]

/-- Answers that are the same without regard to colours are the same, or both
tell of faults. -/
theorem Reply.Alike.cases {r r' : Reply} (h : r.Alike colours r') :
    r = r' ∨ (∃ f g, r = .fault f ∧ r' = .fault g)
      ∨ ∃ o o', r = .overview o ∧ r' = .overview o' ∧ o.dull colours = o'.dull colours := by
  unfold Reply.Alike at h
  cases r with
  | fault f =>
      cases r' with
      | fault g => exact .inr (.inl ⟨f, g, rfl, rfl⟩)
      | _ => cases h
  | overview o =>
      cases r' with
      | overview o' => exact .inr (.inr ⟨o, o', rfl, rfl, Reply.overview.inj h⟩)
      | _ => cases h
  | _ =>
      cases r' with
      | fault g => cases h
      | overview o' => cases h
      | _ => exact .inl h

-- ============================================================== operations

/-- The text of a line that help prints about a parameter, whose name stands
out. -/
def Builtin.parameterText (p : Parameter) : Styled :=
  [.bare " ", .named p.name "bold", .bare ": ", .bare (sentence p.descr)]

/-- The operations that have nothing to do with host code, with faults or with
styles of a caller. -/
def Operation.Simple {ρ : Type} : Operation ρ → Prop
  | .run _ | .submit _ | .cycle _ | .clearHistory | .complete _ | .hint _ => True
  | .remove _ | .warn _ | .resolve _ | .describe _ | .overview => True
  | .register (.object _) _ | .registerType _ (.object _) _ | .fallback (.object _) => True
  | .logAs _ _ | .logVariable _ _ _ | .logSeparator _ | .logCommand _ | .logUsage _ _ _
  | .clear => True
  | _ => False

/-- Two operations with programs that are related, whose faults are the same
without regard to colours. A style that a caller gives can be read. Without
colours the caller gives none. -/
inductive Operation.Alike {ρ : Type} (colours : Bool) (R : ρ → ρ → Prop) :
    Operation ρ → Operation ρ → Prop
  | simple {op : Operation ρ} (h : op.Simple) : Operation.Alike colours R op op
  | register {c d : Command ρ} (h : c.Alike R d) (development : Bool) :
      Operation.Alike colours R (.register (.command c) development)
        (.register (.command d) development)
  | registerType (type : Ty) {parse parse' : String → ρ}
      (h : ∀ token, R (parse token) (parse' token)) (default? : Option Object) :
      Operation.Alike colours R (.registerType type (.routine parse) default?)
        (.registerType type (.routine parse') default?)
  | fallback {receive receive' : Fault → ρ}
      (h : ∀ {f g : Fault}, f.dull colours = g.dull colours → R (receive f) (receive' g)) :
      Operation.Alike colours R (.fallback (.routine receive)) (.fallback (.routine receive'))
  | trigger {f g : Fault} (hfault : f.dull colours = g.dull colours)
      {options options' : List (String × Detail Raised)}
      (hoptions : Fault.dullOptions colours options = Fault.dullOptions colours options')
      (hplain : colours = false → ∀ entry ∈ options, entry.1 = "colorful" →
        entry.2.truthy = false) :
      Operation.Alike colours R (.trigger (.fault f) options) (.trigger (.fault g) options')
  | offer (x : Object) (options options' : List (String × Detail Raised)) :
      Operation.Alike colours R (.trigger (.object x) options) (.trigger (.object x) options')
  | log (message : Object) {style? : Option Object}
      (h : colours = true → ∀ style, style? = some style → Reads true style) :
      Operation.Alike colours R (.log message style?) (.log message style?)
  | logCollection (items : Object) {format format' : Object → Except Raised Object}
      (h : ∀ x, EndsAlike colours (· = ·) (format x) (format' x)) (opening closing : Object) :
      Operation.Alike colours R (.logCollection items format opening closing)
        (.logCollection items format' opening closing)
  | print {text : Styled}
      (h : colours = false → (∀ r ∈ text, Reads false r.style)
        ∨ ∃ p, text = Builtin.parameterText p) :
      Operation.Alike colours R (.print text) (.print text)

-- ================================================================ programs

/-- Two programs that take the same steps, and go on alike with outcomes that
are the same without regard to colours and with states that are the `same`. -/
inductive Program.Alike {σ : Type} (colours : Bool) (same : σ → σ → Prop) :
    Program σ → Program σ → Prop
  | done {outcome outcome' : Except Raised Reply}
      (h : EndsAlike colours (Reply.Alike colours) outcome outcome') :
      Program.Alike colours same (.done outcome) (.done outcome')
  | read {next next' : σ → Program σ}
      (h : ∀ {s s'}, same s s' → Program.Alike colours same (next s) (next' s')) :
      Program.Alike colours same (.read next) (.read next')
  | write {state state' : σ} (hstate : same state state') {next next' : Program σ}
      (h : Program.Alike colours same next next') :
      Program.Alike colours same (.write state next) (.write state' next')
  | perform {op op' : Operation (Program σ)}
      (hop : op.Alike colours (Program.Alike colours same) op')
      {next next' : Except Raised Reply → Program σ}
      (h : ∀ {outcome outcome'}, EndsAlike colours (Reply.Alike colours) outcome outcome' →
        Program.Alike colours same (next outcome) (next' outcome')) :
      Program.Alike colours same (.perform op next) (.perform op' next')

/-- A program that does not depend on colours. States of the host that are the
`same` are as good as each other to it. -/
def Program.Blind {σ : Type} (same : σ → σ → Prop) (p : Program σ) : Prop := p.Alike true same p

/-- An operation whose host code does not depend on colours. -/
def Operation.Blind {σ : Type} (same : σ → σ → Prop) (op : Operation (Program σ)) : Prop :=
  op.Alike true (Program.Alike true same) op

/-- A program that brings no styles of its own. -/
def Program.Unstyled {σ : Type} (p : Program σ) : Prop := p.Alike false (· = ·) p

/-- An operation whose host code brings no styles of its own, and that is given
none. -/
def Operation.Unstyled {σ : Type} (op : Operation (Program σ)) : Prop :=
  op.Alike false (Program.Alike false (· = ·)) op

namespace Program

variable {σ : Type} {same : σ → σ → Prop}

theorem alike_answer (r : Reply) : Alike colours same (answer r) (answer r) := .done (.ok rfl)

theorem alike_raise {e e' : Raised} (h : e.dull colours = e'.dull colours) :
    Alike colours same (raise e) (raise e') :=
  .done (.error h)

theorem alike_call {op op' : Operation (Program σ)}
    (h : op.Alike colours (Alike colours same) op') :
    Alike colours same (call op) (call op') :=
  .perform h .done

theorem Alike.handle {next next' : Except Raised Reply → Program σ}
    (hnext : ∀ {outcome outcome'}, EndsAlike colours (Reply.Alike colours) outcome outcome' →
      Alike colours same (next outcome) (next' outcome')) :
    ∀ {p p' : Program σ}, Alike colours same p p' →
      Alike colours same (p.handle next) (p'.handle next')
  | .done _, _, .done h => hnext h
  | .read _, _, .read h => .read fun hs => (h hs).handle hnext
  | .write _ _, _, .write hstate h => .write hstate (h.handle hnext)
  | .perform _ _, _, .perform hop h => .perform hop fun ho => (h ho).handle hnext

theorem Alike.andThen {p p' : Program σ} (h : Alike colours same p p')
    {next next' : Reply → Program σ}
    (hnext : ∀ {r r' : Reply}, r.Alike colours r' → Alike colours same (next r) (next' r')) :
    Alike colours same (p.andThen next) (p'.andThen next') := by
  refine h.handle fun houtcome => ?_
  cases houtcome with
  | ok hr => exact hnext hr
  | error he => exact alike_raise he

/-- Programs one after the other that are alike themselves. -/
theorem alike_inOrder : ∀ {programs : List (Program σ)},
    (∀ p ∈ programs, Alike colours same p p) →
      Alike colours same (inOrder programs) (inOrder programs)
  | [], _ => alike_answer .nothing
  | [last], h => h last (List.mem_singleton_self last)
  | first :: _ :: _, h =>
      (h first List.mem_cons_self).andThen fun _ =>
        alike_inOrder fun p hp => h p (List.mem_cons_of_mem first hp)

theorem alike_simple {op : Operation (Program σ)} (h : op.Simple) :
    Alike colours same (call op) (call op) :=
  alike_call (.simple h)

end Program

-- ======================================================= built-in commands

namespace Builtin

open Program

variable {σ : Type} {same : σ → σ → Prop}

theorem alike_log (message : Object) :
    Alike colours same (call (.log message none)) (call (.log message none)) :=
  alike_call (.log message fun _ _ h => by cases h)

theorem alike_parameterLine {p : Parameter} {line : Program σ} (h : parameterLine p = some line) :
    Alike colours same line line := by
  unfold parameterLine at h
  split at h
  · cases h
  · cases h
    exact alike_call (.print fun _ => .inr ⟨p, rfl⟩)

theorem alike_description (o : Outline) :
    Alike colours same (description o) (description o) := by
  refine alike_inOrder ?_
  simp only [List.forall_mem_append, List.forall_mem_singleton, List.mem_filterMap]
  refine ⟨⟨⟨⟨⟨alike_simple trivial, ?_⟩, ?_⟩, ?_⟩, ?_⟩, alike_simple trivial⟩
  · split
    · exact List.forall_mem_nil _
    · exact List.forall_mem_singleton.2 (alike_log _)
  · split
    · exact List.forall_mem_nil _
    · exact List.forall_mem_singleton.2 (alike_log _)
  · split
    · exact List.forall_mem_nil _
    · exact List.forall_mem_singleton.2 (alike_simple trivial)
  · rintro line ⟨p, -, hline⟩
    exact alike_parameterLine hline

theorem alike_describe (name : Object) :
    Alike colours same (describe name) (describe name) := by
  have hresolve : Alike colours same
      (call (.resolve (if name.truthy then name else .text "")))
      (call (.resolve (if name.truthy then name else .text ""))) := alike_simple trivial
  have hunknown : Alike colours same (unknownName name) (unknownName name) := alike_simple trivial
  refine hresolve.andThen fun {r r'} hr => ?_
  rcases hr.cases with rfl | ⟨f, g, rfl, rfl⟩ | ⟨o, o', rfl, rfl, -⟩
  · split
    · exact alike_description _
    · exact hunknown
  · exact hunknown
  · exact hunknown

theorem alike_instructions : Alike colours same (instructions : Program σ) instructions := by
  refine alike_inOrder ?_
  simp only [List.forall_mem_cons]
  exact ⟨alike_simple trivial, alike_log _, alike_log _, alike_log _, alike_simple trivial,
    List.forall_mem_nil _⟩

/-- A program that goes on with an overview without looking at what it tells
of colours. -/
theorem alike_overviewing {next : Reply → Program σ}
    (hnext : ∀ {o o' : Overview}, o.history = o'.history → o.commands = o'.commands →
      Alike colours same (next (.overview o)) (next (.overview o')))
    (hother : ∀ r, (∀ o, r ≠ .overview o) → next r = answer .nothing) :
    Alike colours same (performing .overview next) (performing .overview next) := by
  have hcall : Alike colours same (call .overview) (call .overview) := alike_simple trivial
  refine hcall.andThen fun {r r'} hr => ?_
  rcases hr.cases with rfl | ⟨f, g, rfl, rfl⟩ | ⟨o, o', rfl, rfl, ho⟩
  · by_cases hoverview : ∃ o, r = .overview o
    · obtain ⟨o, rfl⟩ := hoverview
      exact hnext rfl rfl
    · rw [hother r fun o ho => hoverview ⟨o, ho⟩]
      exact alike_answer _
  · have hfault : ∀ f : Fault, next (.fault f) = answer .nothing := by
      refine fun f => hother _ fun o h => ?_
      cases h
    rw [hfault, hfault]
    exact alike_answer _
  · have hhistory : (o.dull colours).history = (o'.dull colours).history :=
      congrArg Overview.history ho
    have hcommands : (o.dull colours).commands = (o'.dull colours).commands :=
      congrArg Overview.commands ho
    exact hnext hhistory hcommands

theorem alike_describePrevious :
    Alike colours same (describePrevious : Program σ) describePrevious := by
  refine alike_overviewing (fun hhistory _ => ?_) fun r hr => ?_
  · dsimp only
    rw [hhistory]
    exact alike_describe _
  · cases r with
    | overview o => exact absurd rfl (hr o)
    | _ => rfl

theorem alike_listNames : Alike colours same (listNames : Program σ) listNames := by
  refine alike_overviewing (fun _ hcommands => ?_) fun r hr => ?_
  · dsimp only
    rw [hcommands]
    exact alike_log _
  · cases r with
    | overview o => exact absurd rfl (hr o)
    | _ => rfl

/-- The built-in commands do not look at colours, and bring no styles but those
of the lines that help prints about parameters. -/
theorem alike_commands {c : Command (Program σ)} (hc : c ∈ commands) :
    c.Alike (Alike colours same) c := by
  have hclear : Alike colours same (call .clear : Program σ) (call .clear) := alike_simple trivial
  simp only [commands, List.mem_cons, List.not_mem_nil, or_false] at hc
  rcases hc with rfl | rfl | rfl | rfl | rfl | rfl | rfl
  · exact .mk _ (fun _ => alike_instructions) .none
  · exact .mk _ (fun _ => alike_log _) .none
  · exact .mk _ (fun _ => hclear) .none
  · exact .mk _ (fun _ => alike_describe _) (.some fun _ => alike_describePrevious)
  · exact .mk _ (fun _ => alike_listNames) .none
  · exact .mk _ (fun _ => alike_log _) .none
  · exact .mk _ (fun _ => alike_raise rfl) .none

end Builtin

end CommandConsole
