/-
Registering a command, and removing it again.

A registration comes to one of three things (`Registration`). The command is
passed over in silence, or it is told of by a warning because others have some of
its identifiers, or it is added at the end, marked as that of a caller. Two checks
see to this, one of the console and one of the registry, and they agree: what gets
past the first one is added. Whatever the receiver of the faults does with the
warning, be it that it raises something, nothing is registered in this case, as
long as it leaves the console alone (`register_settles`). A command is a value: what
is marked is what the registry keeps, and the warning shows the command as it was
given.

What a registration has added can be removed by any of its identifiers, and then
the session is what it was before (`remove_undoes_register`).
-/
import CommandConsole.Proofs.Registry.Removal
import CommandConsole.Proofs.Session.Acceptance
import CommandConsole.Proofs.Session.Conversion

namespace CommandConsole

open Session CommandConsole.Action

variable {σ : Type}

-- ============================================================= identifiers

namespace Registry

variable {ρ : Type} {r : Registry ρ} {o : Outline}

/-- An identifier is in conflict if a registered command has it. -/
theorem mem_conflicts {t : String} :
    t ∈ r.conflicts o
      ↔ t ∈ o.identifiers ∧ ∃ d ∈ r.commands, t ∈ d.outline.identifiers := by
  unfold conflicts taken outlines
  rw [List.mem_filter, List.contains_iff_mem, List.flatMap_map, List.mem_flatMap]

theorem conflicts_ne_nil_iff :
    r.conflicts o ≠ []
      ↔ ∃ t ∈ o.identifiers, ∃ d ∈ r.commands, t ∈ d.outline.identifiers := by
  rw [ne_eq, List.eq_nil_iff_forall_not_mem, not_forall_not]
  exact exists_congr fun _ => mem_conflicts

end Registry

-- =============================================================== host code

namespace Program

/-- Programs that do not use the console. They may raise anything. -/
inductive Aloof : Program σ → Prop
  | done (outcome : Except Raised Reply) : Aloof (.done outcome)
  | read {next : σ → Program σ} (h : ∀ s, Aloof (next s)) : Aloof (.read next)
  | write (state : σ) {next : Program σ} (h : Aloof next) : Aloof (.write state next)

/-- What does not use the console changes the state of the host and nothing
else. -/
theorem Aloof.exists_start {p : Program σ} (h : p.Aloof) (depth : Nat) :
    ∀ s : Session σ, ∃ outcome state, within s (start depth p) = (outcome, s.onward state []) := by
  cases depth with
  | zero => exact fun s => ⟨_, s.state, rfl⟩
  | succ depth =>
      simp only [start_succ]
      induction h with
      | done outcome => exact fun s => ⟨outcome, s.state, within_execute_done _ s _⟩
      | read _ ih =>
          intro s
          rw [within_execute_read]
          exact ih s.state s
      | write state _ ih =>
          intro s
          rw [within_execute_write]
          exact ih { s with state := state }

end Program

namespace Session

variable {s : Session σ} {c : Command (Program σ)} {development : Bool}

/-- The receiver of the faults, if there is one, leaves the console alone. -/
def AloofReceiver (s : Session σ) : Prop :=
  ∀ receive, s.fallback? = some receive → ∀ f, (receive f).Aloof

-- ================================================================= reports

/-- A report is never answered with yes. -/
theorem within_fail_ne_true (start : Program σ → Action σ Reply) (s : Session σ) (f : Fault) :
    (within s (fail start f)).1 ≠ .ok true := by
  unfold fail
  rw [within_bind_pure]
  cases (within s (discard (trigger start f []))).1 with
  | ok _ => exact nofun
  | error _ => exact nofun

/-- A warning is delivered once, and nothing else comes of it but some events and
what its receiver does to the state of the host, if the receiver leaves the console
alone. -/
theorem exists_fail_warning (hreceiver : s.AloofReceiver) {f : Fault}
    (hkind : f.kind.isWarning = true) (depth : Nat) :
    ∃ state since, (within s (fail (start depth) f)).2
        = (delivering s (s.completed f)).onward state since
      ∧ ∀ e ∈ since, e.delivered? = none := by
  cases hfallback : s.fallback? with
  | some receive =>
      obtain ⟨outcome, state, hstart⟩ := (hreceiver receive hfallback (s.completed f)).exists_start
        depth (delivering s (s.completed f))
      refine ⟨state, [], ?_, List.forall_mem_nil _⟩
      rw [within_fail_some hfallback, hstart]
  | none =>
      cases hshell : s.settings.shell with
      | true =>
          rw [within_fail_shown hfallback hshell]
          cases Fault.shown s.host s.terminal (s.completed f) with
          | ok text => exact ⟨s.state, [.wrote text], rfl, List.forall_mem_singleton.2 rfl⟩
          | error p => exact ⟨s.state, [], rfl, List.forall_mem_nil _⟩
      | false =>
          rw [within_fail_passed hfallback hshell, hkind]
          exact ⟨s.state, [.warned (s.completed f)], rfl, List.forall_mem_singleton.2 rfl⟩

-- ============================================================ registration

/-- A command is let through to where its identifiers are looked at: it has a
name, and it is not for development in a console that is not. -/
def Admits (s : Session σ) (c : Command (Program σ)) (development : Bool) : Prop :=
  (development = true → s.settings.development = true) ∧ c.outline.name ≠ ""

theorem not_admits_iff :
    ¬ s.Admits c development
      ↔ (development && !s.settings.development) = true ∨ c.outline.name = "" := by
  unfold Admits
  cases development <;> cases s.settings.development <;> simp

section

variable (start : Program σ → Action σ Reply)

/-- How a registration ends. -/
inductive Registration (s : Session σ) (c : Command (Program σ)) (development : Bool) :
    Except Raised Bool × Session σ → Prop
  /-- A command that is not admitted is passed over. -/
  | passedOver (h : ¬ s.Admits c development) : Registration s c development (.ok false, s)
  /-- A command with identifiers in use is told of. -/
  | warned (h : s.Admits c development) (hconflicts : s.registry.conflicts c.outline ≠ []) :
      Registration s c development (within s (fail start (s.warningAbout c)))
  /-- Any other command is added at the end. -/
  | added (h : s.Admits c development) (hfree : s.registry.conflicts c.outline = []) :
      Registration s c development (.ok true,
        { s with registry := ⟨s.registry.entries ++ [(c.outline.name, Registry.markCustom c)]⟩ })

/-- A registration ends in one of these ways. -/
theorem registration (hfiled : s.registry.Filed) (c : Command (Program σ)) (development : Bool) :
    Registration start s c development
      (within s (register start (.command c) development)) := by
  by_cases hconflicts : s.registry.conflicts c.outline = []
  · rw [within_register_free _ hconflicts]
    split
    · next hrestricted => exact .passedOver (not_admits_iff.2 (.inl hrestricted))
    · next hpassed =>
      rcases Registry.insert_cases hfiled.key_eq c true with
        ⟨hinsert, hrefused⟩ | ⟨hinsert, hname, -⟩
      · rw [hinsert]
        exact .passedOver (not_admits_iff.2 (.inr (hrefused.resolve_right (not_not.2 hconflicts))))
      · rw [hinsert]
        refine .added (not_not.1 fun h => ?_) hconflicts
        exact (not_admits_iff.1 h).elim hpassed hname
  · rw [within_register_conflict _ hconflicts]
    split
    · next hrefused => exact .passedOver (not_admits_iff.2 hrefused)
    · next hpassed => exact .warned (not_not.1 fun h => hpassed (not_admits_iff.1 h)) hconflicts

end

section

variable {start : Program σ → Action σ Reply} {result : Except Raised Bool × Session σ}

theorem Registration.eq_true_iff (h : Registration start s c development result) :
    result.1 = .ok true ↔ s.Admits c development ∧ s.registry.conflicts c.outline = [] := by
  cases h with
  | passedOver h => exact iff_of_false nofun fun hboth => h hboth.1
  | warned _ hconflicts =>
      exact iff_of_false (within_fail_ne_true start s _) fun hboth => hconflicts hboth.2
  | added h hfree => exact iff_of_true rfl ⟨h, hfree⟩

theorem Registration.session_eq (h : Registration start s c development result)
    (htrue : result.1 = .ok true) :
    result.2 = { s with
      registry := ⟨s.registry.entries ++ [(c.outline.name, Registry.markCustom c)]⟩ } := by
  cases h with
  | passedOver => cases htrue
  | warned => exact absurd htrue (within_fail_ne_true start s _)
  | added => rfl

end

section

variable {depth : Nat} {result : Except Raised Bool × Session σ}
  (h : Registration (start depth) s c development result)

include h

/-- A registration that is not answered with yes changes the state of the host and
adds events, and nothing else. -/
theorem Registration.exists_onward (hreceiver : s.AloofReceiver) (hfalse : result.1 ≠ .ok true) :
    ∃ state since, result.2 = s.onward state since := by
  cases h with
  | passedOver => exact ⟨s.state, [], rfl⟩
  | warned =>
      obtain ⟨state, since, hfail, -⟩ :=
        exists_fail_warning hreceiver (f := s.warningAbout c) rfl depth
      rw [hfail]
      exact ⟨state, _, onward_onward s s.state state [.delivered _] since⟩
  | added => exact absurd rfl hfalse

/-- A command that is admitted and has identifiers in use is told of once. -/
theorem Registration.deliveries_warned (hreceiver : s.AloofReceiver)
    (hadmits : s.Admits c development) (hconflicts : s.registry.conflicts c.outline ≠ []) :
    deliveries result.2 = s.completed (s.warningAbout c) :: deliveries s := by
  cases h with
  | passedOver h => exact absurd hadmits h
  | warned =>
      obtain ⟨state, since, hfail, hsince⟩ :=
        exists_fail_warning hreceiver (f := s.warningAbout c) rfl depth
      rw [hfail]
      exact deliveries_onward _ state hsince
  | added _ hfree => exact absurd hfree hconflicts

/-- Nothing is told of any other command. -/
theorem Registration.deliveries_eq
    (hsilent : ¬ (s.Admits c development ∧ s.registry.conflicts c.outline ≠ [])) :
    deliveries result.2 = deliveries s := by
  cases h with
  | passedOver | added => rfl
  | warned h hconflicts => exact absurd ⟨h, hconflicts⟩ hsilent

end

theorem flagged_eq_true_iff (result : Except Raised Bool × Session σ) :
    (flagged result).1 = .ok (.flag true) ↔ result.1 = .ok true := by
  obtain ⟨outcome, t⟩ := result
  cases outcome with
  | error e => exact iff_of_false nofun nofun
  | ok answer =>
      cases answer with
      | false => exact iff_of_false nofun nofun
      | true => exact iff_of_true rfl rfl

/-- Whatever has been done in a console, if the receiver of its faults leaves it
alone, a command is registered as a whole or not at all. It is registered exactly
if it is admitted and a registered command has none of its identifiers. Then it
stands behind all others, under its name and as that of a caller, and nothing else
has changed. If it is not registered, whether this is answered or something is
raised, the console is what it was, but for the state of the host and the events.
A command that is admitted and has identifiers in use is told of by exactly one
warning, which shows the command as it was given and names those identifiers.
Nothing is told of any other one. -/
theorem register_settles {options : ConsoleOptions} {around : Surroundings σ}
    {s₀ s : Session σ} (hopen : openWith options around = .ok s₀) (hcourse : Course s₀ s)
    (hreceiver : s.AloofReceiver) (c : Command (Program σ)) (development : Bool) (depth : Nat) :
    let used (t : String) : Prop := ∃ d ∈ s.registry.commands, t ∈ d.outline.identifiers
    let conflicting : Prop := ∃ t ∈ c.outline.identifiers, used t
    let result := within s (perform (start depth) (.register (.command c) development))
    (result.1 = .ok (.flag true) ↔ s.Admits c development ∧ ¬ conflicting)
      ∧ (result.1 = .ok (.flag true) → result.2 = { s with
          registry := ⟨s.registry.entries ++ [(c.outline.name, Registry.markCustom c)]⟩ })
      ∧ (result.1 ≠ .ok (.flag true) →
          ∃ state since, result.2 = { s with state := state, events := since ++ s.events })
      ∧ (s.Admits c development → conflicting →
          ∃ f conflicts, deliveries result.2 = f :: deliveries s
            ∧ f.kind = .duplicateRegistration
            ∧ f.option? "command" = some (.command c.outline)
            ∧ f.option? "conflicts" = some (.conflicts conflicts)
            ∧ ∀ t, t ∈ conflicts ↔ t ∈ c.outline.identifiers ∧ used t)
      ∧ (¬ (s.Admits c development ∧ conflicting) → deliveries result.2 = deliveries s) := by
  intro used conflicting result
  have hends := registration (start depth) (filed_of_course hopen hcourse) c development
  have hconflicting : s.registry.conflicts c.outline ≠ [] ↔ conflicting :=
    Registry.conflicts_ne_nil_iff
  rw [show result = flagged _ from within_perform_register _ s _ _]
  generalize within s (register (start depth) (.command c) development) = registered at hends
  have htrue := flagged_eq_true_iff registered
  refine ⟨?_, fun h => hends.session_eq (htrue.1 h),
    fun h => hends.exists_onward hreceiver (mt htrue.2 h), fun hadmits h => ?_, fun h => ?_⟩
  · rw [htrue, hends.eq_true_iff, ← hconflicting, not_not]
  · have hwarned := hends.deliveries_warned hreceiver hadmits (hconflicting.2 h)
    refine ⟨_, s.registry.conflicts c.outline, hwarned, rfl, ?_, ?_,
      fun _ => Registry.mem_conflicts⟩
    · exact (FaultOf.option?_replace _ _ "command").trans rfl
    · exact (FaultOf.option?_replace _ _ "conflicts").trans rfl
  · exact hends.deliveries_eq (by rwa [hconflicting])

/-- A receiver that raises something at every fault changes nothing: a namesake of
`help` is told of by one warning and is not registered. -/
theorem register_settles_namesake :
    ∃ s₀ : Session Unit, openWith .standard .quiet = .ok s₀
      ∧ let s := s₀.after [.fallback (.routine fun _ => .refuse .notCommand)]
        let result := operate s (.register (.command namesake) false)
        result.1 ≠ .ok (.flag true) ∧ result.2.registry = s.registry
          ∧ ∃ f conflicts, deliveries result.2 = f :: deliveries s
            ∧ f.option? "conflicts" = some (.conflicts conflicts) ∧ "help" ∈ conflicts := by
  obtain ⟨s₀, hopen⟩ : ∃ s₀ : Session Unit, openWith .standard .quiet = .ok s₀ := ⟨_, rfl⟩
  refine ⟨s₀, hopen, ?_⟩
  intro s result
  have hreceiver : s.AloofReceiver := by
    intro receive hreceive f
    obtain rfl := Option.some.inj (hreceive : some _ = some receive)
    exact .done _
  have hused : ∃ d ∈ s.registry.commands, "help" ∈ d.outline.identifiers := by
    obtain ⟨d, hd, hname, -⟩ :=
      Builtin.exists_permanent (σ := Unit) (show "help" ∈ permanentNames by decide)
    obtain ⟨settings, history, -, -, rfl⟩ := exists_of_openWith_eq_ok hopen
    have hmem := (holds_registryOf_commands hd).mem
    exact ⟨d, Registry.mem_commands.2 ⟨_, hmem, rfl⟩, Outline.mem_identifiers.2 (.inl hname.symm)⟩
  obtain ⟨hiff, -, hnone, hwarned, -⟩ :=
    register_settles hopen (course_after s₀ _) hreceiver namesake false maxDepth
  have hadmits : s.Admits namesake false := ⟨nofun, by decide⟩
  have hconflicting : ∃ t ∈ namesake.outline.identifiers, ∃ d ∈ s.registry.commands,
      t ∈ d.outline.identifiers := ⟨"help", by decide, hused⟩
  have hfalse : result.1 ≠ .ok (.flag true) := fun h => (hiff.1 h).2 hconflicting
  obtain ⟨state, since, hafter⟩ := hnone hfalse
  have hregistry : result.2.registry = s.registry := by
    rw [show result.2 = _ from hafter]
  obtain ⟨f, conflicts, hdelivered, -, -, hconflicts, hmem⟩ := hwarned hadmits hconflicting
  exact ⟨hfalse, hregistry, f, conflicts, hdelivered, hconflicts,
    (hmem "help").2 ⟨by decide, hused⟩⟩

-- ================================================================= removing

/-- A console removes from its registry what a spelling finds there. -/
theorem within_perform_remove_text (start : Program σ → Action σ Reply) (t : Session σ)
    {spelling : String} (h : spelling ≠ "") :
    within t (perform start (.remove (.text spelling)))
      = (.ok (.flag (t.registry.erase spelling).1),
        { t with registry := (t.registry.erase spelling).2 }) := by
  rw [within_perform_remove, within_remove t h]
  rfl

/-- A command that has just been registered is removed by any of its identifiers,
and the session is what it was before. Whatever changes have led to a registry, a
removal either is refused and changes nothing or takes out the command that the
spelling finds, if it finds one, and nothing else (`Registry.Removal`). A console
removes from its registry what the spelling finds there. -/
theorem remove_undoes_register {options : ConsoleOptions} {around : Surroundings σ}
    {s₀ s : Session σ} (hopen : openWith options around = .ok s₀) (hcourse : Course s₀ s)
    (depth : Nat) :
    (∀ (c : Command (Program σ)) development t, c.Made →
        within s (perform (start depth) (.register (.command c) development))
          = (.ok (.flag true), t) →
        ∀ spelling, Text.canonical spelling ∈ c.outline.identifiers →
          within t (perform (start depth) (.remove (.text spelling))) = (.ok (.flag true), s))
      ∧ ∀ changes spelling, Registry.Removal (Registry.after changes) spelling
            ((Registry.after changes).erase spelling)
          ∧ ∀ t : Session σ, t.registry = Registry.after changes → spelling ≠ "" →
            within t (perform (start depth) (.remove (.text spelling)))
              = let (gone, registry) := (Registry.after changes).erase spelling
                (.ok (.flag gone), { t with registry := registry }) := by
  have hfiled := filed_of_course hopen hcourse
  refine ⟨fun c development t hc hregister spelling hspelling => ?_,
    fun changes spelling => ⟨(Registry.sound_after changes).removal spelling, ?_⟩⟩
  · have hends := registration (start depth) hfiled c development
    rw [within_perform_register] at hregister
    have htrue := (flagged_eq_true_iff _).1 (congrArg Prod.fst hregister)
    obtain ⟨⟨-, hname⟩, hfree⟩ := hends.eq_true_iff.1 htrue
    obtain rfl : _ = t := (hends.session_eq htrue).symm.trans (congrArg Prod.snd hregister)
    have hne : spelling ≠ "" := by
      rintro rfl
      exact hc.wellFormed.empty_notMem_identifiers hname hspelling
    rw [within_perform_remove_text _ _ hne, hfiled.erase_added hc hname hfree hspelling]
  · intro t hregistry hne
    rw [within_perform_remove_text _ t hne, hregistry]

/-- A command with two aliases. -/
def greeting : CommandDraft (Program Unit) where
  name := .text "greet"
  callback := .routine ⟨"f", none, none, fun _ => .answer .nothing⟩
  aliases := .text "Hi, hello"
  descr := .text ""
  parameters := .ok []
  default? := none

/-- A console in which the command was registered and then removed by an alias is
what it was before. -/
theorem remove_undoes_register_alias :
    ∃ s₀ : Session Unit, openWith .standard .quiet = .ok s₀
      ∧ ∃ c t, Command.ofDraft greeting = .ok c
        ∧ operate s₀ (.register (.command c) false) = (.ok (.flag true), t)
        ∧ operate t (.remove (.text " HI ")) = (.ok (.flag true), s₀) := by
  obtain ⟨s₀, c, t, hopen, hmade, hregister⟩ : ∃ s₀ : Session Unit, ∃ c t,
      openWith .standard .quiet = .ok s₀ ∧ Command.ofDraft greeting = .ok c
        ∧ operate s₀ (.register (.command c) false) = (.ok (.flag true), t) :=
    ⟨_, _, _, rfl, rfl, rfl⟩
  have hspelling : Text.canonical " HI " ∈ c.outline.identifiers := by
    obtain rfl := Except.ok.inj (hmade.symm.trans (rfl : Command.ofDraft greeting = .ok _))
    decide
  exact ⟨s₀, hopen, c, t, hmade, hregister,
    (remove_undoes_register hopen .refl maxDepth).1 c false t (.draft hmade) hregister " HI "
      hspelling⟩

end Session

end CommandConsole
