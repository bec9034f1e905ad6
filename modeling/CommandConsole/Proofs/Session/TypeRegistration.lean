/-
Registering parsers in a session.

The first parser that is registered for a type stands, and its zero value with it.
Parsers only ever come, one at a time and behind the others, by calls that are
accepted (`Change.accepts`). So at every moment of a session the entry of a type is
that of the first such call (`Course.entry?_eq_some_iff`).

A call is accepted if the parser can be called, the type can be looked up, and no
type that is the same has a parser. Any other call raises the reason, or the type is
told of by a warning (`TypeRegistration`), and nothing is registered. The receiver of
the warning may make calls of its own, and those may be accepted
(`Course.exists_added`).
-/
import CommandConsole.Proofs.Parsers.Registration
import CommandConsole.Proofs.Session.Registration

namespace CommandConsole.Session

open CommandConsole.Action

variable {σ : Type} {s t : Session σ} {type : Ty} {candidate : ParserCandidate (Program σ)}
  {default? : Option Object} {e : ParserEntry (Program σ)}

-- =================================================================== calls

/-- How a call ends that registers a parser. -/
inductive TypeRegistration (start : Program σ → Action σ Reply) (s : Session σ) (type : Ty)
    (candidate : ParserCandidate (Program σ)) (default? : Option Object) :
    Except Raised Bool × Session σ → Prop
  /-- What cannot be called or looked up is refused. -/
  | refused (h : ¬ ((∃ parse, candidate = .routine parse) ∧ type.unhashable? = none))
      (q : Problem) : TypeRegistration start s type candidate default? (.error (.problem q), s)
  /-- A type that has a parser is told of. -/
  | told {parse : String → Program σ} (hparse : candidate = .routine parse)
      (hkey : type.unhashable? = none) (hheld : s.parsers.contains type = true) :
      TypeRegistration start s type candidate default?
        (within s (fail start (Fault.duplicateParser s.host type)))
  /-- Any other parser is added at the end. -/
  | added {parse : String → Program σ} (hparse : candidate = .routine parse)
      (hkey : type.unhashable? = none) (hfree : s.parsers.contains type = false) :
      TypeRegistration start s type candidate default?
        (.ok true, { s with parsers := s.parsers.add ⟨type, parse, default?⟩ })

/-- A call ends in one of these ways. -/
theorem typeRegistration (start : Program σ → Action σ Reply) (s : Session σ) (type : Ty)
    (candidate : ParserCandidate (Program σ)) (default? : Option Object) :
    TypeRegistration start s type candidate default?
      (within s (registerType start type candidate default?)) := by
  unfold registerType
  rw [within_bind_ok (within_session s)]
  have hregistering := Parsers.registering s.parsers type default? candidate
  generalize s.parsers.register type candidate default? = result at hregistering
  cases hregistering with
  | uncallable x => exact .refused (fun ⟨⟨_, hparse⟩, _⟩ => nomatch hparse) _
  | unhashable hkey parse => exact .refused (fun ⟨_, hnone⟩ => nomatch hkey.symm.trans hnone) _
  | held hkey hheld parse => exact .told rfl hkey hheld
  | added hkey hfree parse => exact .added rfl hkey hfree

section

variable {start : Program σ → Action σ Reply} {result : Except Raised Bool × Session σ}
  (h : TypeRegistration start s type candidate default? result)

include h

theorem TypeRegistration.eq_true_iff :
    result.1 = .ok true ↔ (∃ parse, candidate = .routine parse) ∧ type.unhashable? = none
      ∧ s.parsers.contains type = false := by
  cases h with
  | refused h => exact iff_of_false nofun fun ⟨hparse, hkey, _⟩ => h ⟨hparse, hkey⟩
  | told _ _ hheld =>
      exact iff_of_false (within_fail_ne_true start s _)
        fun ⟨_, _, hfree⟩ => Bool.false_ne_true (hfree.symm.trans hheld)
  | added hparse hkey hfree => exact iff_of_true rfl ⟨⟨_, hparse⟩, hkey, hfree⟩

theorem TypeRegistration.exists_of_refused
    (hrefused : ¬ ((∃ parse, candidate = .routine parse) ∧ type.unhashable? = none)) :
    ∃ q, result = (.error (.problem q), s) := by
  cases h with
  | refused _ q => exact ⟨q, rfl⟩
  | told hparse hkey | added hparse hkey => exact absurd ⟨⟨_, hparse⟩, hkey⟩ hrefused

theorem TypeRegistration.exists_added (htrue : result.1 = .ok true) :
    ∃ parse, candidate = .routine parse
      ∧ result.2 = { s with parsers := s.parsers.add ⟨type, parse, default?⟩ } := by
  cases h with
  | refused => cases htrue
  | told => exact absurd htrue (within_fail_ne_true start s _)
  | added hparse => exact ⟨_, hparse, rfl⟩

/-- A call that is not accepted changes no parser, if the receiver of the faults does
not. -/
theorem TypeRegistration.parsers_eq (hreceiver : ReceiverKeeps start (·.parsers) s)
    (hfalse : result.1 ≠ .ok true) : result.2.parsers = s.parsers := by
  have hunreported : Unreported (σ := σ) (·.parsers) :=
    ⟨fun _ _ => rfl, fun _ _ => rfl, fun _ _ => rfl, fun _ _ => rfl⟩
  cases h with
  | refused => rfl
  | told => exact hunreported.fail hreceiver _
  | added => exact absurd rfl hfalse

end

-- ================================================================= courses

/-- In a session, a call that registers a parser is answered with yes, and leads to
another session. -/
def Accepts (s : Session σ) (e : ParserEntry (Program σ)) (t : Session σ) : Prop :=
  ∀ depth, within s (perform (start depth)
    (.registerType e.type (.routine e.parse) e.default?)) = (.ok (.flag true), t)

theorem accepts_iff :
    Accepts s e t ↔ e.type.unhashable? = none ∧ s.parsers.contains e.type = false
      ∧ t = { s with parsers := s.parsers.add e } := by
  have hends : ∀ depth, TypeRegistration (start depth) s e.type (.routine e.parse) e.default?
      (within s (registerType (start depth) e.type (.routine e.parse) e.default?)) :=
    fun depth => typeRegistration _ s _ _ _
  constructor
  · intro h
    have hcall := h 0
    rw [within_perform_registerType] at hcall
    have htrue := (flagged_eq_true_iff _).1 (congrArg Prod.fst hcall)
    obtain ⟨-, hkey, hfree⟩ := (hends 0).eq_true_iff.1 htrue
    obtain ⟨_, ⟨⟩, hadded⟩ := (hends 0).exists_added htrue
    exact ⟨hkey, hfree, (congrArg Prod.snd hcall).symm.trans hadded⟩
  · rintro ⟨hkey, hfree, rfl⟩ depth
    have htrue := (hends depth).eq_true_iff.2 ⟨⟨_, rfl⟩, hkey, hfree⟩
    obtain ⟨_, ⟨⟩, hadded⟩ := (hends depth).exists_added htrue
    rw [within_perform_registerType]
    exact Prod.ext ((flagged_eq_true_iff _).2 htrue) hadded

/-- A change leaves the parsers as they are, or is made by a call that is
accepted. -/
theorem Change.accepts (h : Change s t) : t.parsers = s.parsers ∨ ∃ e, Accepts s e t := by
  cases h with
  | @typed type candidate default? parsers hregister =>
      have hregistering := Parsers.registering s.parsers type default? candidate
      rw [hregister] at hregistering
      cases hregistering with
      | added hkey hfree parse =>
          exact .inr ⟨⟨type, parse, default?⟩, accepts_iff.2 ⟨hkey, hfree, rfl⟩⟩
  | _ => exact .inl rfl

/-- The types of the parsers stay apart. -/
theorem Course.distinct (h : Course s t) (hs : s.parsers.Distinct) : t.parsers.Distinct := by
  refine Course.induction (P := fun u => u.parsers.Distinct) h hs fun u v hchange hu => ?_
  rcases hchange.accepts with hparsers | ⟨e, haccepts⟩
  · rwa [hparsers]
  · obtain ⟨-, hfree, rfl⟩ := accepts_iff.1 haccepts
    exact hu.add hfree

/-- The entry of a type that has a parser stands. -/
theorem Course.entry?_eq (h : Course s t) (hs : s.parsers.entry? type = some e) :
    t.parsers.entry? type = some e := by
  refine Course.induction (P := fun u => u.parsers.entry? type = some e) h hs
    fun u v hchange hu => ?_
  rcases hchange.accepts with hparsers | ⟨e', haccepts⟩
  · rwa [hparsers]
  · obtain ⟨-, -, rfl⟩ := accepts_iff.1 haccepts
    exact Parsers.entry?_add_of_eq_some hu

/-- Along a course parsers come behind the others, each of them by a call that is
accepted. -/
theorem Course.exists_added (h : Course s t) :
    ∃ added, t.parsers.entries = s.parsers.entries ++ added
      ∧ ∀ e ∈ added, ∃ u v, Course s u ∧ Accepts u e v ∧ Course v t := by
  induction h with
  | refl => exact ⟨[], (List.append_nil _).symm, List.forall_mem_nil _⟩
  | @tail u v hcourse hchange ih =>
      obtain ⟨added, hentries, hadded⟩ := ih
      have hlater : ∀ e ∈ added, ∃ u' v', Course s u' ∧ Accepts u' e v' ∧ Course v' v := by
        intro e he
        obtain ⟨u', v', hu, haccepts, hv⟩ := hadded e he
        exact ⟨u', v', hu, haccepts, hv.tail hchange⟩
      rcases hchange.accepts with hparsers | ⟨e, haccepts⟩
      · exact ⟨added, hparsers ▸ hentries, hlater⟩
      · refine ⟨added ++ [e], ?_, List.forall_mem_append.2
          ⟨hlater, List.forall_mem_singleton.2 ⟨u, v, hcourse, haccepts, .refl⟩⟩⟩
        obtain ⟨-, -, rfl⟩ := accepts_iff.1 haccepts
        show u.parsers.entries ++ [e] = _
        rw [hentries, List.append_assoc]

/-- A call that is not accepted adds no parser. What parsers there are more in the end
come by calls that the receiver of the warning makes. -/
theorem TypeRegistration.exists_of_receiver {depth : Nat} {result : Except Raised Bool × Session σ}
    (h : TypeRegistration (start depth) s type candidate default? result)
    (hfalse : result.1 ≠ .ok true) :
    ∃ added, result.2.parsers.entries = s.parsers.entries ++ added
      ∧ ∀ e ∈ added, (∃ receive, s.fallback? = some receive)
        ∧ ∃ f u v, Course (delivering s f) u ∧ Accepts u e v ∧ Course v result.2 := by
  cases hfallback : s.fallback? with
  | none =>
      have hreceiver : ReceiverKeeps (start depth) (·.parsers) s := fun receive hreceive =>
        nomatch hfallback.symm.trans hreceive
      refine ⟨[], ?_, List.forall_mem_nil _⟩
      rw [h.parsers_eq hreceiver hfalse, List.append_nil]
  | some receive =>
      cases h with
      | refused => exact ⟨[], (List.append_nil _).symm, List.forall_mem_nil _⟩
      | told =>
          let f := Fault.duplicateParser s.host type
          have hcourse : Course (delivering s (s.completed f)) _ := course_fail (leads_start depth) f
          obtain ⟨added, hentries, hadded⟩ := hcourse.exists_added
          exact ⟨added, hentries, fun e he => ⟨⟨receive, rfl⟩, _, hadded e he⟩⟩
      | added => exact absurd rfl hfalse

/-- A call is the first one that is accepted for a type. -/
structure AcceptsFirst (s : Session σ) (type : Ty) (e : ParserEntry (Program σ))
    (t : Session σ) : Prop where
  contains_eq : s.parsers.contains type = false
  same_eq : e.type.same type = true
  accepts : Accepts s e t

theorem AcceptsFirst.entry?_eq (h : AcceptsFirst s type e t) :
    t.parsers.entry? type = some e := by
  obtain ⟨-, -, rfl⟩ := accepts_iff.1 h.accepts
  rw [Parsers.entry?_add, Parsers.entry?_eq_none h.contains_eq, if_pos h.same_eq]
  rfl

/-- The entry of a type is that of the first call that was accepted for it. -/
theorem Course.entry?_eq_some_iff (h : Course s t) (hs : s.parsers.entries = []) :
    t.parsers.entry? type = some e
      ↔ ∃ u v, Course s u ∧ AcceptsFirst u type e v ∧ Course v t := by
  constructor
  · intro hentry
    induction h with
    | refl =>
        unfold Parsers.entry? at hentry
        rw [hs] at hentry
        cases hentry
    | @tail u v hcourse hchange ih =>
        have hbefore : u.parsers.entry? type = some e
            → ∃ u' v', Course s u' ∧ AcceptsFirst u' type e v' ∧ Course v' v := by
          intro hu
          obtain ⟨u', v', hu', hfirst, hv'⟩ := ih hu
          exact ⟨u', v', hu', hfirst, hv'.tail hchange⟩
        rcases hchange.accepts with hparsers | ⟨e', haccepts⟩
        · exact hbefore (hparsers ▸ hentry)
        · obtain ⟨-, -, rfl⟩ := accepts_iff.1 haccepts
          rw [Parsers.entry?_add] at hentry
          cases hu : u.parsers.entry? type with
          | some held => exact hbefore (hu.trans (by rwa [hu] at hentry))
          | none =>
              rw [hu, Option.none_or] at hentry
              split at hentry
              · next hsame =>
                obtain rfl := Option.some.inj hentry
                exact ⟨u, _, hcourse, ⟨Parsers.contains_eq_false hu, hsame, haccepts⟩, .refl⟩
              · cases hentry
  · rintro ⟨u, v, -, hfirst, hcourse⟩
    exact hcourse.entry?_eq hfirst.entry?_eq

/-- The first parser that is registered for a type stands.

- No two parsers are for the same type, and the parser and the zero value of a type are
  those of the first call that was accepted for it. A type without a parser was given no
  zero value.
- A call is accepted exactly if its parser can be called, the type can be looked up and
  has no parser. Then the parser and the zero value stand behind the others.
- Any other call changes no parser and no zero value, whether it answers or raises, and
  whatever zero value it gives. If something cannot be called or looked up, it raises
  the reason. Otherwise it tells of the type by a warning, and what parsers come from
  then on come by further calls, which the receiver of the faults makes. If there is
  none, or if it registers none, there are none. -/
theorem first_parser_stands {options : ConsoleOptions} {around : Surroundings σ}
    {s₀ s : Session σ} (hopen : openWith options around = .ok s₀) (hcourse : Course s₀ s) :
    s.parsers.Distinct
      ∧ (∀ type e, s.parsers.entry? type = some e
          ↔ ∃ u v, Course s₀ u ∧ AcceptsFirst u type e v ∧ Course v s)
      ∧ (∀ type x, s.parsers.default? type = some x
          ↔ ∃ e u v, Course s₀ u ∧ AcceptsFirst u type e v ∧ Course v s ∧ e.default? = some x)
      ∧ ∀ depth type candidate default?,
          let result := within s (perform (start depth) (.registerType type candidate default?))
          let sound := (∃ parse, candidate = .routine parse) ∧ type.unhashable? = none
          (result.1 = .ok (.flag true) ↔ sound ∧ s.parsers.contains type = false)
            ∧ (result.1 = .ok (.flag true) → ∃ parse, candidate = .routine parse
              ∧ result.2 = { s with parsers := s.parsers.add ⟨type, parse, default?⟩ })
            ∧ (¬ sound → ∃ q, result = (.error (.problem q), s))
            ∧ (result.1 ≠ .ok (.flag true) →
              (∃ added, result.2.parsers.entries = s.parsers.entries ++ added
                ∧ ∀ e ∈ added, (∃ receive, s.fallback? = some receive)
                  ∧ ∃ f u v, Course (delivering s f) u ∧ Accepts u e v ∧ Course v result.2)
              ∧ (ReceiverKeeps (start depth) (·.parsers) s → result.2.parsers = s.parsers)) := by
  obtain ⟨settings, history, -, -, rfl⟩ := exists_of_openWith_eq_ok hopen
  have hiff : ∀ {type e}, s.parsers.entry? type = some e ↔ _ := hcourse.entry?_eq_some_iff rfl
  refine ⟨hcourse.distinct Parsers.distinct_empty, fun _ _ => hiff, fun type x => ?_,
    fun depth type candidate default? => ?_⟩
  · unfold Parsers.default?
    rw [Option.bind_eq_some_iff]
    constructor
    · rintro ⟨e, hentry, hx⟩
      obtain ⟨u, v, hu, hfirst, hv⟩ := hiff.1 hentry
      exact ⟨e, u, v, hu, hfirst, hv, hx⟩
    · rintro ⟨e, u, v, hu, hfirst, hv, hx⟩
      exact ⟨e, hiff.2 ⟨u, v, hu, hfirst, hv⟩, hx⟩
  · intro result sound
    have hends := typeRegistration (start depth) s type candidate default?
    rw [show result = flagged _ from within_perform_registerType _ s _ _ _]
    generalize within s (registerType (start depth) type candidate default?) = call at hends
    have htrue := flagged_eq_true_iff call
    refine ⟨?_, fun h => hends.exists_added (htrue.1 h), fun hrefused => ?_, fun h => ?_⟩
    · rw [htrue, hends.eq_true_iff, and_assoc]
    · obtain ⟨q, rfl⟩ := hends.exists_of_refused hrefused
      exact ⟨q, rfl⟩
    · have hfalse := mt htrue.2 h
      exact ⟨hends.exists_of_receiver hfalse, fun hreceiver => hends.parsers_eq hreceiver hfalse⟩

/-- A class that was registered with the absent object for its zero value keeps it: a
second call that gives another one is not accepted. -/
theorem first_parser_stands_tag :
    let tag := Ty.host "host" "Tag"
    ∃ s₀ : Session Unit, openWith .standard .quiet = .ok s₀
      ∧ let s := s₀.after [.registerType tag (.routine fun _ => .answer .nothing) (some .none)]
        let result := operate s (.registerType tag (.routine fun token => .answer (.text token))
          (some (.text "blank")))
        result.1 ≠ .ok (.flag true) ∧ result.2.parsers = s.parsers
          ∧ result.2.parsers.default? tag = some .none := by
  intro tag
  obtain ⟨s₀, hopen⟩ : ∃ s₀ : Session Unit, openWith .standard .quiet = .ok s₀ := ⟨_, rfl⟩
  refine ⟨s₀, hopen, ?_⟩
  intro s result
  obtain ⟨settings, history, -, -, hs₀⟩ := exists_of_openWith_eq_ok hopen
  let e : ParserEntry (Program Unit) := ⟨tag, fun _ => .answer .nothing, some .none⟩
  have hs : s = { s₀ with parsers := s₀.parsers.add e } := by
    have haccepts : Accepts s₀ e { s₀ with parsers := s₀.parsers.add e } :=
      accepts_iff.2 ⟨rfl, by rw [hs₀]; rfl, rfl⟩
    exact congrArg Prod.snd (haccepts maxDepth)
  have hentry : s.parsers.entry? tag = some e := by
    rw [hs, hs₀]
    rfl
  obtain ⟨-, -, -, hcalls⟩ := first_parser_stands hopen (course_after s₀ _)
  obtain ⟨hiff, -, -, hnone⟩ := hcalls maxDepth tag (.routine fun token => .answer (.text token))
    (some (.text "blank"))
  have hfalse : result.1 ≠ .ok (.flag true) := fun h =>
    Bool.false_ne_true ((hiff.1 h).2.symm.trans (Parsers.contains_eq_true hentry))
  have hparsers : result.2.parsers = s.parsers := by
    refine (hnone hfalse).2 fun receive hreceive => ?_
    have hfallback : s.fallback? = none := by rw [hs, hs₀]; rfl
    cases hfallback.symm.trans hreceive
  refine ⟨hfalse, hparsers, ?_⟩
  rw [hparsers]
  unfold Parsers.default?
  rw [hentry]
  rfl

end CommandConsole.Session
