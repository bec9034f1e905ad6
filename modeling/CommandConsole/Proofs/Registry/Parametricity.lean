/-
What registries do not look at.

A registry of commands keeps routines and hands them out, but it does not look
into them. So two registries whose commands differ in their routines alone, by
a relation `R` of what the routines make (`Registry.Alike`), answer alike: a
spelling finds commands in both that are alike (`Registry.rel_find?`), a line
asks for the same thing in both (`Registry.alike_dispatch`), and registering
and removing leaves them alike (`Registry.alike_insert`,
`Registry.alike_erase`). The same holds of the registered parsers and the
routes through them (`Parsers.rel_route`, `Parsers.rel_register`).
-/
import CommandConsole.Parsers
import CommandConsole.Dispatch
import CommandConsole.Proofs.Relations

namespace CommandConsole

variable {ρ : Type} {R : ρ → ρ → Prop}

-- ================================================================ commands

/-- Two commands that differ in their routines alone, which make what is
related. -/
inductive Command.Alike (R : ρ → ρ → Prop) : Command ρ → Command ρ → Prop
  | mk (outline : Outline) {callback callback' : List Object → ρ}
      (hcallback : ∀ objects, R (callback objects) (callback' objects))
      {default? default?' : Option (List Object → ρ)}
      (hdefault : Option.Rel (fun routine routine' => ∀ objects, R (routine objects)
        (routine' objects)) default? default?') :
      Command.Alike R ⟨outline, callback, default?⟩ ⟨outline, callback', default?'⟩

namespace Command.Alike

variable {c d : Command ρ} (h : Command.Alike R c d)

include h

theorem outline_eq : c.outline = d.outline := by
  cases h with
  | mk => rfl

theorem callback (objects : List Object) : R (c.callback objects) (d.callback objects) := by
  cases h with
  | mk _ hcallback _ => exact hcallback objects

theorem default? :
    Option.Rel (fun routine routine' => ∀ objects, R (routine objects) (routine' objects))
      c.default? d.default? := by
  cases h with
  | mk _ _ hdefault => exact hdefault

theorem isSome_default? : c.default?.isSome = d.default?.isSome := by
  cases h with
  | mk _ _ hdefault =>
      cases hdefault with
      | none => rfl
      | some _ => rfl

theorem markCustom : Command.Alike R (Registry.markCustom c) (Registry.markCustom d) := by
  cases h with
  | mk outline hcallback hdefault => exact .mk { outline with custom := true } hcallback hdefault

end Command.Alike

/-- What lines ask for that differ in routines alone. -/
inductive Dispatch.Alike (R : ρ → ρ → Prop) : Dispatch ρ → Dispatch ρ → Prop
  | unknown (token : String) : Dispatch.Alike R (.unknown token) (.unknown token)
  | bare {c d : Command ρ} (h : c.Alike R d) {routine routine' : List Object → ρ}
      (hroutine : ∀ objects, R (routine objects) (routine' objects)) :
      Dispatch.Alike R (.bare c routine) (.bare d routine')
  | mismatch {c d : Command ρ} (h : c.Alike R d) (given : Nat) :
      Dispatch.Alike R (.mismatch c given) (.mismatch d given)
  | call {c d : Command ρ} (h : c.Alike R d) (arguments : List (String × Parameter)) :
      Dispatch.Alike R (.call c arguments) (.call d arguments)

-- ============================================================== registries

namespace Registry

/-- Two registries whose commands differ in their routines alone. -/
def Alike (R : ρ → ρ → Prop) (r r' : Registry ρ) : Prop :=
  List.Forall₂ (fun entry entry' => entry.1 = entry'.1 ∧ entry.2.Alike R entry'.2)
    r.entries r'.entries

variable {r r' : Registry ρ}

theorem Alike.commands (h : r.Alike R r') :
    List.Forall₂ (Command.Alike R) r.commands r'.commands :=
  List.rel_map (fun _ _ hentry => hentry.2) h

theorem Alike.outlines_eq (h : r.Alike R r') : r'.outlines = r.outlines := by
  unfold outlines
  exact (map_eq_map (fun hc => hc.outline_eq) h.commands).symm

theorem Alike.taken_eq (h : r.Alike R r') : r'.taken = r.taken := by
  unfold taken
  rw [h.outlines_eq]

theorem Alike.conflicts_eq (h : r.Alike R r') (o : Outline) :
    r'.conflicts o = r.conflicts o := by
  unfold conflicts
  rw [h.taken_eq]

theorem Alike.similar_eq (h : r.Alike R r') (token : String) :
    r'.similar token = r.similar token := by
  unfold similar
  rw [h.taken_eq]

-- =============================================================== looking up

theorem rel_named? (h : r.Alike R r') (key : String) :
    Option.Rel (Command.Alike R) (r.named? key) (r'.named? key) := by
  have hfound := rel_find? (p := fun entry => entry.1 == key) (q := fun entry => entry.1 == key)
    (fun {x y} hentry => by rw [hentry.1]) h
  unfold named?
  rcases rel_option_cases hfound with ⟨hnone, hnone'⟩ | ⟨entry, entry', hsome, hsome', hentry⟩
  · rw [hnone, hnone']
    exact .none
  · rw [hsome, hsome']
    exact .some hentry.2

/-- A spelling finds commands that are alike. -/
theorem rel_find? (h : r.Alike R r') (spelling : String) :
    Option.Rel (Command.Alike R) (r.find? spelling) (r'.find? spelling) := by
  unfold find?
  dsimp only
  split
  · exact .none
  · rcases rel_option_cases (rel_named? h (Text.canonical spelling)) with
      ⟨hnone, hnone'⟩ | ⟨c, d, hsome, hsome', hc⟩
    · rw [hnone, hnone']
      exact CommandConsole.rel_find? (fun hc => by rw [hc.outline_eq]) h.commands
    · rw [hsome, hsome']
      exact .some hc

/-- The command under a key is alike, or the key is refused in both. -/
theorem rel_get (h : r.Alike R r') (key : Object) :
    Except.Rel (· = ·) (Command.Alike R) (r.get key) (r'.get key) := by
  unfold get keyed?
  cases key with
  | text name =>
      rcases rel_option_cases (rel_named? h name) with
        ⟨hnone, hnone'⟩ | ⟨c, d, hsome, hsome', hc⟩
      · dsimp only
        rw [hnone, hnone']
        exact .error rfl
      · dsimp only
        rw [hsome, hsome']
        exact .ok hc
  | _ =>
      dsimp only
      split
      · exact .error rfl
      · exact .error rfl

theorem recordedName_eq (h : r.Alike R r') (line : String) :
    r'.recordedName line = r.recordedName line := by
  unfold recordedName
  dsimp only
  rcases rel_option_cases (rel_find? h ((Line.tokens line).headD "")) with
    ⟨hnone, hnone'⟩ | ⟨c, d, hsome, hsome', hc⟩
  · rw [hnone, hnone']
  · rw [hsome, hsome']
    exact congrArg Outline.name hc.outline_eq.symm

theorem hint_eq (h : r.Alike R r') (line : String) : r'.hint line = r.hint line := by
  unfold hint
  dsimp only
  rcases rel_option_cases (rel_find? h ((Line.tokens line).headD "")) with
    ⟨hnone, hnone'⟩ | ⟨c, d, hsome, hsome', hc⟩
  · rw [hnone, hnone']
  · rw [hsome, hsome']
    exact congrArg (Outline.remainingUsage · _) hc.outline_eq.symm

theorem alike_request {c d : Command ρ} (hc : c.Alike R d) (words : List String) :
    (request c words).Alike R (request d words) := by
  unfold request
  dsimp only
  rw [← hc.outline_eq]
  generalize (Line.fold words c.outline.parameters.length).tail = arguments
  have hrest : Dispatch.Alike R
      (if arguments.length = c.outline.parameters.length then
        .call c (arguments.zip c.outline.parameters) else .mismatch c arguments.length)
      (if arguments.length = c.outline.parameters.length then
        .call d (arguments.zip c.outline.parameters) else .mismatch d arguments.length) := by
    split
    · exact .call hc _
    · exact .mismatch hc _
  rcases rel_option_cases hc.default? with
    ⟨hnone, hnone'⟩ | ⟨routine, routine', hsome, hsome', hroutine⟩
  · rw [hnone, hnone']
    cases arguments with
    | nil => exact hrest
    | cons first rest => exact hrest
  · rw [hsome, hsome']
    cases arguments with
    | nil => exact .bare hc hroutine
    | cons first rest => exact hrest

/-- A line asks for the same thing. -/
theorem alike_dispatch (h : r.Alike R r') (line : String) :
    (r.dispatch line).Alike R (r'.dispatch line) := by
  unfold dispatch
  dsimp only
  rcases rel_option_cases (rel_find? h ((Line.tokens line).headD "")) with
    ⟨hnone, hnone'⟩ | ⟨c, d, hsome, hsome', hc⟩
  · rw [hnone, hnone']
    exact .unknown _
  · rw [hsome, hsome']
    exact alike_request hc _

-- ============================================================ registration

theorem forall₂_place {key : String} {c d : Command ρ} (hc : c.Alike R d)
    {entries entries' : List (String × Command ρ)}
    (h : List.Forall₂ (fun entry entry' => entry.1 = entry'.1 ∧ entry.2.Alike R entry'.2)
      entries entries') :
    List.Forall₂ (fun entry entry' => entry.1 = entry'.1 ∧ entry.2.Alike R entry'.2)
      (place key c entries) (place key d entries') := by
  induction h with
  | nil => exact .cons ⟨rfl, hc⟩ .nil
  | cons hentry hrest ih =>
      rw [place, place, hentry.1]
      split
      · exact .cons ⟨rfl, hc⟩ hrest
      · exact .cons hentry ih

/-- Registering commands that are alike leaves the registries alike. -/
theorem alike_insert (h : r.Alike R r') {c d : Command ρ} (hc : c.Alike R d) (custom : Bool) :
    (r.insert c custom).1 = (r'.insert d custom).1
      ∧ (r.insert c custom).2.Alike R (r'.insert d custom).2 := by
  unfold insert
  rw [← hc.outline_eq, h.conflicts_eq]
  split
  · exact ⟨rfl, h⟩
  · refine ⟨rfl, forall₂_place ?_ h⟩
    cases custom with
    | false => exact hc
    | true => exact hc.markCustom

/-- Removing a command leaves the registries alike. -/
theorem alike_erase (h : r.Alike R r') (spelling : String) :
    (r.erase spelling).1 = (r'.erase spelling).1
      ∧ (r.erase spelling).2.Alike R (r'.erase spelling).2 := by
  unfold erase
  rcases rel_option_cases (rel_find? h spelling) with
    ⟨hnone, hnone'⟩ | ⟨c, d, hsome, hsome', hc⟩
  · rw [hnone, hnone']
    exact ⟨rfl, h⟩
  · rw [hsome, hsome']
    dsimp only
    rw [← hc.outline_eq]
    split
    · exact ⟨rfl, h⟩
    · refine ⟨rfl, List.rel_filter (fun entry entry' hentry => ?_) h⟩
      exact iff_of_eq (congrArg (fun key => (key != c.outline.name) = true) hentry.1)

end Registry

-- ================================================================= parsers

/-- Two entries of parsers that differ in their routines alone. -/
structure ParserEntry.Alike (R : ρ → ρ → Prop) (e e' : ParserEntry ρ) : Prop where
  type : e.type = e'.type
  parse : ∀ token, R (e.parse token) (e'.parse token)
  default? : e.default? = e'.default?

/-- Routes that differ in the program of the parser alone. -/
inductive Route.Alike (R : ρ → ρ → Prop) : Route ρ → Route ρ → Prop
  | absent : Route.Alike R .absent .absent
  | convert (c : Conversion) : Route.Alike R (.convert c) (.convert c)
  | parse {program program' : ρ} (h : R program program') :
      Route.Alike R (.parse program) (.parse program')
  | unknown : Route.Alike R .unknown .unknown

namespace Parsers

/-- Registered parsers that differ in their routines alone. -/
def Alike (R : ρ → ρ → Prop) (ps ps' : Parsers ρ) : Prop :=
  List.Forall₂ (ParserEntry.Alike R) ps.entries ps'.entries

variable {ps ps' : Parsers ρ} (h : ps.Alike R ps')

include h

theorem rel_entryOf (type : Ty) :
    Option.Rel (ParserEntry.Alike R) (ps.entry? type) (ps'.entry? type) :=
  CommandConsole.rel_find? (fun he => by rw [he.type]) h

theorem Alike.default?_eq (type : Ty) : ps'.default? type = ps.default? type := by
  unfold default?
  rcases rel_option_cases (rel_entryOf h type) with ⟨hnone, hnone'⟩ | ⟨e, e', hsome, hsome', he⟩
  · rw [hnone, hnone']
  · rw [hsome, hsome']
    exact he.default?.symm

theorem Alike.contains_eq (type : Ty) : ps'.contains type = ps.contains type :=
  (isSome_eq_of_rel (rel_entryOf h type)).symm

theorem Alike.isValueType_eq (type : Ty) : ps'.isValueType type = ps.isValueType type := by
  unfold isValueType
  rw [h.default?_eq]

theorem Alike.zero_eq (type : Ty) : ps'.zero type = ps.zero type := by
  unfold zero
  simp only [h.default?_eq]

theorem alike_routeByType (token : String) (type : Ty) :
    (ps.routeByType token type).Alike R (ps'.routeByType token type) := by
  unfold routeByType
  rw [h.isValueType_eq, h.zero_eq]
  split
  · exact .convert _
  · rcases rel_option_cases (rel_entryOf h type) with ⟨hnone, hnone'⟩ | ⟨e, e', hsome, hsome', he⟩
    · rw [hnone, hnone']
      dsimp only
      split
      · exact .convert _
      · exact .unknown
    · rw [hsome, hsome']
      exact .parse (he.parse token)

/-- A token is converted along the same route, or refused. -/
theorem rel_route (token : String) (p : Parameter) :
    Except.Rel (· = ·) (Route.Alike R) (ps.route token p) (ps'.route token p) := by
  have htyped := alike_routeByType h token
  unfold route
  dsimp only
  split
  · split
    · exact .ok .absent
    · cases key p.type with
      | error q => exact .error rfl
      | ok type => exact .ok (htyped type)
  · cases key p.type with
    | error q => exact .error rfl
    | ok type =>
        show Except.Rel _ _ (if _ then _ else _) (if _ then _ else _)
        rw [h.isValueType_eq]
        split
        · exact .ok .absent
        · exact .ok (htyped type)

/-- Registering parsers that are alike leaves the parsers alike. -/
theorem rel_register (type : Ty) {parse parse' : String → ρ}
    (hparse : ∀ token, R (parse token) (parse' token)) (default? : Option Object) :
    Except.Rel (· = ·) (fun result result' => result.1 = result'.1 ∧ result.2.Alike R result'.2)
      (ps.register type (.routine parse) default?)
      (ps'.register type (.routine parse') default?) := by
  unfold register
  dsimp only
  cases key type with
  | error q => exact .error rfl
  | ok type =>
      show Except.Rel _ _ (if _ then _ else _) (if _ then _ else _)
      rw [h.contains_eq]
      split
      · exact .ok ⟨rfl, h⟩
      · exact .ok ⟨rfl, List.rel_append h (.cons ⟨rfl, hparse, rfl⟩ .nil)⟩

end Parsers

end CommandConsole
