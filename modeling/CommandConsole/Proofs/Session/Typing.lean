/-
The values that tokens are converted to.

A token for a parameter whose type has no parser leaves the argument out, and
then it gives the absent value, or an object of the type is made of it
(`Parsers.unparsed_route`). An object of a type is never the absent one, and
so the kind of the value tells the two cases apart (`coerce_sound`).

What a class of the host makes is known to the host alone. It is taken to be
of the class. If the type is no class of the host either, no host code is
called to convert a token for it (`Unaided`). Then converting leaves the
session as it is, and every object that comes of it is what the token gives
for the parameter (`Given`, `coerceAll_unaided`).
-/
import Mathlib.Data.List.Forall2
import Mathlib.Logic.Basic
import CommandConsole.Proofs.Session.Conversion
import CommandConsole.Script.Standard

namespace CommandConsole

theorem Ty.valueKind_ne_null (type : Ty) : type.valueKind ≠ .null := by
  cases type with
  | _ => exact nofun

/-- An object of a type is a value of the kind that the type decides. -/
theorem Value.ofObject_of_isOf {x : Object} {type : Ty} (h : x.IsOf type) :
    Value.ofObject x type = ⟨type.valueKind, x, type⟩ := by
  unfold Value.ofObject
  split
  · exact absurd rfl h.ne_none
  · rfl

-- ================================================================== values

namespace Session

open CommandConsole.Action

variable {σ : Type} {start : Program σ → Action σ Reply} {s t : Session σ} {token : String}
  {p : Parameter}

/-- What a class of the host makes for a type is of the type. -/
def Constructs (start : Program σ → Action σ Reply) (s : Session σ) (type : Ty) : Prop :=
  ∀ {home name arguments u r v}, type = .host home name →
    within u (start (s.construct home name arguments)) = (.ok r, v) → r.value.IsOf type

/-- What a token comes to for a parameter whose type has no parser. -/
inductive Comes (start : Program σ → Action σ Reply) (s : Session σ) (token : String)
    (p : Parameter) : Except Raised Value × Session σ → Prop
  | leftOut (h : s.parsers.LeavesOut token p) (t : Session σ) :
      Comes start s token p (.ok (Value.absent p.type), t)
  | object (h : ¬ s.parsers.LeavesOut token p) {x : Object} (hx : x.IsOf p.type)
      (htext : p.type = .text → x = .text token) (t : Session σ) :
      Comes start s token p (.ok ⟨p.type.valueKind, x, p.type⟩, t)
  /-- It is refused, by no more than an error about the token or the type. -/
  | refused {e : Raised} (h : ∀ q, e = .problem q → q.kind ≠ .assertionError) (t : Session σ) :
      Comes start s token p (.error e, t)
  /-- The class of the host that it was given to has raised an error. -/
  | raised {home name : String} {arguments : List Object} {e : Raised} {t : Session σ}
      (htype : p.type = .host home name)
      (h : within { s with events := .constructed home name arguments :: s.events }
        (start (s.construct home name arguments)) = (.error e, t)) :
      Comes start s token p (.error e, t)

theorem comes_coerce (hparser : s.parsers.contains p.type = false)
    (hclass : Constructs start s p.type) :
    Comes start s token p (within s (coerce start token p)) := by
  rw [within_coerce]
  have hroute := Parsers.unparsed_route (p := p) hparser token
  generalize s.parsers.route token p = result at hroute
  cases hroute with
  | leftOut hleft => exact .leftOut hleft s
  | unknown =>
      refine .refused (e := .fault (Fault.unknownType p.type)) (fun q hq => ?_) s
      cases hq
  | refused cls =>
      refine .refused (e := .problem (.unhashable cls)) (fun q hq => ?_) s
      cases hq
      exact nofun
  | made hkept hmakes htext =>
      cases hmakes with
      | object hx =>
          dsimp only
          rw [Value.ofObject_of_isOf hx]
          exact .object hkept hx (fun h => Conversion.object.inj (htext h)) s
      | @problem q hkind =>
          refine .refused (e := .problem q) (fun q hq => ?_) s
          cases hq
          exact hkind
      | @host home name htype arguments =>
          dsimp only
          rcases hresult : within { s with events := .constructed home name arguments :: s.events }
            (start (s.construct home name arguments)) with ⟨e | r, t⟩
          · exact .raised htype hresult
          · have hr := hclass htype hresult
            show Comes start s token p (.ok (Value.ofObject r.value p.type), t)
            rw [Value.ofObject_of_isOf hr]
            refine .object hkept hr (fun h => ?_) t
            cases htype.symm.trans h

/-- A value that a token is converted to for a parameter whose type has no
parser is of that type. It is the absent value just if the token leaves the
argument out. Otherwise it is of the kind that the type decides, which is
never that of the absent value, and its object is of the type; a text is the
token itself. A conversion that fails never says that it was given a kind of
values that nobody handles, unless a class of the host says so. -/
theorem coerce_sound (hparser : s.parsers.contains p.type = false)
    (hclass : Constructs start s p.type) :
    (∀ v t, within s (coerce start token p) = (.ok v, t) →
      v.type = p.type
        ∧ (v = Value.absent p.type ↔ s.parsers.LeavesOut token p)
        ∧ Xor (v = Value.absent p.type)
            (v.kind = p.type.valueKind ∧ v.object.IsOf p.type
              ∧ (p.type = .text → v.object = .text token)))
      ∧ p.type.valueKind ≠ .null
      ∧ ∀ q t, within s (coerce start token p) = (.error (.problem q), t) →
          q.kind ≠ .assertionError
            ∨ ∃ home name arguments, p.type = .host home name
              ∧ within { s with events := .constructed home name arguments :: s.events }
                  (start (s.construct home name arguments)) = (.error (.problem q), t) := by
  have hcomes : Comes start s token p (within s (coerce start token p)) :=
    comes_coerce hparser hclass
  refine ⟨fun v t hv => ?_, p.type.valueKind_ne_null, fun q t hq => ?_⟩
  · rw [hv] at hcomes
    cases hcomes with
    | leftOut hleft =>
        refine ⟨rfl, iff_of_true rfl hleft, .inl ⟨rfl, ?_⟩⟩
        exact fun h => p.type.valueKind_ne_null h.1.symm
    | @object hkept x hx htext =>
        have hne : Value.mk p.type.valueKind x p.type ≠ Value.absent p.type := fun h =>
          p.type.valueKind_ne_null (congrArg Value.kind h)
        exact ⟨rfl, iff_of_false hne hkept, .inr ⟨⟨rfl, hx, htext⟩, hne⟩⟩
  · rw [hq] at hcomes
    cases hcomes with
    | refused h => exact .inl (h q rfl)
    | raised htype h => exact .inr ⟨_, _, _, htype, h⟩

/-- What the classes of a scripted host make is of the class that was asked
for it. -/
theorem constructs_script (hscript : s.construct = Script.construct) (depth : Nat) (type : Ty) :
    Constructs (Session.start (depth + 1)) s type := by
  rintro home name arguments u r v rfl hmade
  have hdone : within u (Session.start (depth + 1) (Script.construct home name arguments))
      = ((Script.constructed name arguments).map .object, u) :=
    Program.within_execute_done _ u _
  rw [hscript, hdone] at hmade
  cases hobject : Script.constructed name arguments with
  | error e =>
      rw [hobject] at hmade
      cases hmade
  | ok x =>
      rw [hobject] at hmade
      cases hmade
      unfold Script.constructed at hobject
      split at hobject
      · cases hobject
      · cases hobject
      · cases hobject
        exact .host rfl nofun
      · cases hobject
      · split at hobject
        · cases hobject
        · cases hobject
          exact .host rfl nofun
      · cases hobject
        exact .host rfl nofun

/-- A session whose host has a class that makes a tag of a text. -/
def tagging : Session Unit :=
  beginning ⟨"devconsole", true, false, true, false⟩ (History.empty 10) false
    ⟨⟨80, false⟩, .quiet, Script.construct, ()⟩

/-- A token for a parameter of that class gives a tag. -/
theorem coerce_sound_tag :
    let p : Parameter := ⟨"label", "", .host "host" "Tag", false⟩
    ∃ v t, within tagging (coerce (Session.start 1) "x" p) = (.ok v, t)
      ∧ v.kind = .custom ∧ v.object.IsOf p.type := by
  intro p
  obtain ⟨v, t, hv, hpresent⟩ : ∃ v t, within tagging (coerce (Session.start 1) "x" p) = (.ok v, t)
      ∧ v.object = Script.tag "x" :=
    ⟨_, _, rfl, rfl⟩
  obtain ⟨-, -, hone⟩ := (coerce_sound (p := p) rfl (constructs_script rfl 0 p.type)).1 v t hv
  rcases hone with ⟨habsent, -⟩ | ⟨⟨hkind, hobject, -⟩, -⟩
  · rw [habsent] at hpresent
    cases hpresent
  · exact ⟨v, t, hv, hkind, hobject⟩

-- ======================================================= without host code

/-- No host code is called to convert tokens for a parameter: its type has no
parser and is no class of the host. -/
structure Unaided {ρ : Type} (ps : Parsers ρ) (p : Parameter) : Prop where
  contains_eq : ps.contains p.type = false
  type_ne : ∀ home name, p.type ≠ .host home name

/-- An object is what a token gives for a parameter without host code: the
absent one, if the token leaves the argument out, or else one of the type; a
text is the token itself. -/
def Given {ρ : Type} (ps : Parsers ρ) (a : String × Parameter) (x : Object) : Prop :=
  ps.LeavesOut a.1 a.2 ∧ x = .none
    ∨ x.IsOf a.2.type ∧ (a.2.type = .text → x = .text a.1)

/-- What is given for an argument of a type with a zero value is of the
type. -/
theorem Given.isOf {ρ : Type} {ps : Parsers ρ} {a : String × Parameter} {x : Object}
    (h : Given ps a x) (hnullable : a.2.nullable = false)
    (hvalue : ps.isValueType a.2.type = true) : x.IsOf a.2.type := by
  rcases h with ⟨⟨hmay | hmay, -⟩ | ⟨hmay, -⟩, -⟩ | ⟨hx, -⟩
  · exact absurd (hnullable.symm.trans hmay) Bool.false_ne_true
  · exact absurd (hmay.symm.trans hvalue) Bool.false_ne_true
  · exact absurd (hnullable.symm.trans hmay) Bool.false_ne_true
  · exact hx

/-- What is given for an argument that is a text is the text, or the absent
object for one of the words for it. -/
theorem Given.text_or_none {ρ : Type} {ps : Parsers ρ} {a : String × Parameter} {x : Object}
    (h : Given ps a x) (hnullable : a.2.nullable = false) (htype : a.2.type = .text) :
    x = .text a.1 ∨ x = .none ∧ Text.lower a.1 ∈ nullWords := by
  rcases h with ⟨⟨-, hword⟩ | ⟨hmay, -⟩, hnone⟩ | ⟨-, htext⟩
  · exact .inr ⟨hnone, hword⟩
  · exact absurd (hnullable.symm.trans hmay) Bool.false_ne_true
  · exact .inl (htext htype)

section

variable (start)

/-- Converting a token without host code leaves the session as it is. -/
theorem coerce_unaided {a : String × Parameter} (h : Unaided s.parsers a.2) :
    (∃ e, within s (coerce start a.1 a.2) = (.error e, s) ∧ e.isCaught = true)
      ∨ ∃ v, within s (coerce start a.1 a.2) = (.ok v, s) ∧ Given s.parsers a v.object := by
  rw [within_coerce]
  have hroute := Parsers.unparsed_route h.contains_eq a.1
  generalize s.parsers.route a.1 a.2 = result at hroute
  cases hroute with
  | leftOut hleft => exact .inr ⟨_, rfl, .inl ⟨hleft, rfl⟩⟩
  | unknown => exact .inl ⟨_, rfl, rfl⟩
  | refused cls => exact .inl ⟨_, rfl, rfl⟩
  | made _ hmakes htext =>
      cases hmakes with
      | problem _ => exact .inl ⟨_, rfl, rfl⟩
      | host htype _ => exact absurd htype (h.type_ne _ _)
      | object hx =>
          refine .inr ⟨_, rfl, .inr ?_⟩
          rw [Value.ofObject_of_isOf hx]
          exact ⟨hx, fun htype => Conversion.object.inj (htext htype)⟩

/-- So does converting some tokens. Each of them gives an object, or one of
them gives none. -/
theorem coerceAll_unaided : ∀ (arguments : List (String × Parameter)) (index : Nat),
    (∀ a ∈ arguments, Unaided s.parsers a.2) →
      (∃ f, within s (coerceAll start index arguments) = (.ok (.error f), s))
        ∨ ∃ objects, within s (coerceAll start index arguments) = (.ok (.ok objects), s)
          ∧ List.Forall₂ (Given s.parsers) arguments objects := by
  intro arguments
  induction arguments with
  | nil => exact fun _ _ => .inr ⟨[], rfl, .nil⟩
  | cons a rest ih =>
      intro index h
      obtain ⟨ha, hrest⟩ := List.forall_mem_cons.1 h
      rw [within_coerceAll_cons]
      rcases coerce_unaided start ha with ⟨e, hfirst, hcaught⟩ | ⟨v, hfirst, hv⟩
      · rw [hfirst]
        dsimp only
        rw [if_pos hcaught]
        exact .inl ⟨_, rfl⟩
      · rw [hfirst]
        dsimp only
        rcases ih (index + 1) hrest with ⟨f, hlater⟩ | ⟨objects, hlater, hgiven⟩
        · rw [hlater]
          exact .inl ⟨f, rfl⟩
        · rw [hlater]
          exact .inr ⟨v.object :: objects, rfl, .cons hv hgiven⟩

end

end Session

end CommandConsole
