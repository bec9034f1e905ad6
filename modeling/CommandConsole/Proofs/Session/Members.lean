/-
The members of an enumeration that tokens come to.

A token comes to the member that the first name spells which is the token up to the
case of its letters (`IsFirstSpelled`). A name of the enumeration is such a token, and so
it selects its own member, unless a name before it differs by no more than case and
spells another one (`coerce_name`).

The word for the zero value comes to what the enumeration has for zero. If no member has
the value zero, that is the first member; but among flags it is the combination of none,
which is no member (`coerce_zero`).
-/
import Mathlib
import CommandConsole.Proofs.Session.Typing
import CommandConsole.Proofs.Session.Words

namespace CommandConsole

namespace Enumeration

variable {e : Enumeration} {token name : String} {m : Object} {entry : String × Object}

-- =================================================================== names

/-- An entry is the first one whose name is a token up to the case of the letters. -/
structure IsFirstSpelled (e : Enumeration) (token : String) (entry : String × Object) : Prop where
  lower_eq : Text.lower entry.1 = Text.lower token
  exists_before : ∃ before after, e.named = before ++ entry :: after
    ∧ ∀ other ∈ before, Text.lower other.1 ≠ Text.lower token

theorem IsFirstSpelled.mem_named (h : e.IsFirstSpelled token entry) : entry ∈ e.named := by
  obtain ⟨before, after, hnamed, -⟩ := h.exists_before
  rw [hnamed]
  exact List.mem_append_right before List.mem_cons_self

/-- Such an entry is what a token is looked up by. -/
theorem IsFirstSpelled.toMember_eq (h : e.IsFirstSpelled token entry) :
    Token.toMember e token = .ok entry.2 := by
  obtain ⟨before, after, hnamed, hbefore⟩ := h.exists_before
  have hfind : (e.named.find? fun other => Text.lower other.1 == Text.lower token)
      = some entry := by
    refine List.find?_eq_some_iff_append.2 ⟨beq_iff_eq.2 h.lower_eq, before, after, hnamed, ?_⟩
    intro other hother
    simpa using hbefore other hother
  unfold Token.toMember
  rw [hfind]

theorem mem_of_lookup_eq_some {entries : List (String × Object)}
    (h : entries.lookup name = some m) : (name, m) ∈ entries := by
  obtain ⟨before, after, rfl, -⟩ := List.lookup_eq_some_iff.1 h
  exact List.mem_append_right before List.mem_cons_self

/-- The entry of a name is the first one that is spelled by it, or it comes after that
one. -/
theorem exists_isFirstSpelled (h : e.memberNamed? name = some m) :
    ∃ entry, e.IsFirstSpelled name entry
      ∧ (entry = (name, m) ∨ entry.1 ≠ name ∧ [entry, (name, m)].Sublist e.named) := by
  have hlookup : e.named.lookup name = some m := h
  have hmem : (name, m) ∈ e.named := mem_of_lookup_eq_some hlookup
  have hspelled : (e.named.find? fun other => Text.lower other.1 == Text.lower name).isSome := by
    rw [List.find?_isSome]
    exact ⟨(name, m), hmem, beq_self_eq_true _⟩
  obtain ⟨entry, hentry⟩ := Option.isSome_iff_exists.1 hspelled
  obtain ⟨hlower, before, after, hsplit, hbefore⟩ := List.find?_eq_some_iff_append.1 hentry
  refine ⟨entry, ⟨beq_iff_eq.1 hlower, before, after, hsplit, ?_⟩, ?_⟩
  · intro other hother
    simpa using hbefore other hother
  · -- no name before the first one that is spelled is the name itself
    have hskip : before.lookup name = none := by
      rw [List.lookup_eq_none_iff]
      intro other hother
      have hne : Text.lower other.1 ≠ Text.lower name := by simpa using hbefore other hother
      simp only [bne_iff_ne, ne_eq]
      rintro rfl
      exact hne rfl
    have hrest : (entry :: after).lookup name = some m := by
      rw [hsplit, List.lookup_append, hskip] at hlookup
      exact hlookup
    by_cases hname : entry.1 = name
    · left
      obtain ⟨first, x⟩ := entry
      cases hname
      have hx : x = m := by simpa using hrest
      rw [hx]
    · right
      have hafter : (name, m) ∈ after := by
        have hne : (name == entry.1) = false := by simpa using Ne.symm hname
        rw [List.lookup_cons, hne] at hrest
        exact mem_of_lookup_eq_some hrest
      refine ⟨hname, ?_⟩
      rw [hsplit]
      have hpair : [entry, (name, m)].Sublist (entry :: after) :=
        (List.singleton_sublist.2 hafter).cons_cons entry
      exact hpair.trans (List.sublist_append_right before _)

-- ================================================================ values

/-- The first entry whose value is zero, as the class that is asked for zero finds it. -/
def firstZero? (e : Enumeration) : Option (String × Object) :=
  e.entries.find? fun entry => entry.2.same (.int 0)

theorem memberWith?_zero (e : Enumeration) :
    e.memberWith? (.int 0) = e.firstZero?.map e.memberOf :=
  rfl

/-- The first member of all is that of the first entry, which is no alias. -/
theorem members_head? (hflags : e.cls.hasFlags = false) :
    e.members.head? = e.entries.head?.map e.memberOf := by
  have hall : (fun entry : String × Object => !e.cls.hasFlags || isSingle entry.2)
      = fun _ => true := by
    funext entry
    rw [hflags]
    rfl
  unfold members ownEntries
  rw [hall, List.filter_eq_self.2 fun _ _ => rfl, List.head?_map]
  cases e.entries with
  | nil => rfl
  | cons first rest => rfl

theorem zero_of_entry (h : e.firstZero? = some entry) : e.zero = .ok (e.memberOf entry) := by
  have hmember : e.memberWith? (.int 0) = some (e.memberOf entry) := by
    rw [memberWith?_zero, h]
    rfl
  unfold zero ofNumber
  rw [hmember]

section

variable (hnone : e.firstZero? = none)

include hnone

theorem memberWith?_eq_none : e.memberWith? (.int 0) = none := by
  rw [memberWith?_zero, hnone]
  rfl

theorem zero_of_search {y : Object} (hsearch : e.search? = some y) :
    e.zero = .error (.notCallable y.className) := by
  unfold zero ofNumber
  rw [memberWith?_eq_none hnone, hsearch]

theorem zero_of_flags (hsearch : e.search? = none) (hflags : e.cls.hasFlags = true) :
    e.zero = .ok (.member e.cls none (.int 0) []) := by
  have hmember : e.memberWith? (.int 0) = none := memberWith?_eq_none hnone
  unfold zero ofNumber
  rw [hmember, hsearch, hflags, flagged_zero hmember]
  rfl

theorem zero_of_first (hsearch : e.search? = none) (hflags : e.cls.hasFlags = false)
    (hfirst : e.entries.head? = some entry) : e.zero = .ok (e.memberOf entry) := by
  have hhead : e.members.head? = some (e.memberOf entry) := by
    rw [members_head? hflags, hfirst]
    rfl
  obtain ⟨rest, hmembers⟩ := List.head?_eq_some_iff.1 hhead
  unfold zero ofNumber
  rw [memberWith?_eq_none hnone, hsearch, hflags, hmembers]
  rfl

end

/-- A combination of no flags has no name, and so no name spells it. -/
theorem ne_combination_of_mem_named (h : (name, m) ∈ e.named) :
    m ≠ .member e.cls none (.int 0) [] := by
  have hown : ∀ entry, e.memberOf entry ≠ .member e.cls none (.int 0) [] := by
    intro entry heq
    unfold memberOf at heq
    cases heq
  obtain ⟨entry, -, heq⟩ := List.mem_map.1 h
  obtain ⟨-, rfl⟩ := Prod.mk.inj heq
  cases hmember : e.memberWith? entry.2 with
  | none => exact hown entry
  | some x =>
      obtain ⟨other, -, rfl⟩ := Option.map_eq_some_iff.1 hmember
      exact hown other

end Enumeration

namespace Parsers

variable {ρ : Type} {ps : Parsers ρ} {p : Parameter} {e : Enumeration} {token : String}

/-- An enumeration is a value type, whatever was registered. -/
theorem isValueType_enumeration (ps : Parsers ρ) (e : Enumeration) :
    ps.isValueType (.enumeration e) = true := by
  unfold isValueType
  rw [Bool.or_eq_true]
  exact .inr rfl

/-- Unless it leaves the argument out, a token for an enumeration goes the way of the
type. -/
theorem route_enumeration (htype : p.type = .enumeration e) (hkept : ¬ ps.LeavesOut token p) :
    ps.route token p = .ok (ps.routeByType token (.enumeration e)) := by
  have hrouted := ps.routed_route token p
  generalize ps.route token p = result at hrouted
  cases hrouted with
  | leftOut hleft => exact absurd hleft hkept
  | byType => rw [htype]
  | refused hkey =>
      rw [htype] at hkey
      cases hkey

/-- A token that is none of the words goes to the enumeration itself, if it has no
parser. -/
theorem route_member (htype : p.type = .enumeration e) (hparser : ps.entry? p.type = none)
    (hnull : Text.lower token ∉ nullWords) (hdefault : Text.lower token ∉ defaultWords) :
    ps.route token p = .ok (.convert (.ofExcept (Token.toMember e token))) := by
  have hkept : ¬ ps.LeavesOut token p := by
    rintro (⟨-, h⟩ | ⟨-, h⟩)
    · exact hnull h
    · exact hdefault (h ▸ List.mem_cons_self)
  rw [route_enumeration htype hkept]
  unfold routeByType
  rw [if_neg, ← htype, hparser, htype]
  · rfl
  · rw [Bool.and_eq_true, List.contains_iff_mem]
    exact fun h => hdefault h.2

/-- A word for the zero value leads to what the enumeration has for zero, if no other
zero value was given for it. -/
theorem route_zero (htype : p.type = .enumeration e) (hnullable : p.nullable = false)
    (hgiven : ps.default? p.type = none) (hword : Text.lower token ∈ defaultWords) :
    ps.route token p = .ok (.convert (.ofExcept e.zero)) := by
  have hvalue : ps.isValueType (.enumeration e) = true := ps.isValueType_enumeration e
  have hkept : ¬ ps.LeavesOut token p := by
    rintro (⟨hmay | hmay, -⟩ | ⟨hmay, -⟩)
    · cases hnullable.symm.trans hmay
    · rw [htype, hvalue] at hmay
      cases hmay
    · cases hnullable.symm.trans hmay
  have hzero : ps.zero (.enumeration e) = .ofExcept e.zero := by
    rw [htype] at hgiven
    have hkey : key (.enumeration e) = .ok (.enumeration e) := rfl
    unfold zero
    rw [hkey]
    dsimp only
    rw [hgiven]
    rfl
  rw [route_enumeration htype hkept, routeByType_zero hvalue hword, hzero]

end Parsers

namespace Session

open CommandConsole.Action

variable {σ : Type} {s : Session σ} {p : Parameter} {e : Enumeration} {token name : String}
  {m : Object}

/-- A token whose route ends in an enumeration comes to the member that is made of it, or
is refused as the enumeration refuses it. -/
theorem within_coerce_enumeration {start : Program σ → Action σ Reply}
    {result : Except Problem Object} (htype : p.type = .enumeration e)
    (hroute : s.parsers.route token p = .ok (.convert (.ofExcept result)))
    (hmade : ∀ x, result = .ok x → x.IsOf (.enumeration e)) :
    within s (coerce start token p)
      = ((result.map fun x => ⟨.enumeration, x, p.type⟩).mapError .problem, s) := by
  rw [within_coerce, hroute]
  cases result with
  | error q => rfl
  | ok x =>
      show (Except.ok (Value.ofObject x p.type), s) = _
      rw [htype, Value.ofObject_of_isOf (hmade x rfl)]
      rfl

/-- A name of an enumeration that has no parser, and that is none of the words every
parameter understands, selects the member of the first name that it is up to the case of
the letters. That is its own member, unless that first name is another one, which comes
before it and spells another member. -/
theorem coerce_name (htype : p.type = .enumeration e) (hparser : s.parsers.entry? p.type = none)
    (hname : e.memberNamed? name = some m) (hnull : Text.lower name ∉ nullWords)
    (hdefault : Text.lower name ∉ defaultWords) (start : Program σ → Action σ Reply) :
    ∃ entry, e.IsFirstSpelled name entry
      ∧ within s (coerce start name p) = (.ok ⟨.enumeration, entry.2, p.type⟩, s)
      ∧ (entry.2 ≠ m → entry.1 ≠ name ∧ [entry, (name, m)].Sublist e.named) := by
  obtain ⟨entry, hentry, hown⟩ := Enumeration.exists_isFirstSpelled hname
  refine ⟨entry, hentry, ?_, fun hne => ?_⟩
  · have hroute := Parsers.route_member htype hparser hnull hdefault
    rw [hentry.toMember_eq] at hroute
    refine within_coerce_enumeration htype hroute ?_
    rintro x ⟨⟩
    exact Enumeration.isOf_of_mem_named hentry.mem_named
  · rcases hown with rfl | hother
    · exact absurd rfl hne
    · exact hother

/-- An enumeration of two names that differ by no more than their case. -/
def twoCases : Enumeration := ⟨⟨"host", "E", .plain⟩, [("A", .int 1), ("a", .int 2)], none⟩

/-- The first of two such names selects its own member. -/
theorem coerce_name_first :
    let s := asking (.enumeration twoCases) .empty
    let p : Parameter := ⟨"p", "", .enumeration twoCases, true⟩
    within s (coerce (Session.start 1) "A" p)
      = (.ok ⟨.enumeration, .member twoCases.cls (some "A") (.int 1) [], p.type⟩, s) := by
  intro s p
  have hname : twoCases.memberNamed? "A" = some (.member twoCases.cls (some "A") (.int 1) []) := by
    cbv
  have hlower : Text.lower "A" = "a" := by decide +kernel
  obtain ⟨entry, hentry, hcoerce, hshadow⟩ :=
    coerce_name (s := s) (p := p) rfl rfl hname (by rw [hlower]; decide) (by rw [hlower]; decide)
      (Session.start 1)
  have hown : entry.2 = .member twoCases.cls (some "A") (.int 1) [] := by
    have hmember : Token.toMember twoCases "A"
        = .ok (.member twoCases.cls (some "A") (.int 1) []) := by
      cbv
    exact Except.ok.inj (hentry.toMember_eq.symm.trans hmember)
  rw [hcoerce, hown]

/-- The second of them selects the member of the first. -/
theorem coerce_name_shadowed :
    let s := asking (.enumeration twoCases) .empty
    let p : Parameter := ⟨"p", "", .enumeration twoCases, false⟩
    Enumeration.define "host" "E" .plain [("A", .int 1), ("a", .int 2)] = .ok twoCases
      ∧ s.parsers.entry? p.type = none
      ∧ Text.lower "a" ∉ nullWords ∧ Text.lower "a" ∉ defaultWords
      ∧ ∃ m v, twoCases.memberNamed? "a" = some m
        ∧ within s (coerce (Session.start 1) "a" p) = (.ok v, s) ∧ v.object ≠ m := by
  intro s p
  have hlower : Text.lower "a" = "a" := by decide +kernel
  have hnull : Text.lower "a" ∉ nullWords := by
    rw [hlower]
    decide
  have hdefault : Text.lower "a" ∉ defaultWords := by
    rw [hlower]
    decide
  have hname : twoCases.memberNamed? "a" = some (.member twoCases.cls (some "a") (.int 2) []) := by
    cbv
  have hroute : s.parsers.route "a" p = .ok (.convert (.ofExcept (Token.toMember twoCases "a"))) :=
    Parsers.route_member rfl rfl hnull hdefault
  have hmember : Token.toMember twoCases "a"
      = .ok (.member twoCases.cls (some "A") (.int 1) []) := by
    cbv
  rw [hmember] at hroute
  refine ⟨rfl, rfl, hnull, hdefault, _, _, hname, within_coerce_enumeration rfl hroute ?_, ?_⟩
  · intro x hx
    exact (Token.yields_toMember "a" twoCases).isOf (hmember.trans hx)
  · intro hsame
    have hvalue : Object.int 1 = .int 2 := (Object.member.inj hsame).2.2.1
    exact absurd (Object.int.inj hvalue) (by decide)

-- ================================================================ the zero

/-- The word for the zero value, in any case, for an argument that may not be absent and
whose type is an enumeration with a member and with no zero value given for it.

- If an entry has the value zero, the argument is the member of the first such entry.
- If none has, it is the first member, but not among flags, and not if there is an object
  in the place of the operation that searches for a member.
- Among flags it is then the combination of none, which no name spells.
- If there is such an object, the word is refused. -/
theorem coerce_zero (htype : p.type = .enumeration e) (hnullable : p.nullable = false)
    (hgiven : s.parsers.default? p.type = none) (hword : Text.lower token ∈ defaultWords)
    {first : String × Object} (hfirst : e.entries.head? = some first)
    (start : Program σ → Action σ Reply) :
    (∀ entry, e.firstZero? = some entry → within s (coerce start token p)
        = (.ok ⟨.enumeration, e.memberOf entry, p.type⟩, s))
      ∧ (e.firstZero? = none → e.search? = none → e.cls.hasFlags = false →
          within s (coerce start token p) = (.ok ⟨.enumeration, e.memberOf first, p.type⟩, s))
      ∧ (e.firstZero? = none → e.search? = none → e.cls.hasFlags = true →
          ∃ x, within s (coerce start token p) = (.ok ⟨.enumeration, x, p.type⟩, s)
            ∧ x = .member e.cls none (.int 0) [] ∧ ∀ name m, (name, m) ∈ e.named → x ≠ m)
      ∧ (e.firstZero? = none → ∀ y, e.search? = some y →
          within s (coerce start token p)
            = (.error (.problem (.notCallable y.className)), s)) := by
  have hcoerce : within s (coerce start token p)
      = ((e.zero.map fun x => ⟨.enumeration, x, p.type⟩).mapError .problem, s) :=
    within_coerce_enumeration htype (Parsers.route_zero htype hnullable hgiven hword)
      fun x hx => e.yields_zero.isOf hx
  refine ⟨fun entry hentry => ?_, fun hnone hsearch hflags => ?_, fun hnone hsearch hflags => ?_,
    fun hnone y hsearch => ?_⟩
  · rw [hcoerce, Enumeration.zero_of_entry hentry]
    rfl
  · rw [hcoerce, Enumeration.zero_of_first hnone hsearch hflags hfirst]
    rfl
  · refine ⟨.member e.cls none (.int 0) [], ?_, rfl, fun name m hm => ?_⟩
    · rw [hcoerce, Enumeration.zero_of_flags hnone hsearch hflags]
      rfl
    · exact (Enumeration.ne_combination_of_mem_named hm).symm
  · rw [hcoerce, Enumeration.zero_of_search hnone hsearch]
    rfl

/-- An enumeration that has no member for zero. -/
def levels (style : EnumerationStyle) : Enumeration :=
  ⟨⟨"host", "Level", style⟩, [("LOW", .int 1), ("HIGH", .int 2)], none⟩

/-- The zero value of such an enumeration is its first member. -/
theorem coerce_zero_levels :
    let s := asking (.enumeration (levels .plain)) .empty
    let p : Parameter := ⟨"p", "", .enumeration (levels .plain), false⟩
    within s (coerce (Session.start 1) "Default" p)
      = (.ok ⟨.enumeration, .member (levels .plain).cls (some "LOW") (.int 1) [], p.type⟩, s) := by
  intro s p
  have hword : Text.lower "Default" ∈ defaultWords := by
    have hlower : Text.lower "Default" = "default" := by decide +kernel
    rw [hlower]
    decide
  have hfirst : (levels .plain).entries.head? = some ("LOW", .int 1) := rfl
  have hnone : (levels .plain).firstZero? = none := by cbv
  obtain ⟨-, hlow, -, -⟩ :=
    coerce_zero (s := s) (p := p) rfl rfl rfl hword hfirst (Session.start 1)
  exact hlow hnone rfl rfl

/-- If its members combine, it is none of the members. -/
theorem coerce_zero_flags :
    let e := levels .flags
    let s := asking (.enumeration e) .empty
    let p : Parameter := ⟨"p", "", .enumeration e, false⟩
    Enumeration.define "host" "Level" .flags [("LOW", .int 1), ("HIGH", .int 2)] = .ok e
      ∧ s.parsers.default? p.type = none
      ∧ ∃ v, within s (coerce (Session.start 1) "default" p) = (.ok v, s)
        ∧ ∀ name m, (name, m) ∈ e.named → v.object ≠ m := by
  intro e s p
  have hword : Text.lower "default" ∈ defaultWords := by
    have hlower : Text.lower "default" = "default" := by decide +kernel
    rw [hlower]
    decide
  have hroute : s.parsers.route "default" p = .ok (.convert (.ofExcept e.zero)) :=
    Parsers.route_zero rfl rfl rfl hword
  have hdefine : Enumeration.define "host" "Level" .flags [("LOW", .int 1), ("HIGH", .int 2)]
      = .ok e := by
    cbv
  have hnone : e.firstZero? = none := by cbv
  have hzero : e.zero = .ok (.member e.cls none (.int 0) []) :=
    Enumeration.zero_of_flags hnone rfl rfl
  rw [hzero] at hroute
  refine ⟨hdefine, rfl, _, within_coerce_enumeration rfl hroute ?_, fun name m hm => ?_⟩
  · intro x hx
    exact e.yields_zero.isOf (hzero.trans hx)
  · exact (Enumeration.ne_combination_of_mem_named hm).symm

end Session

end CommandConsole
