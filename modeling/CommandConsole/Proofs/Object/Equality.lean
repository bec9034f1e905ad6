/-
Equality of objects is transitive.

A number equals every object that has its value: a whole number also a truth value, a
floating-point number and the member of an enumeration of numbers. So the objects with
one value are told apart from all others by that value alone (`same_iff_of_whole`), and a
text is told apart by its characters (`same_iff_of_text`). Containers are compared item by
item, or as sets.

All of this holds of objects that have the form which their class gives them
(`Object.WellFormed`): a floating-point number is normal, so that its value has one form,
and a member has a value as its enumeration keeps it. Nothing makes any other object.
-/
import CommandConsole.Object.Order
import CommandConsole.Proofs.Relations
import CommandConsole.Ty.Enumeration

namespace CommandConsole

-- ================================================================ numbers

namespace Number.Binary64

/-- A number has the form that no other number of its value has, but for the sign of
zero. -/
def IsNormal : Binary64 → Prop
  | .finite _ m e => m < 2 ^ 53 ∧ -1074 ≤ e ∧ (m < 2 ^ 52 → e = -1074)
  | _ => True

variable {x y z : Binary64} {n : Int}

/-- The whole number that equals a finite number has its magnitude and its sign. -/
theorem eq_of_toInt?_finite {negative : Bool} {m : Nat} {e : Int}
    (h : (Binary64.finite negative m e).toInt? = some n) :
    n.natAbs * 2 ^ (-e).toNat = m * 2 ^ e.toNat
      ∧ n = if negative then -(n.natAbs : Int) else n.natAbs := by
  obtain ⟨_, hwhole, rfl⟩ := Option.map_eq_some_iff.1 h
  obtain ⟨k, hk, ⟨⟩⟩ := Option.bind_eq_some_iff.1 hwhole
  have habs : (if negative then -(k : Int) else (k : Int)).natAbs = k := by
    cases negative with
    | false => exact Int.natAbs_natCast k
    | true => exact (Int.natAbs_neg k).trans (Int.natAbs_natCast k)
  refine ⟨?_, by rw [habs]⟩
  rw [habs]
  split at hk
  · next he =>
      cases hk
      rw [Int.toNat_eq_zero.2 (by omega : -e ≤ 0), Nat.pow_zero, Nat.mul_one]
  · next he =>
      split at hk
      · next hdiv =>
          cases hk
          rw [Int.toNat_eq_zero.2 (by omega : e ≤ 0), Nat.pow_zero, Nat.mul_one]
          exact Nat.div_mul_cancel (Nat.dvd_of_mod_eq_zero hdiv)
      · cases hk

/-- Of two normal forms with one magnitude, the first has no smaller exponent. -/
theorem exponent_le_of_eq {negative negative' : Bool} {m k : Nat} {e f : Int}
    (hx : (Binary64.finite negative m e).IsNormal) (hy : (Binary64.finite negative' k f).IsNormal)
    (heq : m * 2 ^ (e.toNat + (-f).toNat) = k * 2 ^ (f.toNat + (-e).toNat)) : f ≤ e := by
  obtain ⟨hm, he, -⟩ := hx
  obtain ⟨-, -, hleast⟩ := hy
  refine Int.not_lt.1 fun hlt => ?_
  have hlarge : 2 ^ 52 ≤ k := Nat.not_lt.1 fun hsmall => by
    have := hleast hsmall
    omega
  obtain ⟨d, hd⟩ : ∃ d, f.toNat + (-e).toNat = e.toNat + (-f).toNat + (d + 1) :=
    ⟨(f - e).toNat - 1, by omega⟩
  rw [hd, Nat.add_comm _ (d + 1), Nat.pow_add _ (d + 1), ← Nat.mul_assoc] at heq
  have hcancel : m = k * 2 ^ (d + 1) := Nat.eq_of_mul_eq_mul_right (Nat.two_pow_pos _) heq
  have htwice : k * 2 ≤ k * 2 ^ (d + 1) := by
    rw [Nat.pow_succ]
    exact Nat.mul_le_mul_left k (Nat.le_mul_of_pos_left 2 (Nat.two_pow_pos d))
  omega

/-- Normal forms with one magnitude have one significand and one exponent. -/
theorem normal_forms_eq {negative negative' : Bool} {m k N : Nat} {e f : Int}
    (hx : (Binary64.finite negative m e).IsNormal) (hy : (Binary64.finite negative' k f).IsNormal)
    (hm : N * 2 ^ (-e).toNat = m * 2 ^ e.toNat) (hk : N * 2 ^ (-f).toNat = k * 2 ^ f.toNat) :
    m = k ∧ e = f := by
  have heq : m * 2 ^ (e.toNat + (-f).toNat) = k * 2 ^ (f.toNat + (-e).toNat) := by
    calc m * 2 ^ (e.toNat + (-f).toNat)
        = m * 2 ^ e.toNat * 2 ^ (-f).toNat := by rw [Nat.pow_add, Nat.mul_assoc]
      _ = N * 2 ^ (-f).toNat * 2 ^ (-e).toNat := by rw [← hm, Nat.mul_right_comm]
      _ = k * 2 ^ (f.toNat + (-e).toNat) := by rw [hk, Nat.pow_add, Nat.mul_assoc]
  obtain rfl : e = f :=
    Int.le_antisymm (exponent_le_of_eq hy hx heq.symm) (exponent_le_of_eq hx hy heq)
  exact ⟨Nat.eq_of_mul_eq_mul_right (Nat.two_pow_pos _) heq, rfl⟩

/-- Normal numbers that equal one whole number are the same number ... -/
theorem same_of_toInt?_eq (hx : x.IsNormal) (hy : y.IsNormal) (hxn : x.toInt? = some n)
    (hyn : y.toInt? = some n) : x.same y = true := by
  cases x with
  | nan => cases hxn
  | infinity => cases hxn
  | finite negative m e =>
      cases y with
      | nan => cases hyn
      | infinity => cases hyn
      | finite negative' k f =>
          obtain ⟨hm, hsign⟩ := eq_of_toInt?_finite hxn
          obtain ⟨hk, hsign'⟩ := eq_of_toInt?_finite hyn
          obtain ⟨rfl, rfl⟩ := normal_forms_eq hx hy hm hk
          by_cases hzero : m = 0
          · simp [same, hzero]
          · -- a number other than zero has the sign of the whole number
            have hne : n.natAbs ≠ 0 := by
              intro h0
              rw [h0, Nat.zero_mul] at hm
              have hpow : 0 < 2 ^ e.toNat := Nat.two_pow_pos e.toNat
              exact hzero ((Nat.mul_eq_zero.1 hm.symm).resolve_right (by omega))
            have hneg : ∀ {s : Bool}, (n = if s then -(n.natAbs : Int) else n.natAbs) →
                (s = true ↔ n < 0) := by
              intro s hs
              split at hs
              · next hs' => exact iff_of_true hs' (by omega)
              · next hs' => exact iff_of_false hs' (by omega)
            have hsigns : negative = negative' :=
              Bool.eq_iff_iff.2 ((hneg hsign).trans (hneg hsign').symm)
            simp [same, hsigns]

/-- ... and what is the same number equals the same whole number, if one. -/
theorem toInt?_eq_of_same (h : x.same y = true) : x.toInt? = y.toInt? := by
  cases x with
  | nan => cases h
  | infinity =>
      cases y with
      | nan => cases h
      | infinity => rfl
      | finite => cases h
  | finite negative m e =>
      cases y with
      | nan => cases h
      | infinity => cases h
      | finite negative' k f =>
          simp only [same, Bool.and_eq_true, Bool.or_eq_true, beq_iff_eq] at h
          obtain ⟨rfl, rfl | ⟨rfl, rfl⟩⟩ := h
          · simp [toInt?]
          · rfl

theorem same_trans (hxy : x.same y = true) (hyz : y.same z = true) : x.same z = true := by
  cases x <;> cases y <;> cases z <;> simp only [same, Bool.false_eq_true] at hxy hyz ⊢
  · grind
  · grind

end Number.Binary64

-- ================================================================ objects

namespace Object

/-- The objects that an object holds. -/
def parts : Object → List Object
  | .member _ _ value _ => [value]
  | .list items | .tuple items | .set items | .frozenSet items => items
  | .dict entries | .view entries => entries.map (·.1) ++ entries.map (·.2)
  | .record _ fields | .namedTuple _ fields => fields.map (·.2)
  | _ => []

/-- An object has the form that its class gives it, but for what it holds. -/
def HasForm : Object → Prop
  | .float x => x.IsNormal
  | .member enumeration _ value _ =>
      Enumeration.keptValue enumeration.style value = .ok value
  | _ => True

/-- An object and all that it holds have the forms that their classes give them. -/
inductive WellFormed : Object → Prop
  | of {x : Object} (hform : x.HasForm) (hparts : ∀ y ∈ x.parts, WellFormed y) : WellFormed x

variable {a b c x : Object} {n : Int} {s : String}

theorem WellFormed.hasForm (h : x.WellFormed) : x.HasForm := by
  cases h with
  | of hform => exact hform

theorem WellFormed.of_mem_parts (h : x.WellFormed) {y : Object} (hy : y ∈ x.parts) :
    y.WellFormed := by
  cases h with
  | of _ hparts => exact hparts y hy

/-- What a member is besides is a whole number or a text. -/
theorem bare_cases (h : x.HasForm) :
    x.bare = x ∨ (∃ k, x.bare = .int k) ∨ ∃ t, x.bare = .text t := by
  cases x with
  | member enumeration name value parts =>
      have hkept : Enumeration.keptValue enumeration.style value = .ok value := h
      cases hstyle : enumeration.style with
      | plain | flags => exact .inl (by simp only [bare, hstyle])
      | integer | openFlags =>
          rw [hstyle, Enumeration.keptValue] at hkept
          cases hinteger : value.toInteger with
          | error p =>
              rw [hinteger] at hkept
              cases hkept
          | ok k =>
              rw [hinteger] at hkept
              exact .inr (.inl ⟨k, by simp only [bare, hstyle]; exact (Except.ok.inj hkept).symm⟩)
      | text =>
          rw [hstyle] at hkept
          cases value with
          | text t => exact .inr (.inr ⟨t, by simp only [bare, hstyle]⟩)
          | _ => cases hkept
  | _ => exact .inl rfl

theorem bare_bare (h : x.HasForm) : x.bare.bare = x.bare := by
  rcases bare_cases h with hbare | ⟨k, hbare⟩ | ⟨t, hbare⟩
  · rw [hbare, hbare]
  · rw [hbare]; rfl
  · rw [hbare]; rfl

theorem whole?_bare (h : x.HasForm) : x.bare.whole? = x.whole? := by
  unfold whole? integer?
  rw [bare_bare h]

theorem HasForm.bare (h : x.HasForm) : x.bare.HasForm := by
  rcases bare_cases h with hbare | ⟨k, hbare⟩ | ⟨t, hbare⟩
  · rwa [hbare]
  · rw [hbare]; trivial
  · rw [hbare]; trivial

/-- A member that is a number or a text besides is compared as that. -/
theorem same_eq_bare_same (h : a.bare ≠ a) : a.same b = a.bare.same b.bare := by
  cases a with
  | member enumeration name value parts =>
      cases hstyle : enumeration.style with
      | plain | flags => exact absurd (by simp only [bare, hstyle]) h
      | integer | openFlags | text =>
          have hbare : (member enumeration name value parts).bare = value := by
            simp only [bare, hstyle]
          rw [hbare, same.eq_def]
          simp only [hstyle]
  | _ => exact absurd rfl h

/-- A whole number is told from all objects by its value alone. -/
theorem same_iff_of_whole (ha : a.HasForm) (hb : b.HasForm) (hn : a.whole? = some n) :
    a.same b = true ↔ b.whole? = some n := by
  by_cases hbare : a.bare = a
  · cases a with
    | bool _ | int _ => rw [same, beq_iff_eq, hn, eq_comm]
    | float y =>
        have hform := hb.bare
        rw [← whole?_bare hb]
        unfold same
        split
        · next z hz =>
            rw [hz] at hform ⊢
            refine ⟨fun h => ?_, fun h => ?_⟩
            · exact (Number.Binary64.toInt?_eq_of_same h).symm.trans hn
            · exact Number.Binary64.same_of_toInt?_eq ha hform hn h
        · rw [hn, whole?_bare hb, Option.isSome_some, Bool.true_and, beq_iff_eq, eq_comm]
    | member =>
        unfold whole? integer? at hn
        rw [hbare] at hn
        simp only [hbare] at hn
        cases hn
    | _ => cases hn
  · rcases bare_cases ha with hself | ⟨k, hk⟩ | ⟨t, ht⟩
    · exact absurd hself hbare
    · rw [same_eq_bare_same hbare, hk, same, beq_iff_eq, ← hk, whole?_bare ha, whole?_bare hb, hn,
        eq_comm]
    · rw [← whole?_bare ha, ht] at hn
      cases hn

/-- A text is told from all objects by its characters alone. -/
theorem same_iff_of_text (hb : b.HasForm) (hs : a.bare = .text s) :
    a.same b = true ↔ b.bare = .text s := by
  have htext : ∀ b : Object, (Object.text s).same b = true ↔ b.bare = .text s := by
    intro b
    unfold same
    split
    · next t ht => rw [ht, beq_iff_eq, Object.text.injEq, eq_comm]
    · next hne => exact iff_of_false Bool.false_ne_true (hne s)
  by_cases hbare : a.bare = a
  · rw [← hbare, hs]
    exact htext b
  · rw [same_eq_bare_same hbare, hs, htext, bare_bare hb]

/-- A number that equals no whole number is told from all objects by its value. -/
theorem same_iff_of_float {y : Number.Binary64} (hb : b.HasForm) (hy : y.toInt? = Option.none) :
    (Object.float y).same b = true ↔ ∃ z, b = .float z ∧ y.same z = true := by
  have hnone : (Object.float y).whole? = Option.none := hy
  unfold same
  split
  · next z hz =>
      rcases bare_cases hb with hself | ⟨k, hk⟩ | ⟨t, ht⟩
      · obtain rfl : b = .float z := hself.symm.trans hz
        simp
      · cases hk.symm.trans hz
      · cases ht.symm.trans hz
  · next hne =>
      rw [hnone, Option.isSome_none, Bool.false_and]
      refine iff_of_false Bool.false_ne_true ?_
      rintro ⟨z, rfl, -⟩
      exact hne z rfl

/-- A member that is nothing besides belongs to an enumeration of one of these styles. -/
theorem style_of_bare {e : EnumerationClass} {name : Option String} {value : Object}
    {parts : List Object} (h : (member e name value parts).bare = member e name value parts) :
    e.style = .plain ∨ e.style = .flags := by
  cases hs : e.style with
  | plain => exact .inl rfl
  | flags => exact .inr rfl
  | integer | openFlags | text =>
      simp only [bare, hs] at h
      cases h

/-- Such a member equals the members of its name and its value. -/
theorem same_iff_of_member {e : EnumerationClass} {name : Option String} {value : Object}
    {parts : List Object} (h : e.style = .plain ∨ e.style = .flags) :
    (member e name value parts).same b = true ↔ ∃ value' parts', b = member e name value' parts'
      ∧ value.same value' = true := by
  cases b with
  | member e' name' value' parts' =>
      have hsame : (member e name value parts).same (member e' name' value' parts')
          = (e == e' && name == name' && value.same value') := by
        rw [same.eq_def]
        rcases h with hs | hs <;> simp only [hs]
      simp only [hsame, Bool.and_eq_true, beq_iff_eq, member.injEq]
      constructor
      · rintro ⟨⟨rfl, rfl⟩, hvalue⟩
        exact ⟨value', parts', ⟨rfl, rfl, rfl, rfl⟩, hvalue⟩
      · rintro ⟨_, _, ⟨rfl, rfl, rfl, rfl⟩, hvalue⟩
        exact ⟨⟨rfl, rfl⟩, hvalue⟩
  | _ =>
      refine iff_of_false ?_ (by rintro ⟨_, _, ⟨⟩, _⟩)
      rw [same.eq_def]
      rcases h with hs | hs <;> simp only [hs] <;> exact Bool.false_ne_true

-- ============================================================= containers

section

variable {xs ys zs : List Object} {fields others : List (String × Object)}
  {entries more rest : List (Object × Object)}

theorem sameItems_iff :
    sameItems xs ys = true ↔ List.Forall₂ (fun x y => x.same y = true) xs ys := by
  induction xs generalizing ys with
  | nil => cases ys <;> simp [sameItems]
  | cons x xs ih => cases ys <;> simp [sameItems, ih]

theorem sameValues_eq : sameValues fields ys = sameItems (fields.map (·.2)) ys := by
  induction fields generalizing ys with
  | nil => cases ys <;> simp [sameValues, sameItems]
  | cons field _ ih =>
      obtain ⟨_, _⟩ := field
      cases ys <;> simp [sameValues, sameItems, ih]

theorem sameFields_eq :
    sameFields fields others = sameItems (fields.map (·.2)) (others.map (·.2)) := by
  induction fields generalizing others with
  | nil => cases others <;> simp [sameFields, sameItems]
  | cons field _ ih =>
      obtain ⟨_, _⟩ := field
      rcases others with _ | ⟨⟨_, _⟩, _⟩ <;> simp [sameFields, sameItems, ih]

theorem holdsItems_iff : holdsItems xs ys = true ↔ ∀ x ∈ xs, ∃ y ∈ ys, x.same y = true := by
  induction xs with
  | nil => simp [holdsItems]
  | cons x xs ih => simp [holdsItems, ih]

theorem holdsEntries_iff :
    holdsEntries entries more = true ↔ ∀ entry ∈ entries, ∃ other ∈ more,
      entry.1.same other.1 = true ∧ entry.2.same other.2 = true := by
  induction entries with
  | nil => simp [holdsEntries]
  | cons entry entries ih =>
      obtain ⟨_, _⟩ := entry
      rw [holdsEntries, Bool.and_eq_true, ih, List.forall_mem_cons]
      simp

/-- What an object equals equals nothing but what the object equals, among objects that
have the forms of their classes. -/
def Transitive (x : Object) : Prop := TransitiveAt WellFormed (fun x y => x.same y = true) x

theorem sameItems_trans (h : ∀ x ∈ xs, x.Transitive) (hy : ∀ y ∈ ys, y.WellFormed)
    (hz : ∀ z ∈ zs, z.WellFormed) (hxy : sameItems xs ys = true) (hyz : sameItems ys zs = true) :
    sameItems xs zs = true := by
  rw [sameItems_iff] at hxy hyz ⊢
  exact forall₂_trans h hy hz hxy hyz

theorem holdsItems_trans (h : ∀ x ∈ xs, x.Transitive) (hy : ∀ y ∈ ys, y.WellFormed)
    (hz : ∀ z ∈ zs, z.WellFormed) (hxy : holdsItems xs ys = true) (hyz : holdsItems ys zs = true) :
    holdsItems xs zs = true := by
  rw [holdsItems_iff] at hxy hyz ⊢
  exact covers_trans h hy hz hxy hyz

theorem mem_of_entry {P : Object → Prop} {entries : List (Object × Object)}
    (h : ∀ x ∈ entries.map (·.1) ++ entries.map (·.2), P x) :
    ∀ entry ∈ entries, P entry.1 ∧ P entry.2 := fun _ hentry =>
  ⟨h _ (List.mem_append_left _ (List.mem_map_of_mem hentry)),
    h _ (List.mem_append_right _ (List.mem_map_of_mem hentry))⟩

theorem sameEntries_trans
    (h : ∀ x ∈ entries.map (·.1) ++ entries.map (·.2), x.Transitive)
    (hmore : ∀ x ∈ more.map (·.1) ++ more.map (·.2), x.WellFormed)
    (hrest : ∀ x ∈ rest.map (·.1) ++ rest.map (·.2), x.WellFormed)
    (hfirst : sameEntries entries more = true) (hsecond : sameEntries more rest = true) :
    sameEntries entries rest = true := by
  rw [sameEntries, Bool.and_eq_true, beq_iff_eq, holdsEntries_iff] at hfirst hsecond ⊢
  refine ⟨hfirst.1.trans hsecond.1, ?_⟩
  refine covers_trans (P := fun entry => entry.1.WellFormed ∧ entry.2.WellFormed) ?_
    (mem_of_entry hmore) (mem_of_entry hrest) hfirst.2 hsecond.2
  intro entry hentry other last hother hlast hsame hsame'
  obtain ⟨hkey, hvalue⟩ := mem_of_entry h entry hentry
  exact ⟨hkey hother.1 hlast.1 hsame.1 hsame'.1, hvalue hother.2 hlast.2 hsame.2 hsame'.2⟩

end

theorem parts_of_row {xs : List Object} (h : a.tupleItems? = some xs) : a.parts = xs := by
  cases a with
  | tuple | namedTuple => exact Option.some.inj h
  | _ => cases h

theorem parts_of_set {xs : List Object} (h : a.setItems? = some xs) : a.parts = xs := by
  cases a with
  | set | frozenSet => exact Option.some.inj h
  | _ => cases h

/-- A row equals the rows of equal items ... -/
theorem same_iff_of_row {xs : List Object} (h : a.tupleItems? = some xs) :
    a.same b = true ↔ ∃ ys, b.tupleItems? = some ys ∧ sameItems xs ys = true := by
  cases a with
  | tuple =>
      cases h
      unfold same
      split <;> simp [tupleItems?]
  | namedTuple =>
      cases h
      unfold same
      split <;> simp [tupleItems?, sameValues_eq, sameFields_eq]
  | _ => cases h

/-- ... and a set the sets of equal items. -/
theorem same_iff_of_set {xs : List Object} (h : a.setItems? = some xs) :
    a.same b = true ↔ ∃ ys, b.setItems? = some ys ∧ xs.length = ys.length
      ∧ holdsItems xs ys = true := by
  cases a with
  | set | frozenSet =>
      cases h
      unfold same sameSets
      split <;> simp [setItems?]
  | _ => cases h

theorem transitive_of_row {xs : List Object} (h : a.tupleItems? = some xs)
    (hparts : ∀ x ∈ xs, x.Transitive) : a.Transitive := by
  intro b c hb hc hab hbc
  obtain ⟨ys, hys, hxy⟩ := (same_iff_of_row h).1 hab
  obtain ⟨zs, hzs, hyz⟩ := (same_iff_of_row hys).1 hbc
  refine (same_iff_of_row h).2 ⟨zs, hzs, sameItems_trans hparts ?_ ?_ hxy hyz⟩
  · exact fun y hy => hb.of_mem_parts (parts_of_row hys ▸ hy)
  · exact fun z hz => hc.of_mem_parts (parts_of_row hzs ▸ hz)

theorem transitive_of_set {xs : List Object} (h : a.setItems? = some xs)
    (hparts : ∀ x ∈ xs, x.Transitive) : a.Transitive := by
  intro b c hb hc hab hbc
  obtain ⟨ys, hys, hlength, hxy⟩ := (same_iff_of_set h).1 hab
  obtain ⟨zs, hzs, hlength', hyz⟩ := (same_iff_of_set hys).1 hbc
  refine (same_iff_of_set h).2
    ⟨zs, hzs, hlength.trans hlength', holdsItems_trans hparts ?_ ?_ hxy hyz⟩
  · exact fun y hy => hb.of_mem_parts (parts_of_set hys ▸ hy)
  · exact fun z hz => hc.of_mem_parts (parts_of_set hzs ▸ hz)

/-- Objects of one form that are compared by what they hold. -/
theorem transitive_of_form {β : Type} {mk : β → Object} {R : β → β → Prop} {u : β}
    (hsame : ∀ {u : β} {b : Object}, (mk u).same b = true ↔ ∃ v, b = mk v ∧ R u v)
    (htrans : ∀ {v w : β}, (mk v).WellFormed → (mk w).WellFormed → R u v → R v w → R u w) :
    (mk u).Transitive := by
  intro b c hb hc hab hbc
  obtain ⟨v, rfl, huv⟩ := hsame.1 hab
  obtain ⟨w, rfl, hvw⟩ := hsame.1 hbc
  exact hsame.2 ⟨w, rfl, htrans hb hc huv hvw⟩

theorem list_same_iff {xs : List Object} :
    (Object.list xs).same b = true ↔ ∃ ys, b = .list ys ∧ sameItems xs ys = true := by
  unfold same
  split
  · simp
  · next hne =>
      refine iff_of_false Bool.false_ne_true ?_
      rintro ⟨ys, heq, -⟩
      exact hne ys heq

theorem record_same_iff {cls : String} {fields : List (String × Object)} :
    (Object.record cls fields).same b = true ↔ ∃ others, b = .record cls others
      ∧ sameItems (fields.map (·.2)) (others.map (·.2)) = true := by
  unfold same
  split
  · simp only [sameFields_eq, Bool.and_eq_true, beq_iff_eq, record.injEq]
    constructor
    · rintro ⟨rfl, h⟩
      exact ⟨_, ⟨rfl, rfl⟩, h⟩
    · rintro ⟨_, ⟨rfl, rfl⟩, h⟩
      exact ⟨rfl, h⟩
  · next hne =>
      refine iff_of_false Bool.false_ne_true ?_
      rintro ⟨others, heq, -⟩
      exact hne cls others heq

theorem dict_same_iff {entries : List (Object × Object)} :
    (Object.dict entries).same b = true
      ↔ ∃ more, b = .dict more ∧ sameEntries entries more = true := by
  unfold same
  split
  · simp
  · next hne =>
      refine iff_of_false Bool.false_ne_true ?_
      rintro ⟨more, heq, -⟩
      exact hne more heq

theorem view_same_iff {entries : List (Object × Object)} :
    (Object.view entries).same b = true
      ↔ ∃ more, b = .view more ∧ sameEntries entries more = true := by
  unfold same
  split
  · simp
  · next hne =>
      refine iff_of_false Bool.false_ne_true ?_
      rintro ⟨more, heq, -⟩
      exact hne more heq

/-- Equality is transitive among objects that have the forms of their classes. -/
theorem WellFormed.transitive (ha : a.WellFormed) : a.Transitive := by
  induction ha with
  | @of a hform hparts ih =>
      intro b c hb hc hab hbc
      cases hn : a.whole? with
      | some n =>
          have hbn := (same_iff_of_whole hform hb.hasForm hn).1 hab
          have hcn := (same_iff_of_whole hb.hasForm hc.hasForm hbn).1 hbc
          exact (same_iff_of_whole hform hc.hasForm hn).2 hcn
      | none =>
          rcases bare_cases hform with hself | ⟨k, hk⟩ | ⟨t, ht⟩
          · cases a with
            | bool | int => cases hn
            | float x =>
                obtain ⟨y, rfl, hxy⟩ := (same_iff_of_float hb.hasForm hn).1 hab
                have hy := (Number.Binary64.toInt?_eq_of_same hxy).symm.trans hn
                obtain ⟨z, rfl, hyz⟩ := (same_iff_of_float hc.hasForm hy).1 hbc
                exact (same_iff_of_float hc.hasForm hn).2
                  ⟨z, rfl, Number.Binary64.same_trans hxy hyz⟩
            | text s =>
                have hbs := (same_iff_of_text hb.hasForm rfl).1 hab
                exact (same_iff_of_text hc.hasForm rfl).2 ((same_iff_of_text hc.hasForm hbs).1 hbc)
            | member e name value parts =>
                have hstyle := style_of_bare hself
                obtain ⟨value', parts', rfl, hfirst⟩ := (same_iff_of_member hstyle).1 hab
                obtain ⟨value'', parts'', rfl, hsecond⟩ := (same_iff_of_member hstyle).1 hbc
                exact (same_iff_of_member hstyle).2 ⟨value'', parts'', rfl,
                  ih value List.mem_cons_self (hb.of_mem_parts List.mem_cons_self)
                    (hc.of_mem_parts List.mem_cons_self) hfirst hsecond⟩
            | tuple | namedTuple => exact transitive_of_row rfl ih hb hc hab hbc
            | set | frozenSet => exact transitive_of_set rfl ih hb hc hab hbc
            | list =>
                refine transitive_of_form list_same_iff ?_ hb hc hab hbc
                exact fun hv hw => sameItems_trans ih (fun _ => hv.of_mem_parts)
                  fun _ => hw.of_mem_parts
            | record =>
                refine transitive_of_form record_same_iff ?_ hb hc hab hbc
                exact fun hv hw => sameItems_trans ih (fun _ => hv.of_mem_parts)
                  fun _ => hw.of_mem_parts
            | dict =>
                refine transitive_of_form dict_same_iff ?_ hb hc hab hbc
                exact fun hv hw => sameEntries_trans ih (fun _ => hv.of_mem_parts)
                  fun _ => hw.of_mem_parts
            | view =>
                refine transitive_of_form view_same_iff ?_ hb hc hab hbc
                exact fun hv hw => sameEntries_trans ih (fun _ => hv.of_mem_parts)
                  fun _ => hw.of_mem_parts
            | none | complex | decimal | fraction | bytes | sealed | range | unset =>
                -- these hold no objects, and are compared by their own fields
                unfold same at hab
                split at hab
                · unfold same at hbc ⊢
                  split at hbc
                  · grind [Number.Binary64.same_trans, Number.sameProgression]
                  · cases hbc
                · cases hab
          · rw [← whole?_bare hform, hk] at hn
            cases hn
          · have hbt := (same_iff_of_text hb.hasForm ht).1 hab
            exact (same_iff_of_text hc.hasForm ht).2 ((same_iff_of_text hc.hasForm hbt).1 hbc)

end Object

end CommandConsole
