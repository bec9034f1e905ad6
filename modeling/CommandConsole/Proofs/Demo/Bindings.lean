/-
What the game holds after some keys were bound and the window was switched.

The keys stand in the order in which they were first bound
(`map_fst_allBound`), and each of them has the text that it was bound to
last (`heldIn?_allBound`). A game that has come of binding keys and of
switching the window, and of nothing else, reflects what it was told
(`Reflects`, `reflects_told`).
-/
import CommandConsole.Demo
import CommandConsole.Object.Items
import CommandConsole.Proofs.Ty.Instance

namespace CommandConsole.Demo

-- ==================================================================== keys

/-- The keys of the game, one by one. -/
theorem members_keys : keys.members
    = [.member keys.cls (some "UpArrow") (.int 0) [],
      .member keys.cls (some "DownArrow") (.int 1) [],
      .member keys.cls (some "Escape") (.int 2) []] := by
  have hwhole : ∀ n, (Object.int n).whole? = some n := fun _ => rfl
  have hentries : keys.ownEntries = keys.entries := by
    simp [Enumeration.ownEntries, Enumeration.ownEntries.go, keys, Object.same, hwhole]
  unfold Enumeration.members
  rw [hentries]
  rfl

theorem mem_members_keys {key : Object} (h : key ∈ keys.members) :
    key = .member keys.cls (some "UpArrow") (.int 0) []
      ∨ key = .member keys.cls (some "DownArrow") (.int 1) []
      ∨ key = .member keys.cls (some "Escape") (.int 2) [] := by
  rw [members_keys] at h
  simpa using h

/-- Whatever is an object of the enumeration is one of the keys. -/
theorem mem_members_of_isOf {x : Object} (h : x.IsOf (.enumeration keys)) : x ∈ keys.members := by
  cases h with
  | combination hflags => cases hflags
  | @member e entry hentry =>
      have hentries : keys.entries
          = [("UpArrow", .int 0), ("DownArrow", .int 1), ("Escape", .int 2)] := rfl
      rw [hentries] at hentry
      rw [members_keys]
      simp only [List.mem_cons, List.not_mem_nil, or_false] at hentry ⊢
      rcases hentry with rfl | rfl | rfl
      · exact .inl rfl
      · exact .inr (.inl rfl)
      · exact .inr (.inr rfl)

/-- Equal keys are the same key. -/
theorem same_iff {key other : Object} (hkey : key ∈ keys.members) (hother : other ∈ keys.members) :
    key.same other = true ↔ key = other := by
  have hnames : ∀ {name name' : String} {value value' : Object},
      (Object.member keys.cls (some name) value []).same (.member keys.cls (some name') value' [])
        = true → name = name' := by
    intro name name' value value' h
    rw [Object.same] at h
    simp only [keys, Bool.and_eq_true, beq_iff_eq, Option.some.injEq] at h
    exact h.1.2
  constructor
  · intro h
    rcases mem_members_keys hkey with rfl | rfl | rfl <;>
      rcases mem_members_keys hother with rfl | rfl | rfl <;>
        first
        | rfl
        | exact absurd (hnames h) (by decide)
  · rintro rfl
    rcases mem_members_keys hkey with rfl | rfl | rfl
    · simp [Object.same, keys]
    · simp [Object.same, keys]
    · simp [Object.same, keys]

namespace Game

-- ================================================================ bindings

/-- What a row of keys and texts has for a key: the text that stands with it
where it stands first. -/
def heldIn? (row : List (Object × Object)) (key : Object) : Option Object :=
  (row.find? fun entry => entry.1.same key).map (·.2)

theorem heldIn?_cons (entry : Object × Object) (rest : List (Object × Object)) (key : Object) :
    heldIn? (entry :: rest) key
      = if entry.1.same key = true then some entry.2 else heldIn? rest key := by
  unfold heldIn?
  rw [List.find?_cons]
  split
  · next h => rw [if_pos h, Option.map_some]
  · next h => rw [if_neg (Bool.eq_false_iff.1 h)]

theorem heldIn?_append (row more : List (Object × Object)) (key : Object) :
    heldIn? (row ++ more) key = (heldIn? row key).or (heldIn? more key) := by
  unfold heldIn?
  rw [List.find?_append]
  cases row.find? fun entry => entry.1.same key with
  | none => rfl
  | some entry => rfl

/-- Binding a key puts it behind the others, unless it is among them. -/
theorem map_fst_bound (key text : Object) (row : List (Object × Object)) :
    (bound key text row).map (·.1)
      = if (row.map (·.1)).any (·.same key) = true then row.map (·.1)
        else row.map (·.1) ++ [key] := by
  induction row with
  | nil => rfl
  | cons entry rest ih =>
      rw [bound]
      split
      · next h =>
        rw [List.map_cons, List.map_cons, List.any_cons, h, Bool.true_or, if_pos rfl]
      · next h =>
        rw [List.map_cons, List.map_cons, List.any_cons, Bool.eq_false_iff.2 h, Bool.false_or, ih]
        split
        · rfl
        · rfl

/-- A key that is bound has its new text, and the other keys have theirs. -/
theorem heldIn?_bound {key other : Object} (hkey : key ∈ keys.members)
    (hother : other ∈ keys.members) (text : Object) {row : List (Object × Object)}
    (hrow : ∀ entry ∈ row, entry.1 ∈ keys.members) :
    heldIn? (bound key text row) other
      = if key.same other = true then some text else heldIn? row other := by
  induction row with
  | nil => exact heldIn?_cons _ _ _
  | cons entry rest ih =>
      obtain ⟨hentry, hrest⟩ := List.forall_mem_cons.1 hrow
      rw [bound]
      split
      · next h =>
        obtain rfl : entry.1 = key := (same_iff hentry hkey).1 h
        rw [heldIn?_cons, heldIn?_cons]
        split
        · rfl
        · rfl
      · next h =>
        rw [heldIn?_cons, heldIn?_cons, ih hrest]
        split
        · next hheld =>
          obtain rfl : entry.1 = other := (same_iff hentry hother).1 hheld
          rw [if_neg fun hsame => h ((same_iff hentry hkey).2 ((same_iff hkey hentry).1 hsame).symm)]
        · rfl

-- ============================================================ what was told

/-- The bindings after some keys were bound, one after the other. -/
def allBound (pairs : List (Object × Object)) (row : List (Object × Object)) :
    List (Object × Object) :=
  pairs.foldl (fun row pair => bound pair.1 pair.2 row) row

/-- The keys stand in the order in which they were first bound. -/
theorem map_fst_allBound (pairs : List (Object × Object)) :
    ∀ (row : List (Object × Object)) (seen : List Object),
      (∀ x, seen.any (·.same x) = (row.map (·.1)).any (·.same x)) →
      (allBound pairs row).map (·.1)
        = row.map (·.1) ++ Object.distinct.go seen (pairs.map (·.1)) := by
  induction pairs with
  | nil => exact fun row seen _ => (List.append_nil _).symm
  | cons pair rest ih =>
      intro row seen hseen
      show (allBound rest (bound pair.1 pair.2 row)).map (·.1) = _
      rw [List.map_cons, Object.distinct.go, hseen]
      split
      · next hold =>
        have hkeys : (bound pair.1 pair.2 row).map (·.1) = row.map (·.1) := by
          rw [map_fst_bound, if_pos hold]
        rw [ih _ seen (hkeys.symm ▸ hseen), hkeys]
      · next hnew =>
        have hkeys : (bound pair.1 pair.2 row).map (·.1) = row.map (·.1) ++ [pair.1] := by
          rw [map_fst_bound, if_neg hnew]
        have hlater : ∀ x, (pair.1 :: seen).any (·.same x)
            = ((bound pair.1 pair.2 row).map (·.1)).any (·.same x) := by
          intro x
          rw [hkeys, List.any_append, List.any_cons, hseen, List.any_cons, List.any_nil,
            Bool.or_false, Bool.or_comm]
        rw [ih _ (pair.1 :: seen) hlater, hkeys, List.append_assoc, List.singleton_append]

section

variable {pairs : List (Object × Object)} (hpairs : ∀ pair ∈ pairs, pair.1 ∈ keys.members)

include hpairs

/-- Nothing but keys is bound. -/
theorem forall_mem_allBound :
    ∀ {row : List (Object × Object)}, (∀ entry ∈ row, entry.1 ∈ keys.members) →
      ∀ entry ∈ allBound pairs row, entry.1 ∈ keys.members := by
  induction pairs with
  | nil => exact fun hrow => hrow
  | cons pair rest ih =>
      intro row hrow
      obtain ⟨hpair, hrest⟩ := List.forall_mem_cons.1 hpairs
      refine ih hrest fun entry hentry => ?_
      have hmem : entry.1 ∈ (bound pair.1 pair.2 row).map (·.1) := List.mem_map_of_mem hentry
      rw [map_fst_bound] at hmem
      split at hmem
      · obtain ⟨held, hheld, heq⟩ := List.mem_map.1 hmem
        exact heq ▸ hrow held hheld
      · rcases List.mem_append.1 hmem with hmem | hmem
        · obtain ⟨held, hheld, heq⟩ := List.mem_map.1 hmem
          exact heq ▸ hrow held hheld
        · rw [List.mem_singleton.1 hmem]
          exact hpair

/-- Each key has the text that it was bound to last. -/
theorem heldIn?_allBound {key : Object} (hkey : key ∈ keys.members) :
    ∀ {row : List (Object × Object)}, (∀ entry ∈ row, entry.1 ∈ keys.members) →
      heldIn? (allBound pairs row) key = (heldIn? pairs.reverse key).or (heldIn? row key) := by
  induction pairs with
  | nil => exact fun _ => rfl
  | cons pair rest ih =>
      intro row hrow
      obtain ⟨hpair, hrest⟩ := List.forall_mem_cons.1 hpairs
      have hbound : ∀ entry ∈ bound pair.1 pair.2 row, entry.1 ∈ keys.members :=
        forall_mem_allBound (List.forall_mem_singleton.2 hpair) hrow
      show heldIn? (allBound rest (bound pair.1 pair.2 row)) key = _
      rw [ih hrest hbound, heldIn?_bound hpair hkey pair.2 hrow, List.reverse_cons, heldIn?_append,
        Option.or_assoc, heldIn?_cons]
      split
      · rfl
      · rfl

end

/-- The game is as it was told: the keys stand in the order in which they were
first bound, each of them with the text that it was bound to last, and the
window is as it was switched last. -/
structure Reflects (pairs : List (Object × Object)) (switches : List Object) (g : Game) : Prop where
  order : g.bindings.map (·.1) = Object.distinct (pairs.map (·.1))
  held : ∀ key ∈ keys.members, heldIn? g.bindings key = heldIn? pairs.reverse key
  window : g.fullscreen = switches.getLast?.getD (.bool false)

/-- A game that was told nothing but that reflects it. -/
theorem reflects_told {pairs : List (Object × Object)} {switches : List Object} {g : Game}
    (hpairs : ∀ pair ∈ pairs, pair.1 ∈ keys.members)
    (hbindings : g.bindings = allBound pairs fresh.bindings)
    (hfullscreen : g.fullscreen = switches.getLast?.getD fresh.fullscreen) :
    g.Reflects pairs switches where
  order := by
    rw [hbindings]
    exact map_fst_allBound pairs [] [] fun _ => rfl
  held := by
    intro key hkey
    rw [hbindings]
    exact (heldIn?_allBound hpairs hkey (List.forall_mem_nil _)).trans Option.or_none
  window := hfullscreen

end Game

end CommandConsole.Demo
