/-
Registering a parser.

A registration ends in one of four ways (`Registering`): what is offered cannot be
called, or the type cannot be looked up, or the type has a parser already, or the
parser is added behind the others. No later proof about registrations looks at the
order of these checks.

A parser that is added is found for every type that is the same as its own and had
none before, and it is the only one that it changes the look-up of
(`entry?_add`). So the types of the parsers stay apart (`Distinct.add`).
-/
import CommandConsole.Proofs.Parsers.Route

namespace CommandConsole.Parsers

variable {ρ : Type} {ps : Parsers ρ} {type : Ty} {e : ParserEntry ρ}

-- ============================================================ registration

/-- Some parsers and one more behind them. -/
def add (ps : Parsers ρ) (e : ParserEntry ρ) : Parsers ρ := ⟨ps.entries ++ [e]⟩

/-- How a registration ends. -/
inductive Registering (ps : Parsers ρ) (type : Ty) (default? : Option Object) :
    ParserCandidate ρ → Except Problem (Bool × Parsers ρ) → Prop
  | uncallable (x : Object) :
      Registering ps type default? (.object x) (.error .parserNotCallable)
  | unhashable {cls : String} (hkey : type.unhashable? = some cls) (parse : String → ρ) :
      Registering ps type default? (.routine parse) (.error (.unhashable cls))
  | held (hkey : type.unhashable? = none) (hheld : ps.contains type = true)
      (parse : String → ρ) : Registering ps type default? (.routine parse) (.ok (false, ps))
  | added (hkey : type.unhashable? = none) (hfree : ps.contains type = false)
      (parse : String → ρ) :
      Registering ps type default? (.routine parse) (.ok (true, ps.add ⟨type, parse, default?⟩))

theorem registering (ps : Parsers ρ) (type : Ty) (default? : Option Object)
    (candidate : ParserCandidate ρ) :
    Registering ps type default? candidate (ps.register type candidate default?) := by
  cases candidate with
  | object x => exact .uncallable x
  | routine parse =>
      unfold register key
      cases hkey : type.unhashable? with
      | some cls => exact .unhashable hkey parse
      | none =>
          show Registering ps type default? (.routine parse) (if _ then _ else _)
          split
          · next hheld => exact .held hkey hheld parse
          · next hfree => exact .added hkey (Bool.eq_false_iff.2 hfree) parse

/-- A parser that is registered is the one that was offered, and stands behind those
from before. -/
theorem exists_of_register_eq_ok_true {parsers : Parsers ρ} {candidate : ParserCandidate ρ}
    {default? : Option Object} (h : ps.register type candidate default? = .ok (true, parsers)) :
    ∃ parse, candidate = .routine parse ∧ parsers = ps.add ⟨type, parse, default?⟩ := by
  have hregistering := registering ps type default? candidate
  rw [h] at hregistering
  cases hregistering with
  | added _ _ parse => exact ⟨parse, rfl, rfl⟩

-- ================================================================= look-up

/-- A look-up finds what it has found before, and otherwise the parser that was
added. -/
theorem entry?_add (ps : Parsers ρ) (e : ParserEntry ρ) (type : Ty) :
    entry? (ps.add e) type = (ps.entry? type).or (if e.type.same type then some e else none) := by
  unfold entry? add
  rw [List.find?_append, List.find?_singleton]

theorem contains_eq_true (h : ps.entry? type = some e) : ps.contains type = true := by
  unfold contains
  rw [h]
  rfl

theorem contains_eq_false (h : ps.entry? type = none) : ps.contains type = false := by
  unfold contains
  rw [h]
  rfl

theorem entry?_add_of_eq_some {held : ParserEntry ρ} (h : ps.entry? type = some held) :
    entry? (ps.add e) type = some held := by
  rw [entry?_add, h, Option.some_or]

/-- No two parsers are for the same type. -/
def Distinct (ps : Parsers ρ) : Prop := ps.entries.Pairwise fun a b => a.type.same b.type = false

theorem distinct_empty : (empty : Parsers ρ).Distinct := .nil

theorem Distinct.add (h : ps.Distinct) (hfree : ps.contains e.type = false) :
    (ps.add e).Distinct := by
  have hnone := List.find?_eq_none.1 (entry?_eq_none hfree)
  refine List.pairwise_append.2 ⟨h, List.pairwise_singleton _ _, fun a ha b hb => ?_⟩
  obtain rfl := List.mem_singleton.1 hb
  exact Bool.eq_false_iff.2 (hnone a ha)

end CommandConsole.Parsers
