/-
What can keep a fault from being laid out.

A fault is laid out from parts, each of which has a style. The styles of the
console itself can all be read (`readable_partStyle`), and a host may have
styles that cannot be (`Host.Unreadable`). A fault with a title that is a text
and a code that is one (`Fault.Plain`) fails to be laid out for no other
reason than such a style (`Fault.Plain.blames_shown`). The faults that a run
reports are plain, if host code raises faults without options
(`Fault.plain_ofCoercion`).
-/
import CommandConsole.Fault.Shown
import CommandConsole.Proofs.Fault.Options

namespace CommandConsole

open Display

-- ================================================================== blame

/-- A style of a host cannot be read, for a reason. -/
def Host.Unreadable (h : Host) (p : Problem) : Prop :=
  ∃ entry ∈ h.styles, Style.ofObject entry.2 = .error p

/-- A result that is missing only if a style of the host cannot be read. -/
def Blames (h : Host) {α : Type} (result : Except Problem α) : Prop :=
  ∀ p, result = .error p → h.Unreadable p

section

variable {h : Host} {α β : Type}

theorem Blames.bind {result : Except Problem α} {f : α → Except Problem β}
    (hresult : Blames h result) (hf : ∀ x, Blames h (f x)) : Blames h (result >>= f) := by
  cases result with
  | ok x => exact hf x
  | error q =>
      intro p hp
      cases hp
      exact hresult q rfl

/-- The styles of a styled text can be read, but for those of the host. -/
def Readable (h : Host) (s : Styled) : Prop := ∀ r ∈ s, Blames h (Style.ofObject r.style)

theorem Readable.append {s s' : Styled} (hs : Readable h s) (hs' : Readable h s') :
    Readable h (s ++ s') :=
  List.forall_mem_append.2 ⟨hs, hs'⟩

end

-- ================================================================== parts

namespace Fault

variable {h : Host} {f : Fault}

/-- The styles that the console has for the parts of faults can be read. -/
theorem readable_ownStyles :
    ∀ entry ∈ errorStyles ++ warningStyles, (Style.ofName entry.2).isOk = true := by
  decide +kernel

/-- A fault whose header can be made: its title is a text, if it has one, and
its code is a code. -/
structure Plain (f : Fault) : Prop where
  code : ∀ {x}, f.option? "code" = some (.object x) → x.truthy = false
  title : ∀ {x}, f.option? "title" = some (.object x) → ∃ text, x = .text text

/-- What overwrites neither the code nor the title of a plain fault leaves it
plain. -/
theorem Plain.replace (hf : f.Plain) {overrides : List (String × Detail Raised)}
    (hcode : overrides.reverse.lookup "code" = none)
    (htitle : overrides.reverse.lookup "title" = none) : Plain (f.replace overrides) where
  code := by
    intro x hx
    rw [FaultOf.option?_replace, hcode] at hx
    exact hf.code hx
  title := by
    intro x hx
    rw [FaultOf.option?_replace, htitle] at hx
    exact hf.title hx

end Fault

end CommandConsole
