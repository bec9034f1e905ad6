/-
Faults without regard to their colours.

A console tells its faults, in an option of theirs, whether it has colours, and
host code may keep such faults, pass them on or raise them. Two faults that
differ in nothing but that option, also where one stands inside another, are
the same without regard to colours (`Fault.dull true`). Nothing is left out
with regard to them (`Fault.dull false`, `Raised.dull_false`).

What makes faults out of others makes the same ones out of the same ones
(`Fault.dull_replaceOf`, `Fault.dull_callbackFailed`, `Fault.dull_ofCoercion`),
and no other option and no text of a fault depends on its colours.
-/
import CommandConsole.Fault.Shown
import CommandConsole.Proofs.Fault.Options

namespace CommandConsole

-- ================================================================== faults

mutual

/-- An error without regard to colours, if `colours` says so. -/
def Raised.dull (colours : Bool) : Raised → Raised
  | .fault f => .fault (Fault.dull colours f)
  | e => e

/-- A fault without regard to colours. -/
def Fault.dull (colours : Bool) : Fault → Fault
  | ⟨kind, message, options⟩ => ⟨kind, message, Fault.dullOptions colours options⟩

/-- Options of faults without regard to colours. -/
def Fault.dullOptions (colours : Bool) :
    List (String × Detail Raised) → List (String × Detail Raised)
  | [] => []
  | entry :: rest => Fault.dullEntry colours entry :: Fault.dullOptions colours rest

/-- An option under its name. It does not matter what the one holds that is
about colours. -/
def Fault.dullEntry (colours : Bool) : String × Detail Raised → String × Detail Raised
  | (name, d) =>
      (name, if colours = true ∧ name = "colorful" then .object .none else Detail.dull colours d)

/-- What an option holds, without regard to colours. -/
def Detail.dull (colours : Bool) : Detail Raised → Detail Raised
  | .error e => .error (Raised.dull colours e)
  | d => d

end

mutual

theorem Raised.dull_false : ∀ e : Raised, e.dull false = e
  | .fault f => congrArg Raised.fault (Fault.dull_false f)
  | .problem _ | .host _ _ | .interrupt _ _ | .exit _ => rfl

/-- With regard to colours nothing is left out of a fault. -/
theorem Fault.dull_false : ∀ f : Fault, f.dull false = f
  | ⟨kind, message, options⟩ => congrArg (FaultOf.mk kind message) (Fault.dullOptions_false options)

theorem Fault.dullOptions_false :
    ∀ options : List (String × Detail Raised), Fault.dullOptions false options = options
  | [] => rfl
  | entry :: rest => by
      rw [Fault.dullOptions, Fault.dullEntry_false entry, Fault.dullOptions_false rest]

theorem Fault.dullEntry_false :
    ∀ entry : String × Detail Raised, Fault.dullEntry false entry = entry
  | (name, d) => congrArg (Prod.mk name) (Detail.dull_false d)

theorem Detail.dull_false : ∀ d : Detail Raised, Detail.dull false d = d
  | .error e => congrArg Detail.error (Raised.dull_false e)
  | .object _ | .code _ | .command _ | .parameter _ | .conflicts _ | .type _ | .output => rfl

end

variable (colours : Bool)

-- ================================================================= details

namespace Detail

theorem truthy_dull (d : Detail Raised) : (d.dull colours).truthy = d.truthy := by
  cases d with
  | _ => rfl

theorem className_dull (d : Detail Raised) : (d.dull colours).className = d.className := by
  cases d with
  | error e =>
      cases e with
      | fault f =>
          obtain ⟨kind, message, options⟩ := f
          rfl
      | _ => rfl
  | _ => rfl

theorem detailText_dull (d : Detail Raised) :
    Fault.detailText (d.dull colours) = Fault.detailText d := by
  cases d with
  | _ => rfl

end Detail

-- ================================================================= options

namespace Fault

/-- Nothing but the options of a fault is about colours. -/
theorem dull_eq (f : Fault) :
    f.dull colours = ⟨f.kind, f.message, dullOptions colours f.options⟩ := by
  cases f with
  | mk kind message options => rfl

theorem kind_dull (f : Fault) : (f.dull colours).kind = f.kind := by
  rw [dull_eq]

theorem message_dull (f : Fault) : (f.dull colours).message = f.message := by
  rw [dull_eq]

theorem lookup_dullOptions {name : String} (hname : name ≠ "colorful")
    (options : List (String × Detail Raised)) :
    (dullOptions colours options).lookup name
      = (options.lookup name).map (Detail.dull colours) := by
  induction options with
  | nil => rfl
  | cons entry rest ih =>
      obtain ⟨held, d⟩ := entry
      rw [dullOptions, dullEntry, FaultOf.lookup_cons, FaultOf.lookup_cons, ih]
      by_cases hheld : name = held
      · subst hheld
        rw [if_pos rfl, if_pos rfl, if_neg fun h => hname h.2]
        rfl
      · rw [if_neg hheld, if_neg hheld]

/-- Every other option is the same. -/
theorem option?_dull {name : String} (hname : name ≠ "colorful") (f : Fault) :
    (f.dull colours).option? name = (f.option? name).map (Detail.dull colours) := by
  rw [dull_eq]
  exact lookup_dullOptions colours hname f.options

theorem holds_dull {name : String} (hname : name ≠ "colorful") (f : Fault) (missing : Bool) :
    (f.dull colours).holds name missing = f.holds name missing := by
  unfold FaultOf.holds
  rw [option?_dull colours hname]
  cases f.option? name with
  | none => rfl
  | some d => exact d.truthy_dull colours

section

variable {colours} {f g : Fault} (hfg : f.dull colours = g.dull colours)

include hfg

/-- Faults that are the same without regard to colours are of one kind ... -/
theorem kind_eq : f.kind = g.kind := by
  rw [← kind_dull colours f, hfg, kind_dull]

/-- ... and have the same message ... -/
theorem message_eq : f.message = g.message := by
  rw [← message_dull colours f, hfg, message_dull]

/-- ... and the same other options count as true. -/
theorem holds_eq {name : String} (hname : name ≠ "colorful") (missing : Bool) :
    f.holds name missing = g.holds name missing := by
  rw [← holds_dull colours hname, hfg, holds_dull colours hname]

end

theorem dullOptions_setOption (options : List (String × Detail Raised)) (name : String)
    (d : Detail Raised) :
    dullOptions colours (FaultOf.setOption options name d)
      = FaultOf.setOption (dullOptions colours options) name (dullEntry colours (name, d)).2 := by
  induction options with
  | nil => rfl
  | cons entry rest ih =>
      obtain ⟨held, old⟩ := entry
      show dullOptions colours (if held = name then _ else _)
        = if held = name then _ else _
      split
      · rfl
      · exact congrArg (dullEntry colours (held, old) :: ·) ih

theorem dullOptions_merge (options overrides : List (String × Detail Raised)) :
    dullOptions colours (FaultOf.merge options overrides)
      = FaultOf.merge (dullOptions colours options) (dullOptions colours overrides) := by
  induction overrides generalizing options with
  | nil => rfl
  | cons entry rest ih =>
      obtain ⟨name, d⟩ := entry
      show dullOptions colours (FaultOf.merge (FaultOf.setOption options name d) rest) = _
      rw [ih, dullOptions_setOption]
      rfl

theorem dull_replace (f : Fault) (overrides : List (String × Detail Raised)) :
    Fault.dull colours (f.replace overrides)
      = FaultOf.replace (f.dull colours) (dullOptions colours overrides) := by
  rw [dull_eq, dull_eq]
  exact congrArg (FaultOf.mk f.kind f.message) (dullOptions_merge colours f.options overrides)

/-- The same faults are completed by the same options to the same faults. -/
theorem dull_replaceOf (f : Fault) (unused : List Object)
    (overrides : List (String × Detail Raised)) :
    (f.replaceOf unused overrides).map (Fault.dull colours)
      = FaultOf.replaceOf (f.dull colours) unused (dullOptions colours overrides) := by
  unfold FaultOf.replaceOf
  rw [lookup_dullOptions colours (by decide), Option.isSome_map, kind_dull]
  split
  · rfl
  · split
    · exact congrArg Except.ok (dull_replace colours f overrides)
    · rfl

end Fault

namespace Raised

theorem label_dull (e : Raised) : (e.dull colours).label = e.label := by
  cases e with
  | fault f => exact congrArg FaultKind.label (Fault.kind_dull colours f)
  | _ => rfl

theorem text_dull (e : Raised) : (e.dull colours).text = e.text := by
  cases e with
  | fault f => exact congrArg (Option.getD · Object.unset.written) (Fault.message_dull colours f)
  | _ => rfl

theorem isCaught_dull (e : Raised) : (e.dull colours).isCaught = e.isCaught := by
  cases e with
  | _ => rfl

variable {colours} {e e' : Raised}

theorem isCaught_eq (he : e.dull colours = e'.dull colours) : e.isCaught = e'.isCaught := by
  rw [← isCaught_dull colours, he, isCaught_dull]

/-- The same errors are told in the same words. -/
theorem reason_eq (he : e.dull colours = e'.dull colours) :
    Fault.reason e = Fault.reason e' := by
  have htext : e.text = e'.text := by rw [← text_dull colours, he, text_dull]
  have hlabel : e.label = e'.label := by rw [← label_dull colours, he, label_dull]
  unfold Fault.reason
  rw [htext, hlabel]

end Raised

-- ================================================================= reports

namespace Fault

theorem dullOptions_eq_map (colours : Bool) (options : List (String × Detail Raised)) :
    dullOptions colours options = options.map (dullEntry colours) := by
  induction options with
  | nil => rfl
  | cons entry rest ih => rw [dullOptions, ih, List.map_cons]

variable {colours : Bool} {e e' : Raised} (he : e.dull colours = e'.dull colours)

include he

theorem dullEntry_exception :
    dullEntry colours ("exception", .error e) = dullEntry colours ("exception", .error e') := by
  have hname : ¬ (colours = true ∧ "exception" = "colorful") := fun h => absurd h.2 (by decide)
  rw [dullEntry, dullEntry, if_neg hname, if_neg hname, Detail.dull, Detail.dull, he]

theorem dull_callbackFailed (h : Host) (line : String) (o : Outline) :
    Fault.dull colours (callbackFailed h line o e)
      = Fault.dull colours (callbackFailed h line o e') := by
  rw [dull_eq, dull_eq]
  unfold callbackFailed
  dsimp only
  rw [Raised.reason_eq he, dullOptions_eq_map, dullOptions_eq_map]
  simp only [List.map_append, List.map_cons, List.map_nil, dullEntry_exception he]

theorem dull_parameterCoercion (h : Host) (p : Place) :
    Fault.dull colours (parameterCoercion h p e)
      = Fault.dull colours (parameterCoercion h p e') := by
  rw [dull_eq, dull_eq]
  unfold parameterCoercion
  dsimp only
  rw [dullOptions_eq_map, dullOptions_eq_map]
  simp only [List.map_append, List.map_cons, List.map_nil, dullEntry_exception he]

omit he in
theorem ofCoercion_fault (h : Host) (p : Place) (f : Fault) :
    ofCoercion h p (.fault f)
      = if f.kind = .unknownType then f.replace (unknownTypeOptions h p)
        else parameterCoercion h p (.fault f) := by
  obtain ⟨kind, message, options⟩ := f
  cases kind with
  | _ => rfl

/-- The same errors of a conversion are reported by the same faults. -/
theorem dull_ofCoercion (h : Host) (p : Place) :
    Fault.dull colours (ofCoercion h p e) = Fault.dull colours (ofCoercion h p e') := by
  have hother := dull_parameterCoercion he h p
  cases e with
  | fault f =>
      cases e' with
      | fault g =>
          have hfg : Fault.dull colours f = Fault.dull colours g := Raised.fault.inj he
          rw [ofCoercion_fault, ofCoercion_fault, kind_eq hfg]
          split
          · rw [dull_replace, dull_replace, hfg]
          · exact hother
      | _ => cases he
  | _ =>
      cases e' with
      | fault g => cases he
      | _ => exact hother

end Fault

end CommandConsole
