/-
The closest texts come first, whatever order the candidates stand in.

A candidate has a rank: its similarity to the text, as a number, and then the
candidate itself (`rank`). Ranks are in a total order, and no two candidates
have the same one. The close candidates therefore stand in descending order of
their ranks in one way only (`ranked_eq_of_perm`), and the closest ones of them
are its front (`closeMatches_eq`).
-/
import Mathlib.Algebra.Order.Field.Rat
import Mathlib.Data.Prod.Lex
import Mathlib.Data.String.Basic
import CommandConsole.Text.Similarity

namespace CommandConsole.Text

-- ============================================================== similarity

namespace Similarity

/-- A similarity as a number. -/
def ratio (p : Similarity) : ℚ := p.shared / p.total

theorem total_between_pos (a b : String) : 0 < (between a b).total := by
  unfold between
  dsimp only
  split
  · exact Nat.one_pos
  · next h => exact Nat.pos_of_ne_zero h

/-- Similarities are compared as numbers. -/
theorem atLeast_iff {p q : Similarity} (hp : 0 < p.total) (hq : 0 < q.total) :
    p.atLeast q = true ↔ q.ratio ≤ p.ratio := by
  unfold atLeast ratio
  rw [decide_eq_true_eq, div_le_div_iff₀ (Nat.cast_pos.2 hq) (Nat.cast_pos.2 hp)]
  exact_mod_cast Iff.rfl

end Similarity

-- =================================================================== ranks

/-- The rank of a candidate among those for a text. -/
def rank (text candidate : String) : ℚ ×ₗ String :=
  toLex ((Similarity.between candidate text).ratio, candidate)

theorem rank_injective (text : String) : Function.Injective (rank text) := by
  intro s t h
  exact congrArg Prod.snd (toLex.injective h)

/-- A candidate with its similarity to a text. -/
def scored (text candidate : String) : Similarity × String :=
  (Similarity.between candidate text, candidate)

/-- Of two candidates the one of the higher rank is the closer one. -/
theorem closer_scored_iff (text s t : String) :
    closer (scored text s) (scored text t) = true ↔ rank text t ≤ rank text s := by
  have hs := Similarity.total_between_pos s text
  have ht := Similarity.total_between_pos t text
  have hts := Similarity.atLeast_iff ht hs
  have hst := Similarity.atLeast_iff hs ht
  unfold rank closer scored
  rw [Prod.Lex.toLex_le_toLex]
  dsimp only
  split
  · next hle =>
    rw [Bool.or_eq_true, Bool.not_eq_true', ← Bool.not_eq_true, decide_eq_true_eq, hts, not_le]
    have hle := hst.1 hle
    constructor
    · rintro (hlt | htext)
      · exact .inl hlt
      · exact hle.lt_or_eq.imp_right fun heq => ⟨heq, htext⟩
    · exact Or.imp_right And.right
  · next hnot =>
    rw [hst, not_le] at hnot
    refine iff_of_false Bool.false_ne_true ?_
    rintro (hlt | ⟨heq, -⟩)
    · exact lt_asymm hlt hnot
    · exact hnot.ne' heq

-- ================================================================= ranking

/-- A candidate is close to a text. -/
def isClose (text candidate : String) : Bool :=
  (Similarity.between candidate text).atLeast Similarity.cutoff

/-- The candidates that are close to a text, in descending order of their
ranks. -/
def ranked (text : String) (candidates : List String) : List String :=
  (candidates.filter (isClose text)).mergeSort fun s t => decide (rank text t ≤ rank text s)

theorem pairwise_ranked (text : String) (candidates : List String) :
    (ranked text candidates).Pairwise fun s t => rank text t ≤ rank text s := by
  refine (List.pairwise_mergeSort ?_ ?_ (candidates.filter (isClose text))).imp ?_
  · intro s t u hst htu
    rw [decide_eq_true_eq] at hst htu ⊢
    exact htu.trans hst
  · intro s t
    rw [Bool.or_eq_true, decide_eq_true_eq, decide_eq_true_eq]
    exact le_total _ _
  · exact of_decide_eq_true

theorem ranked_perm (text : String) (candidates : List String) :
    (ranked text candidates).Perm (candidates.filter (isClose text)) :=
  List.mergeSort_perm _ _

/-- The order of the candidates does not matter. -/
theorem ranked_eq_of_perm (text : String) {candidates others : List String}
    (h : candidates.Perm others) : ranked text candidates = ranked text others := by
  have hperm : (ranked text candidates).Perm (ranked text others) :=
    (ranked_perm text candidates).trans
      ((h.filter _).trans (ranked_perm text others).symm)
  refine List.Perm.eq_of_pairwise ?_ (pairwise_ranked _ _) (pairwise_ranked _ _) hperm
  exact fun s t _ _ hst hts => rank_injective text (le_antisymm hts hst)

/-- The closest texts are those close candidates that have the highest ranks,
in descending order of their ranks. -/
theorem closeMatches_eq (text : String) (candidates : List String) (count : Nat) :
    closeMatches text candidates count = (ranked text candidates).take count := by
  have hsorted : ((candidates.filter (isClose text)).map (scored text)).mergeSort closer
      = (ranked text candidates).map (scored text) := by
    refine (List.map_mergeSort fun s _ t _ => ?_).symm
    rw [Bool.eq_iff_iff, decide_eq_true_eq]
    exact (closer_scored_iff text s t).symm
  have hfilter : (candidates.map (scored text)).filter
        (fun p => p.1.atLeast Similarity.cutoff)
      = (candidates.filter (isClose text)).map (scored text) := by
    rw [List.filter_map]
    rfl
  show (((((candidates.map (scored text)).filter fun p => p.1.atLeast Similarity.cutoff).mergeSort
    closer).take count).map (·.2)) = _
  rw [hfilter, hsorted, ← List.map_take, List.map_map]
  exact List.map_id _

end CommandConsole.Text
