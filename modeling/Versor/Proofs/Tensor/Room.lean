import Versor.Proofs.Tensor.Stretch
import Versor.Tensor.Elementwise

/-!
# Room for tensors

There is room for a tensor if the sizes of its shape, counted as one at least,
do not make more entries than fit into memory, and these can be counted
(`isRepresentable_of_le`).  A shape that stretches to another one needs no more
(`Stretches.extent_le`).
-/

namespace Versor
namespace Tensor

/-- Number of entries if no size were zero. -/
def extent
    (shape : List Nat) :
    Nat :=
  (shape.map (max 1)).prod

@[simp]
theorem extent_nil :
    extent [] = 1 :=
  rfl

@[simp]
theorem extent_cons
    (size : Nat)
    (rest : List Nat) :
    extent (size :: rest) = max 1 size * extent rest :=
  rfl

theorem extent_append
    (shape others : List Nat) :
    extent (shape ++ others) = extent shape * extent others := by
  rw [extent, List.map_append, List.prod_append, extent, extent]

theorem extent_reverse
    (shape : List Nat) :
    extent shape.reverse = extent shape := by
  rw [extent, List.map_reverse, List.prod_reverse, extent]

theorem extent_pos
    (shape : List Nat) :
    0 < extent shape := by
  induction shape with
  | nil => exact Nat.one_pos
  | cons size rest inductionHypothesis =>
      exact Nat.mul_pos (Nat.one_pos.trans_le (le_max_left 1 size)) inductionHypothesis

theorem entryCount_le_extent
    (shape : List Nat) :
    entryCount shape ≤ extent shape := by
  induction shape with
  | nil => exact le_rfl
  | cons size rest inductionHypothesis =>
      exact Nat.mul_le_mul (le_max_right 1 size) inductionHypothesis

theorem entryCount_takeWhile_le_extent
    (shape : List Nat) :
    entryCount (shape.takeWhile (· ≠ 0)) ≤ extent shape := by
  induction shape with
  | nil => exact le_rfl
  | cons size rest inductionHypothesis =>
      rw [List.takeWhile_cons]
      split
      · exact Nat.mul_le_mul (le_max_right 1 size) inductionHypothesis
      · exact extent_pos (size :: rest)

theorem extent_tail_le
    (shape : List Nat) :
    extent shape.tail ≤ extent shape := by
  cases shape with
  | nil => exact le_rfl
  | cons size rest => exact Nat.le_mul_of_pos_left _ (Nat.one_pos.trans_le (le_max_left 1 size))

/-- There is room for a tensor if there were even without sizes of zero. -/
theorem isRepresentable_of_le
    {capacity : Nat}
    {shape : List Nat}
    (few : extent shape ≤ capacity)
    (small : extent shape < twoTo 63) :
    isRepresentable capacity shape = true := by
  have less : twoTo 63 < twoTo 64 := by decide
  have entries : entryCount shape ≤ capacity := (entryCount_le_extent shape).trans few
  have countable : entryCount (shape.takeWhile (· ≠ 0)) < twoTo 64 :=
    ((entryCount_takeWhile_le_extent shape).trans_lt small).trans less
  have rows : entryCount (shape.tail.map (max 1)) < twoTo 63 :=
    (extent_tail_le shape).trans_lt small
  rw [isRepresentable, isCountable, decide_eq_true entries, decide_eq_true countable,
    decide_eq_true rows]
  rfl

/-- A shape that stretches to another one does not have more entries. -/
theorem Stretches.extent_le
    {shape target : List Nat}
    (stretches : Stretches shape target) :
    extent shape ≤ extent target := by
  have reversed {sizes others : List Nat} (stretches : StretchesReversed sizes others) :
      extent sizes ≤ extent others := by
    induction stretches with
    | nil others => exact extent_pos others
    | cons fits _ inductionHypothesis =>
        refine Nat.mul_le_mul ?_ inductionHypothesis
        rcases fits with rfl | rfl
        · exact le_max_left 1 _
        · exact le_rfl
  rw [← extent_reverse shape, ← extent_reverse target]
  exact reversed stretches

end Tensor
end Versor
