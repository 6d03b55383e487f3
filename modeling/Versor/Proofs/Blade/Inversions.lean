import Versor.Proofs.Reference.Duality

/-!
# Counting the vectors that are out of order

The sign of sorting the vectors of one blade behind those of another one is the parity
of the pairs that are out of order (`inversionPairs`).  The pairs can be counted by
moving digits as well: where the first blade has been moved down by some places, its
common vectors with the second blade are the pairs with just this distance, so counting
them for every distance counts all pairs once (`countSwaps_eq`).

With the sign the blades multiply associatively, whether or not they have common vectors
(`reorderingSign_laws`).
-/

namespace Versor
namespace Blade

/-! ## Pairs out of order -/

/-- The pairs of a vector of one blade and a lower vector of another one. -/
def inversionPairs
    (left right : Blade) :
    Set (Nat × Nat) :=
  {pair |
    Nat.testBit left pair.1 = true ∧ Nat.testBit right pair.2 = true ∧ pair.2 < pair.1}

theorem inversionPairs_eq_coe
    (left right : Blade) :
    inversionPairs left right =
      ↑(((vectors left).toFinset ×ˢ (vectors right).toFinset).filter fun pair =>
        pair.2 < pair.1) := by
  ext pair
  simp [inversionPairs, and_assoc]

theorem finite_inversionPairs
    (left right : Blade) :
    (inversionPairs left right).Finite := by
  rw [inversionPairs_eq_coe]
  exact Finset.finite_toSet _

/-- The pairs out of order, counted at their lower vectors. -/
theorem ncard_inversionPairs
    (left right : Blade) :
    (inversionPairs left right).ncard = inversions left right := by
  have above (vector : Nat) :
      ((vectors left).toFinset.filter (vector < ·)).card =
        (vectors left).countP (vector < ·) := by
    have distinct : ((vectors left).filter (vector < ·)).Nodup :=
      (vectors_sortedLT left).nodup.filter _
    rw [List.countP_eq_length_filter, ← List.toFinset_card_of_nodup distinct,
      List.toFinset_filter]
    simp only [decide_eq_true_eq]
  rw [inversionPairs_eq_coe, Set.ncard_coe_finset, Finset.card_filter, Finset.sum_product_right,
    inversions_eq_sum, ← List.sum_toFinset _ (vectors_sortedLT right).nodup]
  simp only [← Finset.card_filter, above]

/-! ## Moving digits -/

/-- Moving a blade down by one place moves each of its vectors down, and drops the lowest one. -/
theorem map_succ_vectors_shiftRight
    (blade : Blade) :
    (vectors (blade >>> 1)).map (· + 1) = (vectors blade).filter (0 < ·) := by
  apply List.SortedLT.eq_of_mem_iff
  · have moved : ((vectors (blade >>> 1)).map (· + 1)).Pairwise (· < ·) :=
      (vectors_sortedLT _).pairwise.map _ fun _ _ less => Nat.succ_lt_succ less
    exact moved.sortedLT
  · exact ((vectors_sortedLT _).pairwise.filter _).sortedLT
  · intro vector
    cases vector with
    | zero => simp
    | succ lower => simp [Nat.testBit_shiftRight, Nat.add_comm 1 lower]

/-- What stands at or above a place of the moved blade stood above that place. -/
theorem countP_vectors_shiftRight
    (blade : Blade)
    (vector : Nat) :
    (vectors (blade >>> 1)).countP (vector ≤ ·) = (vectors blade).countP (vector < ·) := by
  calc
    (vectors (blade >>> 1)).countP (vector ≤ ·) =
        ((vectors (blade >>> 1)).map (· + 1)).countP (vector < ·) := by
      rw [List.countP_map]
      simp [Function.comp_def]
    _ = (vectors blade).countP (vector < ·) := by
      rw [map_succ_vectors_shiftRight, List.countP_filter]
      apply List.countP_congr
      intro other _
      simp only [Bool.and_eq_true, decide_eq_true_eq, and_iff_left_iff_imp]
      exact fun less => (Nat.zero_le vector).trans_lt less

/-- The vectors from a place on are the one at the place, if it is there, and those above it. -/
theorem countP_vectors_le
    (blade : Blade)
    (vector : Nat) :
    (vectors blade).countP (vector ≤ ·) =
      (vectors blade).count vector + (vectors blade).countP (vector < ·) := by
  induction vectors blade with
  | nil => rfl
  | cons first rest inductionHypothesis =>
      simp only [List.countP_cons, List.count_cons, inductionHypothesis, decide_eq_true_eq,
        beq_iff_eq]
      split_ifs <;> omega

/--
Count the common vectors of two blades, move the first one down by one place and go on
until nothing of it is left.
-/
def countSwaps
    (moving fixed : Blade)
    (swaps : Nat) :
    Nat :=
  if moving = 0 then swaps
  else countSwaps (moving >>> 1) fixed (swaps + grade (moving &&& fixed))
termination_by moving
decreasing_by
  rw [Nat.shiftRight_one]
  exact Nat.div_lt_self (Nat.pos_of_ne_zero ‹_›) Nat.one_lt_two

/-- Each vector of the fixed blade is met once by all vectors that start at or above it. -/
theorem countSwaps_eq
    (moving fixed : Blade)
    (swaps : Nat) :
    countSwaps moving fixed swaps =
      swaps + ((vectors fixed).map fun vector => (vectors moving).countP (vector ≤ ·)).sum := by
  fun_induction countSwaps moving fixed swaps with
  | case1 swaps => simp
  | case2 moving swaps _ inductionHypothesis =>
      rw [inductionHypothesis, Nat.and_comm, grade_and, Nat.add_assoc, ← List.sum_map_add]
      simp only [countP_vectors_shiftRight, countP_vectors_le moving]

theorem inversions_eq_countSwaps
    (left right : Blade) :
    inversions left right = countSwaps (left >>> 1) right 0 := by
  rw [countSwaps_eq, Nat.zero_add, inversions_eq_sum]
  simp only [countP_vectors_shiftRight]

/-! ## The sign -/

/-- Nothing can be passed by a blade that has no vector but the lowest one. -/
theorem inversions_of_lt_two
    {left : Blade}
    (few : left < 2)
    (right : Blade) :
    inversions left right = 0 := by
  have nothingLeft : left >>> 1 = 0 := by
    rw [Nat.shiftRight_one]
    exact Nat.div_eq_of_lt few
  rw [inversions_eq_countSwaps, nothingLeft, countSwaps_eq, vectors_zero]
  simp

/-- The check of literals makes no difference to natural numbers. -/
theorem reorderingSignOf_natCast
    (left right : Blade) :
    reorderingSignOf (.integer left) (.integer right) = .ok (reorderingSign left right) := by
  have first : Literal.toIndex (.integer (left : Int)) = .ok (left : Int) := rfl
  have second : Literal.toIndex (.integer (right : Int)) = .ok (right : Int) := rfl
  rw [reorderingSignOf, first, second]
  by_cases few : left < 2
  · have unlooked : (left : Int) < 2 := by exact_mod_cast few
    simp [bind, Except.bind, unlooked, reorderingSign, inversions_of_lt_two few]
  · have looked : ¬ (left : Int) < 2 := by exact_mod_cast few
    simp [bind, Except.bind, looked]

/--
The sign of sorting the vectors of two blades is the parity of the pairs that are out of
order, which moving the digits counts.  Sorting three blades takes the same sign from
either side, also where they have common vectors.
-/
theorem reorderingSign_laws
    (first second third : Blade) :
    reorderingSignOf (.integer first) (.integer second) = .ok (reorderingSign first second) ∧
      (inversionPairs first second).Finite ∧
      reorderingSign first second = (-1) ^ (inversionPairs first second).ncard ∧
      reorderingSign first second = paritySign (countSwaps (first >>> 1) second 0) ∧
      reorderingSign first second * reorderingSign (first ^^^ second) third =
        reorderingSign second third * reorderingSign first (second ^^^ third) := by
  refine ⟨?literals, ?finite, ?pairs, ?moving, ?threeBlades⟩
  case literals => exact reorderingSignOf_natCast first second
  case finite => exact finite_inversionPairs first second
  case pairs => rw [reorderingSign, ncard_inversionPairs, paritySign_eq_pow]
  case moving => rw [reorderingSign, inversions_eq_countSwaps]
  case threeBlades => exact reorderingSign_assoc first second third

end Blade
end Versor
