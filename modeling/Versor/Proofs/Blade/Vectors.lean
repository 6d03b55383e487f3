import Mathlib
import Versor.Algebra

/-!
# Blades as ascending lists of basis vectors

The binary digits of a blade and the list of its basis vectors determine
each other: `mem_vectors` reads a digit off the list, `vectors_sortedLT` says
that the list ascends, and an ascending list with the digits of a blade is
its list.  Exclusive or and conjunction of blades are the symmetric
difference and the intersection of the lists.
-/

namespace Versor
namespace Blade

/-! ## Digits and vectors -/

@[simp]
theorem mem_vectors
    {blade : Blade}
    {vector : Nat} :
    vector ∈ vectors blade ↔ Nat.testBit blade vector = true := by
  simp only [vectors, List.mem_filter, List.mem_range, and_iff_right_iff_imp]
  intro member
  have powerLe : 2 ^ vector ≤ blade := Nat.ge_two_pow_of_testBit member
  have positive : blade ≠ 0 := by
    rintro rfl
    simp at member
  exact Nat.lt_succ_of_le ((Nat.le_log2 positive).2 powerLe)

theorem vectors_sortedLT
    (blade : Blade) :
    (vectors blade).SortedLT :=
  (List.pairwise_lt_range.filter _).sortedLT

/-- An ascending list with the digits of a blade is the list of its vectors. -/
theorem eq_vectors
    {word : List Nat}
    {blade : Blade}
    (sorted : word.SortedLT)
    (members : ∀ vector, vector ∈ word ↔ Nat.testBit blade vector = true) :
    word = vectors blade :=
  sorted.eq_of_mem_iff (vectors_sortedLT blade) fun vector =>
    (members vector).trans mem_vectors.symm

/-- Every ascending list holds the vectors of a blade. -/
theorem exists_eq_vectors
    {word : List Nat}
    (sorted : word.SortedLT) :
    ∃ blade, word = vectors blade := by
  have digits : ∃ blade : Blade, ∀ vector, vector ∈ word ↔ Nat.testBit blade vector = true := by
    clear sorted
    induction word with
    | nil => exact ⟨0, by simp⟩
    | cons first rest inductionHypothesis =>
        rcases inductionHypothesis with ⟨blade, members⟩
        refine ⟨blade ||| 2 ^ first, fun vector => ?_⟩
        rw [List.mem_cons, members, Nat.testBit_or, Nat.testBit_two_pow, Bool.or_eq_true,
          decide_eq_true_iff, or_comm, @eq_comm _ vector first]
  rcases digits with ⟨blade, members⟩
  exact ⟨blade, eq_vectors sorted members⟩

theorem vectors_injective :
    Function.Injective vectors := by
  intro left right equal
  apply Nat.eq_of_testBit_eq
  intro vector
  have sameMembers : vector ∈ vectors left ↔ vector ∈ vectors right := by
    rw [equal]
  rw [mem_vectors, mem_vectors] at sameMembers
  exact Bool.eq_iff_iff.2 sameMembers

@[simp]
theorem vectors_zero :
    vectors 0 = [] := by
  rfl

theorem grade_eq_length
    (blade : Blade) :
    grade blade = (vectors blade).length :=
  rfl

/-- The common vectors of two blades. -/
theorem vectors_and
    (left right : Blade) :
    vectors (left &&& right) =
      (vectors left).filter (· ∈ vectors right) := by
  symm
  apply eq_vectors
  · exact ((vectors_sortedLT left).pairwise.filter _).sortedLT
  · intro vector
    simp

/-- The vectors of the exclusive or are those of exactly one of the blades. -/
theorem mem_vectors_xor
    {left right : Blade}
    {vector : Nat} :
    vector ∈ vectors (left ^^^ right) ↔
      ¬ (vector ∈ vectors left ↔ vector ∈ vectors right) := by
  simp only [mem_vectors, Nat.testBit_xor]
  cases Nat.testBit left vector <;>
    cases Nat.testBit right vector <;>
      simp

/-! ## Signs of parities -/

theorem paritySign_eq_pow
    (count : Nat) :
    paritySign count = (-1) ^ count := by
  rw [paritySign]
  split
  · next even =>
    exact (Even.neg_one_pow (Nat.even_iff.2 even)).symm
  · next odd =>
    exact (Odd.neg_one_pow (Nat.odd_iff.2 (by omega))).symm

@[simp]
theorem paritySign_zero :
    paritySign 0 = 1 :=
  rfl

theorem paritySign_succ
    (count : Nat) :
    paritySign (count + 1) = -paritySign count := by
  simp [paritySign_eq_pow, pow_succ]

theorem paritySign_add
    (first second : Nat) :
    paritySign (first + second) = paritySign first * paritySign second := by
  simp [paritySign_eq_pow, pow_add]

/-! ## Counting inversions -/

/-- The inversions of two blades, one summand for each vector of the second one. -/
theorem inversions_eq_sum
    (left right : Blade) :
    inversions left right =
      ((vectors right).map fun vector =>
        (vectors left).countP (vector < ·)).sum := by
  rw [inversions]
  induction vectors right with
  | nil => rfl
  | cons vector rest inductionHypothesis =>
      simp only [List.foldr_cons, List.map_cons, List.sum_cons]
      rw [inductionHypothesis]

end Blade
end Versor
