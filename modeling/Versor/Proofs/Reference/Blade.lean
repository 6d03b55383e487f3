import Versor.Multivector.Product
import Versor.Proofs.Reference.Word

/-!
# Products of blades as products of words

The tables of an algebra work on binary digits.  Read as ascending words,
blades multiply, reverse and complement as words do by hand, for every
metric and without a bound on the blades except where complements are taken.
The squares of common vectors can be read off two masks instead
(`Algebra.productSign_eq_of_masks`).
-/

namespace Versor
namespace Algebra

open Blade

variable (algebra : Algebra)

theorem metricFactor_eq_prod
    (shared : Blade) :
    algebra.metricFactor shared =
      ((vectors shared).map algebra.metric.square).prod := by
  unfold metricFactor
  induction vectors shared with
  | nil => rfl
  | cons vector rest inductionHypothesis =>
      simp only [List.foldr_cons, List.map_cons, List.prod_cons]
      rw [inductionHypothesis]

/-- Two blades are multiplied by swapping and contracting their vectors. -/
theorem multiply_vectors
    (left right : Blade) :
    Word.multiply algebra.metric.square (vectors left) (vectors right) =
      (algebra.productSign left right, vectors (left ^^^ right)) := by
  have leftSorted := vectors_sortedLT left
  have rightSorted := vectors_sortedLT right
  apply Prod.ext
  · simp only [productSign, reorderingSign]
    rw [Word.multiply_sign leftSorted rightSorted, Word.swaps_eq_sum_right,
      inversions_eq_sum, metricFactor_eq_prod, vectors_and]
  · refine
      (Word.multiply_sortedLT rightSorted).eq_of_mem_iff
        (vectors_sortedLT _) fun vector => ?_
    rw [Word.mem_multiply leftSorted.nodup rightSorted, mem_vectors_xor]

theorem reversed_vectors
    (square : Nat → Int)
    (blade : Blade) :
    Word.reversed square (vectors blade) =
      (reverseSign blade, vectors blade) :=
  Word.reversed_of_sorted (vectors_sortedLT blade)

/-! ## Blades of an algebra -/

theorem bladeCount_eq_pow :
    algebra.bladeCount = 2 ^ algebra.dimension :=
  rfl

theorem testBit_pseudoscalar
    (vector : Nat) :
    Nat.testBit algebra.pseudoscalar vector = decide (vector < algebra.dimension) := by
  rw [pseudoscalar, bladeCount_eq_pow, Nat.testBit_two_pow_sub_one]

/-- The blades of an algebra are closed under exclusive or. -/
theorem xor_lt_bladeCount
    {left right : Blade}
    (leftBelow : left < algebra.bladeCount)
    (rightBelow : right < algebra.bladeCount) :
    left ^^^ right < algebra.bladeCount :=
  Nat.xor_lt_two_pow leftBelow rightBelow

theorem pseudoscalar_lt_bladeCount :
    algebra.pseudoscalar < algebra.bladeCount :=
  Nat.sub_lt (twoTo_pos _) Nat.one_pos

theorem lt_dimension_of_mem_vectors
    {blade : Blade}
    {vector : Nat}
    (below : blade < algebra.bladeCount)
    (member : vector ∈ vectors blade) :
    vector < algebra.dimension := by
  by_contra beyond
  have small : blade < 2 ^ vector :=
    below.trans_le (Nat.pow_le_pow_right (by decide) (by omega))
  simp [Nat.testBit_lt_two_pow small] at member

/-- The complement of a blade has the vectors that the blade lacks. -/
theorem vectors_complement
    {blade : Blade}
    (below : blade < algebra.bladeCount) :
    vectors (algebra.pseudoscalar ^^^ blade) =
      Word.complement algebra.dimension (vectors blade) := by
  symm
  apply eq_vectors (Word.complement_sortedLT _ _)
  intro vector
  rw [Word.mem_complement, mem_vectors, Nat.testBit_xor, testBit_pseudoscalar]
  by_cases inside : vector < algebra.dimension
  · simp [inside]
  · have absent : Nat.testBit blade vector = false := by
      rw [← Bool.not_eq_true]
      exact fun member =>
        inside (algebra.lt_dimension_of_mem_vectors below (mem_vectors.2 member))
    simp [inside, absent]

/-- A blade and its complement share no vector. -/
theorem vectors_and_complement
    {blade : Blade}
    (below : blade < algebra.bladeCount) :
    vectors (blade &&& (algebra.pseudoscalar ^^^ blade)) = [] := by
  rw [vectors_and, List.filter_eq_nil_iff]
  intro vector member
  rw [vectors_complement _ below]
  simpa using fun _ => mem_vectors.1 member

theorem multiply_complement
    {blade : Blade}
    (below : blade < algebra.bladeCount) :
    (Word.multiply algebra.metric.square (vectors blade)
        (Word.complement algebra.dimension (vectors blade))).1 =
      (algebra.complement blade).2 := by
  rw [← vectors_complement _ below, multiply_vectors]
  simp [productSign, complement, metricFactor_eq_prod, vectors_and_complement _ below]

theorem multiply_leftComplement
    {blade : Blade}
    (below : blade < algebra.bladeCount) :
    (Word.multiply algebra.metric.square
        (Word.complement algebra.dimension (vectors blade)) (vectors blade)).1 =
      (algebra.leftComplement blade).2 := by
  rw [← vectors_complement _ below, multiply_vectors]
  have disjoint :
      vectors ((algebra.pseudoscalar ^^^ blade) &&& blade) = [] := by
    rw [Nat.and_comm]
    exact vectors_and_complement _ below
  simp [productSign, leftComplement, metricFactor_eq_prod, disjoint]

end Algebra

/-! ## Masks of a metric -/

namespace Metric

open Blade

variable (metric : Metric)

/-- The mask of null vectors holds the first vectors. -/
theorem vectors_nullMask :
    vectors metric.nullMask = List.range metric.null := by
  symm
  refine eq_vectors (List.sortedLT_range _) fun vector => ?_
  have digit : Nat.testBit metric.nullMask vector = decide (vector < metric.null) :=
    Nat.testBit_two_pow_sub_one metric.null vector
  rw [digit, List.mem_range, decide_eq_true_iff]

/-- The mask of negative vectors holds those behind the positive ones. -/
theorem vectors_negativeMask :
    vectors metric.negativeMask =
      List.range' (metric.null + metric.positive) metric.negative := by
  symm
  refine eq_vectors (List.pairwise_lt_range' ..).sortedLT fun vector => ?_
  have digit :
      Nat.testBit metric.negativeMask vector =
        (decide (metric.null + metric.positive ≤ vector) &&
          decide (vector - (metric.null + metric.positive) < metric.negative)) := by
    change Nat.testBit ((2 ^ metric.negative - 1) * 2 ^ (metric.null + metric.positive)) vector = _
    rw [Nat.testBit_mul_two_pow, Nat.testBit_two_pow_sub_one]
  rw [digit, List.mem_range'_1, Bool.and_eq_true, decide_eq_true_iff, decide_eq_true_iff]
  omega

theorem square_eq_zero_iff
    {vector : Nat} :
    metric.square vector = 0 ↔ vector ∈ vectors metric.nullMask := by
  rw [vectors_nullMask, List.mem_range, square]
  split_ifs <;> simp_all

theorem square_eq_neg_one_iff
    {vector : Nat}
    (below : vector < metric.dimension) :
    metric.square vector = -1 ↔ vector ∈ vectors metric.negativeMask := by
  rw [dimension] at below
  rw [vectors_negativeMask, List.mem_range'_1, square]
  split_ifs <;> simp <;> omega

/-- Without null vectors the squares make a sign, by the number of negative vectors. -/
theorem prod_square
    {word : List Nat}
    (nonzero : ∀ vector ∈ word, metric.square vector ≠ 0) :
    (word.map metric.square).prod = paritySign (word.countP (metric.square · = -1)) := by
  induction word with
  | nil => rfl
  | cons vector rest inductionHypothesis =>
      rcases List.forall_mem_cons.1 nonzero with ⟨vectorNonzero, restNonzero⟩
      rw [List.map_cons, List.prod_cons, inductionHypothesis restNonzero]
      by_cases isNegative : metric.square vector = -1
      · rw [List.countP_cons_of_pos (by simpa using isNegative), paritySign_succ, isNegative,
          neg_one_mul]
      · have isPositive : metric.square vector = 1 := by
          unfold square at *
          split_ifs at * <;> first | rfl | contradiction
        rw [List.countP_cons_of_neg (by simpa using isNegative), isPositive, one_mul]

end Metric

namespace Algebra

open Blade

variable (algebra : Algebra)

/--
Blades multiply with the sign of sorting and the parity of the negative vectors that both
hold, and not at all if both hold a null vector: the masks of a metric say which these are.
-/
theorem productSign_eq_of_masks
    {left right : Blade}
    (below : left &&& right < algebra.bladeCount) :
    algebra.productSign left right =
      if left &&& right &&& algebra.metric.nullMask ≠ 0 then 0
      else
        reorderingSign left right *
          paritySign (grade (left &&& right &&& algebra.metric.negativeMask)) := by
  rw [productSign, metricFactor_eq_prod]
  generalize left &&& right = shared at *
  split
  · next meets =>
    have someNull : vectors (shared &&& algebra.metric.nullMask) ≠ [] :=
      fun none => meets (vectors_injective none)
    rcases List.exists_mem_of_ne_nil _ someNull with ⟨vector, member⟩
    rw [vectors_and, List.mem_filter, decide_eq_true_iff] at member
    have isNull := algebra.metric.square_eq_zero_iff.2 member.2
    rw [List.prod_eq_zero (List.mem_map.2 ⟨vector, member.1, isNull⟩), mul_zero]
  · next apart =>
    have nonzero : ∀ vector ∈ vectors shared, algebra.metric.square vector ≠ 0 := by
      intro vector member isNull
      have inBoth : vector ∈ vectors (shared &&& algebra.metric.nullMask) := by
        rw [vectors_and, List.mem_filter, decide_eq_true_iff]
        exact ⟨member, algebra.metric.square_eq_zero_iff.1 isNull⟩
      rw [not_not.1 apart, vectors_zero] at inBoth
      cases inBoth
    rw [algebra.metric.prod_square nonzero, grade_eq_length, vectors_and,
      List.countP_eq_length_filter]
    congr 3
    refine List.filter_congr fun vector member => decide_eq_decide.2 ?_
    exact algebra.metric.square_eq_neg_one_iff (algebra.lt_dimension_of_mem_vectors below member)

end Algebra

namespace Blade

/-- Every vector of a blade is negated. -/
theorem involuted_vectors
    (blade : Blade) :
    ((vectors blade).map fun _ => (-1 : Int)).prod = involutionSign blade := by
  rw [List.map_const', List.prod_replicate, involutionSign, paritySign_eq_pow, grade]

/-! ## Which pairs of blades a product keeps -/

/-- A common vector of two blades is missing twice from their exclusive or. -/
theorem grade_xor_add
    (left right : Blade) :
    grade (left ^^^ right) + 2 * grade (left &&& right) =
      grade left + grade right := by
  have exclusive :
      List.Perm (vectors (left ^^^ right))
        ((vectors left).filter (· ∉ vectors right) ++
          (vectors right).filter (· ∉ vectors left)) := by
    refine
      (List.perm_ext_iff_of_nodup (vectors_sortedLT _).nodup ?_).2 fun vector => ?_
    · refine
        ((vectors_sortedLT left).nodup.filter _).append
          ((vectors_sortedLT right).nodup.filter _) ?_
      intro vector inLeft inRight
      simp only [List.mem_filter, decide_eq_true_eq] at inLeft inRight
      exact inRight.2 inLeft.1
    · rw [mem_vectors_xor]
      simp only [List.mem_append, List.mem_filter, decide_eq_true_eq]
      tauto
  have leftSplit := List.length_eq_length_filter_add (l := vectors left) (· ∈ vectors right)
  have rightSplit := List.length_eq_length_filter_add (l := vectors right) (· ∈ vectors left)
  have common := congrArg List.length (vectors_and left right)
  have commonRight := congrArg List.length (vectors_and right left)
  rw [Nat.and_comm] at commonRight
  have total := exclusive.length_eq
  simp only [List.length_append, decide_not] at total
  simp only [grade]
  omega

theorem grade_eq_zero_iff
    {blade : Blade} :
    grade blade = 0 ↔ blade = 0 := by
  rw [grade, List.length_eq_zero_iff]
  exact ⟨fun empty => vectors_injective (empty.trans vectors_zero.symm),
    fun zero => zero ▸ vectors_zero⟩

/-- A blade is part of another one if all of its vectors are common ones. -/
theorem and_eq_left_iff
    {left right : Blade} :
    left &&& right = left ↔ grade (left &&& right) = grade left := by
  constructor
  · intro part
    rw [part]
  · intro sameGrade
    rw [grade, grade, vectors_and] at sameGrade
    apply vectors_injective
    rw [vectors_and]
    exact List.filter_eq_self.2 (List.length_filter_eq_length_iff.1 sameGrade)

end Blade

namespace ProductKind

open Blade

/-- Whether a product keeps a pair of blades, by the grades of the two and of their product. -/
def keepsGrades
    (kind : ProductKind)
    (left right result : Nat) :
    Bool :=
  match kind with
  | .geometric => true
  | .exterior => result == left + right
  | .leftContraction => result + left == right
  | .scalar => result == 0

/-- The tests on binary digits are tests of grades. -/
theorem keeps_eq_keepsGrades
    (kind : ProductKind)
    (left right : Blade) :
    kind.keeps left right =
      kind.keepsGrades (grade left) (grade right) (grade (left ^^^ right)) := by
  have total := grade_xor_add left right
  rw [Bool.eq_iff_iff]
  cases kind with
  | geometric => rfl
  | exterior =>
      simp only [keeps, keepsGrades, beq_iff_eq]
      rw [← grade_eq_zero_iff]
      omega
  | leftContraction =>
      simp only [keeps, keepsGrades, beq_iff_eq]
      rw [and_eq_left_iff]
      omega
  | scalar =>
      simp only [keeps, keepsGrades, beq_iff_eq]
      rw [grade_eq_zero_iff]

end ProductKind

end Versor
