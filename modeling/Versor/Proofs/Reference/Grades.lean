import Versor.Proofs.Reference.Duality

/-!
# The derived products are parts of the geometric product

A product that keeps a pair of blades if their product has a certain grade is
the part of that grade of the geometric product (`product_eq_gradePart`).  Where
that grade depends on the grades of the two factors, the factors are taken apart
first (`product_eq_sum_gradePart`): an element is the sum of its parts.

Pairs that the metric cancels are no exception, because the sign of such a pair
is zero in either product.
-/

namespace Versor

namespace Algebra

/-- The grades of the blades of an algebra. -/
def grades
    (algebra : Algebra) :
    List Nat :=
  List.range (algebra.dimension + 1)

theorem grade_mem_grades
    (algebra : Algebra)
    {blade : Blade}
    (below : blade < algebra.bladeCount) :
    Blade.grade blade ∈ algebra.grades := by
  have complement := Blade.grade_xor_add algebra.pseudoscalar blade
  rw [algebra.pseudoscalar_and below, algebra.grade_pseudoscalar] at complement
  rw [grades, List.mem_range]
  omega

end Algebra

namespace ProductKind

open Blade

/-- The exterior product keeps blades whose grades add up. -/
theorem exterior_keeps_iff
    (left right : Blade) :
    exterior.keeps left right = true ↔
      (grade (left ^^^ right) : ℚ) = (grade left : ℚ) + grade right := by
  rw [keeps_eq_keepsGrades, keepsGrades, beq_iff_eq]
  norm_cast

/-- The left contraction keeps blades the second of which loses the grade of the first. -/
theorem leftContraction_keeps_iff
    (left right : Blade) :
    leftContraction.keeps left right = true ↔
      (grade (left ^^^ right) : ℚ) = (grade right : ℚ) - grade left := by
  rw [keeps_eq_keepsGrades, keepsGrades, beq_iff_eq, eq_sub_iff_add_eq]
  norm_cast

/-- The scalar product keeps blades whose product has no vectors. -/
theorem scalar_keeps_iff
    (left right : Blade) :
    scalar.keeps left right = true ↔ (grade (left ^^^ right) : ℚ) = 0 := by
  rw [keeps_eq_keepsGrades, keepsGrades, beq_iff_eq]
  norm_cast

end ProductKind

noncomputable section

namespace Reference

variable
  {Coefficient : Type*} [CommRing Coefficient]
  {algebra : Algebra}
  {kind : ProductKind}
  {left right element : Element Coefficient}

/-! ## Parts of a grade -/

@[simp]
theorem gradePart_zero
    (grade : ℚ) :
    gradePart grade (0 : Element Coefficient) = 0 :=
  Finsupp.filter_zero _

theorem gradePart_add
    (grade : ℚ)
    (first second : Element Coefficient) :
    gradePart grade (first + second) = gradePart grade first + gradePart grade second :=
  Finsupp.filter_add

theorem gradePart_single
    (grade : ℚ)
    (blade : Blade)
    (coefficient : Coefficient) :
    gradePart grade (Finsupp.single (Blade.vectors blade) coefficient) =
      if (Blade.grade blade : ℚ) = grade then
        Finsupp.single (Blade.vectors blade) coefficient
      else 0 := by
  rw [gradePart]
  split
  · next ofGrade => exact Finsupp.filter_single_of_pos _ ofGrade
  · next notOfGrade => exact Finsupp.filter_single_of_neg _ notOfGrade

/-- An element is the sum of its parts. -/
theorem sum_gradePart
    (member : element ∈ within algebra) :
    (algebra.grades.map fun grade : Nat => gradePart grade element).sum = element := by
  induction member using spanned_induction with
  | zero => simp
  | add first second _ _ firstHolds secondHolds =>
      simp only [gradePart_add, List.sum_map_add, firstHolds, secondHolds]
  | single blade coefficient below =>
      simp only [gradePart_single, Nat.cast_inj]
      have inside := List.mem_range.1 (algebra.grade_mem_grades below)
      exact
        (Finset.sum_ite_eq (Finset.range (algebra.dimension + 1)) _ _).trans
          (if_pos (Finset.mem_range.2 inside))

/-! ## Products -/

/-- A product that keeps what gets a grade is the part of that grade. -/
theorem product_eq_gradePart
    {leftAccepts rightAccepts : Blade → Prop}
    {grade : ℚ}
    (kept :
      ∀ first second, leftAccepts first → rightAccepts second →
        (kind.keeps first second = true ↔ (Blade.grade (first ^^^ second) : ℚ) = grade))
    (leftMember : left ∈ spanned leftAccepts)
    (rightMember : right ∈ spanned rightAccepts) :
    product algebra.metric kind left right =
      gradePart grade (product algebra.metric .geometric left right) := by
  induction leftMember using spanned_induction with
  | zero => simp
  | add first second _ _ firstHolds secondHolds =>
      rw [add_product, add_product, gradePart_add, firstHolds, secondHolds]
  | single leftBlade one leftAccepted =>
      induction rightMember using spanned_induction with
      | zero => simp
      | add first second _ _ firstHolds secondHolds =>
          rw [product_add, product_add, gradePart_add, firstHolds, secondHolds]
      | single rightBlade two rightAccepted =>
          rw [product_single_vectors, product_single_vectors, ProductKind.keeps, if_pos rfl,
            gradePart_single]
          exact if_congr (kept leftBlade rightBlade leftAccepted rightAccepted) rfl rfl

/-- A product is a sum of parts of products of parts, if grades tell what it keeps. -/
theorem product_eq_sum_gradePart
    (grade : ℚ → ℚ → ℚ)
    (kept :
      ∀ first second : Blade,
        kind.keeps first second = true ↔
          (Blade.grade (first ^^^ second) : ℚ) =
            grade (Blade.grade first) (Blade.grade second))
    (leftMember : left ∈ within algebra)
    (rightMember : right ∈ within algebra) :
    product algebra.metric kind left right =
      ((algebra.grades ×ˢ algebra.grades).map fun grades =>
        gradePart (grade grades.1 grades.2)
          (product algebra.metric .geometric (gradePart grades.1 left)
            (gradePart grades.2 right))).sum := by
  have part (leftGrade rightGrade : Nat) :
      product algebra.metric kind (gradePart leftGrade left)
          (gradePart rightGrade right) =
        gradePart (grade leftGrade rightGrade)
          (product algebra.metric .geometric (gradePart leftGrade left)
            (gradePart rightGrade right)) := by
    apply
      product_eq_gradePart _ (gradePart_mem_graded leftGrade leftMember)
        (gradePart_mem_graded rightGrade rightMember)
    intro first second firstOfGrade secondOfGrade
    rw [kept, firstOfGrade.2, secondOfGrade.2]
  calc
    product algebra.metric kind left right =
        product algebra.metric kind
          (algebra.grades.map fun grade : Nat => gradePart grade left).sum
          (algebra.grades.map fun grade : Nat => gradePart grade right).sum := by
      rw [sum_gradePart leftMember, sum_gradePart rightMember]
    _ =
        (algebra.grades.map fun leftGrade : Nat =>
          (algebra.grades.map fun rightGrade : Nat =>
            product algebra.metric kind (gradePart leftGrade left)
              (gradePart rightGrade right)).sum).sum := by
      rw [product_list_sum, List.map_map]
      simp only [List.map_map, Function.comp_def]
    _ = _ := by
      simp only [part, SProd.sprod, List.product, List.flatMap_def, List.map_flatten,
        List.sum_flatten, List.map_map, Function.comp_def]

end Reference

end

end Versor
