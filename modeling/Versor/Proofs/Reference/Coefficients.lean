import Versor.Proofs.Reference.Associativity

/-!
# Elements by their coefficients

In an algebra of finitely many blades an element may be given by one
coefficient for each of them.  The coefficient of a product on a blade is a
sum over the blades of the left factor, since the other factor is determined
by the two (`product_ofCoefficients`).
-/

noncomputable section

namespace Versor
namespace Reference

variable {Coefficient : Type*} [CommRing Coefficient]

/-- The product of two sums is the sum of all products. -/
theorem product_sum_sum
    {Left Right : Type*}
    (metric : Metric)
    (kind : ProductKind)
    (lefts : Finset Left)
    (rights : Finset Right)
    (first : Left → Element Coefficient)
    (second : Right → Element Coefficient) :
    product metric kind (∑ left ∈ lefts, first left) (∑ right ∈ rights, second right) =
      ∑ left ∈ lefts, ∑ right ∈ rights, product metric kind (first left) (second right) := by
  have distribute (element : Element Coefficient) :
      product metric kind element (∑ right ∈ rights, second right) =
        ∑ right ∈ rights, product metric kind element (second right) :=
    map_sum (multiplyLeft metric kind element) second rights
  refine (map_sum (multiplyRight metric kind _) first lefts).trans ?_
  exact Finset.sum_congr rfl fun left _ => distribute (first left)

theorem wordProduct_mul
    (metric : Metric)
    (kind : ProductKind)
    (left right : Word)
    (factor coefficient : Coefficient) :
    wordProduct metric kind left right (factor * coefficient) =
      factor • wordProduct metric kind left right coefficient := by
  simp only [wordProduct]
  split
  · rw [Finsupp.smul_single, smul_eq_mul, mul_left_comm]
  · exact (smul_zero factor).symm

/-- A factor of the right one of two elements is one of their product. -/
theorem product_factor
    (metric : Metric)
    (kind : ProductKind)
    (left right : Element Coefficient)
    (factor : Coefficient) :
    product metric kind left (factor • right) = factor • product metric kind left right := by
  induction left using Finsupp.induction_linear with
  | zero => rw [zero_product, zero_product, smul_zero]
  | add first second firstHypothesis secondHypothesis =>
      rw [add_product, add_product, firstHypothesis, secondHypothesis, smul_add]
  | single leftWord leftCoefficient =>
      induction right using Finsupp.induction_linear with
      | zero => rw [smul_zero, product_zero, smul_zero]
      | add first second firstHypothesis secondHypothesis =>
          rw [smul_add, product_add, firstHypothesis, secondHypothesis, product_add, smul_add]
      | single word coefficient =>
          rw [Finsupp.smul_single, smul_eq_mul, product_single_single, product_single_single,
            mul_left_comm, wordProduct_mul]

/-- A factor of the left one of two elements is one of their product. -/
theorem factor_product
    (metric : Metric)
    (kind : ProductKind)
    (left right : Element Coefficient)
    (factor : Coefficient) :
    product metric kind (factor • left) right = factor • product metric kind left right := by
  induction right using Finsupp.induction_linear with
  | zero => rw [product_zero, product_zero, smul_zero]
  | add first second firstHypothesis secondHypothesis =>
      rw [product_add, product_add, firstHypothesis, secondHypothesis, smul_add]
  | single rightWord rightCoefficient =>
      induction left using Finsupp.induction_linear with
      | zero => rw [smul_zero, zero_product, smul_zero]
      | add first second firstHypothesis secondHypothesis =>
          rw [smul_add, add_product, firstHypothesis, secondHypothesis, add_product, smul_add]
      | single word coefficient =>
          rw [Finsupp.smul_single, smul_eq_mul, product_single_single, product_single_single,
            mul_assoc, wordProduct_mul]

variable (algebra : Algebra)

/-- The element with given coefficients on the blades of an algebra. -/
def ofCoefficients
    (coefficient : Blade → Coefficient) :
    Element Coefficient :=
  ∑ blade ∈ Finset.range algebra.bladeCount,
    Finsupp.single (Blade.vectors blade) (coefficient blade)

variable {algebra}

theorem ofCoefficients_apply
    (coefficient : Blade → Coefficient)
    {blade : Blade}
    (below : blade < algebra.bladeCount) :
    ofCoefficients algebra coefficient (Blade.vectors blade) = coefficient blade := by
  rw [ofCoefficients, Finsupp.finsetSum_apply, Finset.sum_eq_single blade]
  · exact Finsupp.single_eq_same
  · intro other _ different
    exact Finsupp.single_eq_of_ne' fun same => different (Blade.vectors_injective same)
  · exact fun absent => absurd (Finset.mem_range.2 below) absent

/-- An element has coefficients on the vectors of blades only. -/
theorem exists_of_ofCoefficients_ne_zero
    {coefficient : Blade → Coefficient}
    {word : Word}
    (nonzero : ofCoefficients algebra coefficient word ≠ 0) :
    ∃ blade < algebra.bladeCount, word = Blade.vectors blade ∧ coefficient blade ≠ 0 := by
  rw [ofCoefficients, Finsupp.finsetSum_apply] at nonzero
  rcases Finset.exists_ne_zero_of_sum_ne_zero nonzero with ⟨blade, inRange, present⟩
  rcases Finsupp.single_apply_ne_zero.1 present with ⟨same, hasCoefficient⟩
  exact ⟨blade, Finset.mem_range.1 inRange, same, hasCoefficient⟩

theorem ofCoefficients_congr
    {first second : Blade → Coefficient}
    (same : ∀ blade < algebra.bladeCount, first blade = second blade) :
    ofCoefficients algebra first = ofCoefficients algebra second :=
  Finset.sum_congr rfl fun blade member => by rw [same blade (Finset.mem_range.1 member)]

theorem ofCoefficients_mem_ascending
    (coefficient : Blade → Coefficient) :
    ofCoefficients algebra coefficient ∈ ascending :=
  AddSubmonoid.sum_mem _ fun blade _ => single_mem_ascending (Blade.vectors_sortedLT blade) _

/-- All blades of an algebra are the products of all blades with one of them. -/
theorem sum_xor
    {Total : Type*}
    [AddCommMonoid Total]
    {blade : Blade}
    (below : blade < algebra.bladeCount)
    (summand : Blade → Blade → Total) :
    ∑ other ∈ Finset.range algebra.bladeCount, summand other (blade ^^^ other) =
      ∑ target ∈ Finset.range algebra.bladeCount, summand (blade ^^^ target) target := by
  have cancel (other : Blade) : blade ^^^ (blade ^^^ other) = other := by
    rw [← Nat.xor_assoc, Nat.xor_self, Nat.zero_xor]
  have inside (other : Blade) (member : other ∈ Finset.range algebra.bladeCount) :
      blade ^^^ other ∈ Finset.range algebra.bladeCount :=
    Finset.mem_range.2 (algebra.xor_lt_bladeCount below (Finset.mem_range.1 member))
  refine
    Finset.sum_nbij' (blade ^^^ ·) (blade ^^^ ·) inside inside (fun other _ => cancel other)
      (fun target _ => cancel target) fun other _ => ?_
  rw [cancel]

/-- On every blade, a product has one summand for each blade of the left factor that it keeps. -/
theorem product_ofCoefficients
    (kind : ProductKind)
    (first second : Blade → Coefficient) :
    product algebra.metric kind (ofCoefficients algebra first)
        (ofCoefficients algebra second) =
      ofCoefficients algebra fun target =>
        ∑ blade ∈ Finset.range algebra.bladeCount,
          if kind.keeps blade (blade ^^^ target) then
            (algebra.productSign blade (blade ^^^ target) : Coefficient) *
              (first blade * second (blade ^^^ target))
          else 0 := by
  let factor (blade other : Blade) : Coefficient :=
    if kind.keeps blade other then
      (algebra.productSign blade other : Coefficient) * (first blade * second other)
    else 0
  let summand (blade other target : Blade) : Element Coefficient :=
    Finsupp.single (Blade.vectors target) (factor blade other)
  have pair (blade other : Blade) :
      product algebra.metric kind (Finsupp.single (Blade.vectors blade) (first blade))
          (Finsupp.single (Blade.vectors other) (second other)) =
        summand blade other (blade ^^^ other) := by
    rw [product_single_single, wordProduct]
    simp only [algebra.multiply_vectors, ← Blade.grade_eq_length,
      ← ProductKind.keeps_eq_keepsGrades, summand, factor]
    split
    · rfl
    · exact Finsupp.single_zero _ |>.symm
  calc product algebra.metric kind (ofCoefficients algebra first)
        (ofCoefficients algebra second)
      = ∑ blade ∈ Finset.range algebra.bladeCount, ∑ other ∈ Finset.range algebra.bladeCount,
          summand blade other (blade ^^^ other) := by
        simp only [ofCoefficients, product_sum_sum, pair]
    _ = ∑ blade ∈ Finset.range algebra.bladeCount, ∑ target ∈ Finset.range algebra.bladeCount,
          summand blade (blade ^^^ target) target :=
        Finset.sum_congr rfl fun blade member =>
          sum_xor (Finset.mem_range.1 member) (summand blade)
    _ = ∑ target ∈ Finset.range algebra.bladeCount, ∑ blade ∈ Finset.range algebra.bladeCount,
          summand blade (blade ^^^ target) target :=
        Finset.sum_comm
    _ = _ := Finset.sum_congr rfl fun target _ => (Finsupp.single_finsetSum ..).symm

/-- Nothing is dropped from a geometric product. -/
theorem geometric_ofCoefficients
    (first second : Blade → Coefficient) :
    product algebra.metric .geometric (ofCoefficients algebra first)
        (ofCoefficients algebra second) =
      ofCoefficients algebra fun target =>
        ∑ blade ∈ Finset.range algebra.bladeCount,
          (algebra.productSign blade (blade ^^^ target) : Coefficient) *
            (first blade * second (blade ^^^ target)) :=
  product_ofCoefficients .geometric first second

/-- Reversion changes the sign of every coefficient by its blade. -/
theorem reverse_ofCoefficients
    (coefficient : Blade → Coefficient) :
    reverse algebra.metric (ofCoefficients algebra coefficient) =
      ofCoefficients algebra fun blade =>
        (Blade.reverseSign blade : Coefficient) * coefficient blade := by
  let reversion : Element Coefficient →+ Element Coefficient :=
    AddMonoidHom.mk' (reverse algebra.metric) (mapWords_add _)
  refine (map_sum reversion _ _).trans (Finset.sum_congr rfl fun blade _ => ?_)
  change mapWords _ _ = _
  rw [mapWords_single, Algebra.reversed_vectors]

/-- Words that stand for signed complements move the coefficients to these. -/
theorem mapWords_complement
    {image : Word → Int × Word}
    {sign : Blade → Int}
    (complements :
      ∀ blade < algebra.bladeCount,
        image (Blade.vectors blade) =
          (sign blade, Blade.vectors (algebra.pseudoscalar ^^^ blade)))
    (coefficient : Blade → Coefficient) :
    mapWords image (ofCoefficients algebra coefficient) =
      ofCoefficients algebra fun target =>
        (sign (algebra.pseudoscalar ^^^ target) : Coefficient) *
          coefficient (algebra.pseudoscalar ^^^ target) := by
  let mapped : Element Coefficient →+ Element Coefficient :=
    AddMonoidHom.mk' (mapWords image) (mapWords_add _)
  let summand (blade target : Blade) : Element Coefficient :=
    Finsupp.single (Blade.vectors target) ((sign blade : Coefficient) * coefficient blade)
  have cancel (blade : Blade) :
      algebra.pseudoscalar ^^^ (algebra.pseudoscalar ^^^ blade) = blade := by
    rw [← Nat.xor_assoc, Nat.xor_self, Nat.zero_xor]
  calc mapWords image (ofCoefficients algebra coefficient)
      = ∑ blade ∈ Finset.range algebra.bladeCount,
          summand (algebra.pseudoscalar ^^^ (algebra.pseudoscalar ^^^ blade))
            (algebra.pseudoscalar ^^^ blade) := by
        refine (map_sum mapped _ _).trans (Finset.sum_congr rfl fun blade member => ?_)
        change mapWords _ _ = _
        rw [mapWords_single, complements blade (Finset.mem_range.1 member), cancel]
    _ = _ :=
        sum_xor algebra.pseudoscalar_lt_bladeCount fun _ target =>
          summand (algebra.pseudoscalar ^^^ target) target

/-- The dual moves every coefficient to the complement of its blade. -/
theorem dual_ofCoefficients
    (coefficient : Blade → Coefficient) :
    dual algebra.metric (ofCoefficients algebra coefficient) =
      ofCoefficients algebra fun target =>
        ((algebra.complement (algebra.pseudoscalar ^^^ target)).2 : Coefficient) *
          coefficient (algebra.pseudoscalar ^^^ target) := by
  have complements (blade : Blade) (below : blade < algebra.bladeCount) :
      rightComplement algebra.metric (Blade.vectors blade) =
        ((algebra.complement blade).2, Blade.vectors (algebra.pseudoscalar ^^^ blade)) :=
    Prod.ext (algebra.multiply_complement below) (algebra.vectors_complement below).symm
  exact mapWords_complement complements coefficient

/-- So does its inverse, with the sign of the other order. -/
theorem undual_ofCoefficients
    (coefficient : Blade → Coefficient) :
    undual algebra.metric (ofCoefficients algebra coefficient) =
      ofCoefficients algebra fun target =>
        ((algebra.leftComplement (algebra.pseudoscalar ^^^ target)).2 : Coefficient) *
          coefficient (algebra.pseudoscalar ^^^ target) := by
  have complements (blade : Blade) (below : blade < algebra.bladeCount) :
      leftComplement algebra.metric (Blade.vectors blade) =
        ((algebra.leftComplement blade).2, Blade.vectors (algebra.pseudoscalar ^^^ blade)) :=
    Prod.ext (algebra.multiply_leftComplement below) (algebra.vectors_complement below).symm
  exact mapWords_complement complements coefficient

end Reference
end Versor

end
