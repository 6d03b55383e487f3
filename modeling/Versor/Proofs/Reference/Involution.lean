import Versor.Proofs.Reference.Duality

/-!
# Reversion and grade involution respect the products

Reversion turns a product around and grade involution keeps it as it is, also
where the two factors share vectors, whose squares then make up for the grade
that the product lacks (`Blade.reverseSign_xor`).  Clifford conjugation is the
one after the other, in either order, and behaves as reversion does.

All three maps are additive and keep every blade up to its sign, so what they do
is shown on single blades.
-/

namespace Versor

namespace Blade

/-- A sign only depends on the parity of what it counts. -/
theorem paritySign_congr
    {first second : Nat}
    (same : first % 2 = second % 2) :
    paritySign first = paritySign second := by
  rw [paritySign, paritySign, same]

/-- The pairs of a number of vectors, twice. -/
theorem two_mul_pairs
    (count : Nat) :
    2 * ((count * (count - 1) / 2 : Nat) : ℤ) = count * count - count := by
  have doubled : 2 * (count * (count - 1) / 2) = count * (count - 1) :=
    Nat.two_mul_div_two_of_even (Nat.even_mul_pred_self count)
  have cast := congrArg (Nat.cast : Nat → ℤ) doubled
  cases count with
  | zero => simp
  | succ smaller =>
      push_cast [Nat.add_sub_cancel] at cast ⊢
      linear_combination cast

/--
Writing the product of two blades backwards multiplies them backwards, whatever vectors
they share: the pairs that the common vectors take with them come in twos.
-/
theorem reverseSign_xor
    (left right : Blade) :
    reverseSign (left ^^^ right) * reorderingSign left right =
      reverseSign left * reverseSign right * reorderingSign right left := by
  simp only [reverseSign, reorderingSign, ← paritySign_add]
  apply paritySign_congr
  have leftPairs := two_mul_pairs (grade left)
  have rightPairs := two_mul_pairs (grade right)
  have resultPairs := two_mul_pairs (grade (left ^^^ right))
  have passed : (inversions left right + inversions right left + grade (left &&& right) : ℤ) =
      grade left * grade right := by
    exact_mod_cast inversions_add_inversions left right
  have total : (grade (left ^^^ right) : ℤ) =
      grade left + grade right - 2 * grade (left &&& right) := by
    have sum := grade_xor_add left right
    omega
  rw [total] at resultPairs
  have apart :
      ((grade (left ^^^ right) * (grade (left ^^^ right) - 1) / 2 + inversions left right : Nat) :
          ℤ) =
        (grade left * (grade left - 1) / 2 + grade right * (grade right - 1) / 2 +
            inversions right left : Nat) +
          2 * (inversions left right + grade (left &&& right) -
            grade (left &&& right) * (grade left + grade right) +
              grade (left &&& right) * grade (left &&& right)) := by
    rw [Nat.cast_add, Nat.cast_add, Nat.cast_add]
    linarith
  omega

/-- The vectors that two blades share are negated twice. -/
theorem involutionSign_xor
    (left right : Blade) :
    involutionSign (left ^^^ right) = involutionSign left * involutionSign right := by
  rw [involutionSign, involutionSign, involutionSign, ← paritySign_add]
  apply paritySign_congr
  have total := grade_xor_add left right
  omega

end Blade

namespace Algebra

/-- The squares of the common vectors are the same in either order. -/
theorem reverseSign_mul_productSign
    (algebra : Algebra)
    (left right : Blade) :
    Blade.reverseSign (left ^^^ right) * algebra.productSign left right =
      Blade.reverseSign left * Blade.reverseSign right * algebra.productSign right left := by
  rw [productSign, productSign, Nat.and_comm, ← mul_assoc, Blade.reverseSign_xor, mul_assoc]

end Algebra

noncomputable section

namespace Reference

variable
  {Coefficient : Type*} [CommRing Coefficient]
  {algebra : Algebra}
  {accepts : Blade → Prop}
  {left right element : Element Coefficient}

/-! ## Sums and single blades -/

@[simp]
theorem reverse_zero :
    reverse algebra.metric (0 : Element Coefficient) = 0 :=
  mapWords_zero _

theorem reverse_add
    (first second : Element Coefficient) :
    reverse algebra.metric (first + second) =
      reverse algebra.metric first + reverse algebra.metric second :=
  mapWords_add _ first second

@[simp]
theorem involute_zero :
    involute (0 : Element Coefficient) = 0 :=
  mapWords_zero _

theorem involute_add
    (first second : Element Coefficient) :
    involute (first + second) = involute first + involute second :=
  mapWords_add _ first second

theorem reverse_single
    (blade : Blade)
    (coefficient : Coefficient) :
    reverse algebra.metric (Finsupp.single (Blade.vectors blade) coefficient) =
      Finsupp.single (Blade.vectors blade)
        ((Blade.reverseSign blade : Coefficient) * coefficient) := by
  rw [reverse, mapWords_single, Algebra.reversed_vectors]

theorem involute_single
    (blade : Blade)
    (coefficient : Coefficient) :
    involute (Finsupp.single (Blade.vectors blade) coefficient) =
      Finsupp.single (Blade.vectors blade)
        ((Blade.involutionSign blade : Coefficient) * coefficient) := by
  rw [involute, mapWords_single, Blade.involuted_vectors]

theorem reverse_mem
    (member : element ∈ spanned accepts) :
    reverse algebra.metric element ∈ spanned accepts := by
  apply mapWords_mem_spanned _ member
  intro blade accepted
  exact ⟨blade, accepted, by rw [Algebra.reversed_vectors]⟩

theorem involute_mem
    (member : element ∈ spanned accepts) :
    involute element ∈ spanned accepts := by
  apply mapWords_mem_spanned _ member
  intro blade accepted
  exact ⟨blade, accepted, rfl⟩

/-! ## Involutions -/

theorem reverse_reverse
    (member : element ∈ spanned accepts) :
    reverse algebra.metric (reverse algebra.metric element) = element := by
  induction member using spanned_induction with
  | zero => simp
  | add first second _ _ firstHolds secondHolds =>
      rw [reverse_add, reverse_add, firstHolds, secondHolds]
  | single blade coefficient _ =>
      rw [reverse_single, reverse_single, ← mul_assoc, ← Int.cast_mul, Blade.reverseSign,
        Word.paritySign_mul_self, Int.cast_one, one_mul]

theorem involute_involute
    (member : element ∈ spanned accepts) :
    involute (involute element) = element := by
  induction member using spanned_induction with
  | zero => simp
  | add first second _ _ firstHolds secondHolds =>
      rw [involute_add, involute_add, firstHolds, secondHolds]
  | single blade coefficient _ =>
      rw [involute_single, involute_single, ← mul_assoc, ← Int.cast_mul, Blade.involutionSign,
        Word.paritySign_mul_self, Int.cast_one, one_mul]

/-- Negating vectors and writing words backwards do not get in each other's way. -/
theorem involute_reverse
    (member : element ∈ spanned accepts) :
    involute (reverse algebra.metric element) = conjugate algebra.metric element := by
  rw [conjugate]
  induction member using spanned_induction with
  | zero => simp
  | add first second _ _ firstHolds secondHolds =>
      rw [reverse_add, involute_add, involute_add, reverse_add, firstHolds, secondHolds]
  | single blade coefficient _ =>
      rw [reverse_single, involute_single, involute_single, reverse_single, mul_left_comm]

theorem conjugate_conjugate
    (member : element ∈ spanned accepts) :
    conjugate algebra.metric (conjugate algebra.metric element) = element := by
  calc
    conjugate algebra.metric (conjugate algebra.metric element) =
        reverse algebra.metric (involute (involute (reverse algebra.metric element))) := by
      rw [involute_reverse member, ← conjugate]
    _ = reverse algebra.metric (reverse algebra.metric element) := by
      rw [involute_involute (reverse_mem member)]
    _ = element := reverse_reverse member

/-! ## Products -/

section Product

variable
  {kind : ProductKind}
  (leftMember : left ∈ spanned accepts)
  (rightMember : right ∈ spanned accepts)

include leftMember rightMember

/-- A product that keeps a pair of blades in either order is turned around. -/
theorem reverse_product
    (symmetric : ∀ first second, kind.keeps first second = kind.keeps second first) :
    reverse algebra.metric (product algebra.metric kind left right) =
      product algebra.metric kind (reverse algebra.metric right)
        (reverse algebra.metric left) := by
  induction leftMember using spanned_induction with
  | zero => simp
  | add first second _ _ firstHolds secondHolds =>
      rw [add_product, reverse_add, reverse_add, product_add, firstHolds, secondHolds]
  | single leftBlade one _ =>
      induction rightMember using spanned_induction with
      | zero => simp
      | add first second _ _ firstHolds secondHolds =>
          rw [product_add, reverse_add, reverse_add, add_product, firstHolds, secondHolds]
      | single rightBlade two _ =>
          rw [reverse_single, reverse_single, product_single_vectors, product_single_vectors,
            symmetric]
          split
          · have signs :=
              congrArg (Int.cast : Int → Coefficient)
                (algebra.reverseSign_mul_productSign leftBlade rightBlade)
            rw [reverse_single, Nat.xor_comm rightBlade]
            push_cast at signs
            congr 1
            linear_combination one * two * signs
          · exact reverse_zero

/-- Every product keeps blades by their vectors, and each of those is negated. -/
theorem involute_product :
    involute (product algebra.metric kind left right) =
      product algebra.metric kind (involute left) (involute right) := by
  induction leftMember using spanned_induction with
  | zero => simp
  | add first second _ _ firstHolds secondHolds =>
      rw [add_product, involute_add, involute_add, add_product, firstHolds, secondHolds]
  | single leftBlade one _ =>
      induction rightMember using spanned_induction with
      | zero => simp
      | add first second _ _ firstHolds secondHolds =>
          rw [product_add, involute_add, involute_add, product_add, firstHolds, secondHolds]
      | single rightBlade two _ =>
          rw [involute_single, involute_single, product_single_vectors, product_single_vectors]
          split
          · rw [involute_single, Blade.involutionSign_xor]
            push_cast
            congr 1
            ring
          · exact involute_zero

theorem conjugate_product
    (symmetric : ∀ first second, kind.keeps first second = kind.keeps second first) :
    conjugate algebra.metric (product algebra.metric kind left right) =
      product algebra.metric kind (conjugate algebra.metric right)
        (conjugate algebra.metric left) := by
  rw [conjugate, involute_product leftMember rightMember,
    reverse_product (involute_mem leftMember) (involute_mem rightMember) symmetric, ← conjugate,
    ← conjugate]

end Product

end Reference

end

end Versor
