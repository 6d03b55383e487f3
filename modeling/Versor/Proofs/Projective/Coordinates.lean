import Versor.Proofs.Reference.Coefficients

/-!
# Coordinates in the projective algebra

An element of the projective algebra is the sum of an even and an odd part
with eight coefficients each.  Products with even elements are written out
here, blade by blade, and agree with those of the algebra (`Even.element_mul`,
`Even.element_act`, `Odd.element_mul`); so identities between motions become
identities between polynomials.
-/

noncomputable section

namespace Versor

open Reference

/--
The sign of a product of projective blades: it vanishes if both contain the
null vector, and otherwise the parity of the swaps is that of three digits.
-/
theorem Algebra.productSign_projective :
    ∀ left < 16, ∀ right < 16,
      Algebra.projective.productSign left right =
        if left % 2 = 1 ∧ right % 2 = 1 then 0
        else if
          Nat.testBit 0x6996
            ((left / 2 &&& right) ^^^ (left / 4 &&& right) ^^^ (left / 8 &&& right)) then -1
        else 1 := by
  decide +kernel

theorem Algebra.bladeCount_projective :
    Algebra.projective.bladeCount = 16 := by
  decide

theorem sum_range_sixteen
    {Total : Type*}
    [AddCommMonoid Total]
    (summand : Nat → Total) :
    ∑ place ∈ Finset.range 16, summand place =
      summand 0 + summand 1 + summand 2 + summand 3 + summand 4 + summand 5 + summand 6 +
        summand 7 + summand 8 + summand 9 + summand 10 + summand 11 + summand 12 +
        summand 13 + summand 14 + summand 15 := by
  simp only [Finset.sum_range_succ, Finset.sum_range_zero, zero_add]

/-- An even element of the projective algebra, by its coefficients. -/
@[ext]
structure Even (Number : Type) where
  scalar : Number
  e01 : Number
  e02 : Number
  e03 : Number
  e12 : Number
  e13 : Number
  e23 : Number
  e0123 : Number

/-- An odd element of the projective algebra, by its coefficients. -/
@[ext]
structure Odd (Number : Type) where
  e0 : Number
  e1 : Number
  e2 : Number
  e3 : Number
  e012 : Number
  e013 : Number
  e023 : Number
  e123 : Number

variable {Number : Type} [CommRing Number]

namespace Even

/-- The coefficient on a blade. -/
def coefficient
    (even : Even Number) :
    Blade → Number
  | 0 => even.scalar
  | 3 => even.e01
  | 5 => even.e02
  | 9 => even.e03
  | 6 => even.e12
  | 10 => even.e13
  | 12 => even.e23
  | 15 => even.e0123
  | _ => 0

/-- The element with the coefficients. -/
def element
    (even : Even Number) :
    Element Number :=
  ofCoefficients .projective even.coefficient

/-- The geometric product of even elements. -/
def mul
    (left right : Even Number) :
    Even Number where
  scalar :=
    left.scalar * right.scalar - left.e12 * right.e12 - left.e13 * right.e13 -
      left.e23 * right.e23
  e01 :=
    left.scalar * right.e01 + left.e01 * right.scalar - left.e02 * right.e12 -
      left.e03 * right.e13 + left.e12 * right.e02 + left.e13 * right.e03 -
      left.e23 * right.e0123 - left.e0123 * right.e23
  e02 :=
    left.scalar * right.e02 + left.e01 * right.e12 + left.e02 * right.scalar -
      left.e03 * right.e23 - left.e12 * right.e01 + left.e13 * right.e0123 +
      left.e23 * right.e03 + left.e0123 * right.e13
  e03 :=
    left.scalar * right.e03 + left.e01 * right.e13 + left.e02 * right.e23 +
      left.e03 * right.scalar - left.e12 * right.e0123 - left.e13 * right.e01 -
      left.e23 * right.e02 - left.e0123 * right.e12
  e12 :=
    left.scalar * right.e12 + left.e12 * right.scalar - left.e13 * right.e23 +
      left.e23 * right.e13
  e13 :=
    left.scalar * right.e13 + left.e12 * right.e23 + left.e13 * right.scalar -
      left.e23 * right.e12
  e23 :=
    left.scalar * right.e23 - left.e12 * right.e13 + left.e13 * right.e12 +
      left.e23 * right.scalar
  e0123 :=
    left.scalar * right.e0123 + left.e01 * right.e23 - left.e02 * right.e13 +
      left.e03 * right.e12 + left.e12 * right.e03 - left.e13 * right.e02 +
      left.e23 * right.e01 + left.e0123 * right.scalar

/-- The geometric product of an even and an odd element. -/
def act
    (left : Even Number)
    (right : Odd Number) :
    Odd Number where
  e0 :=
    left.scalar * right.e0 + left.e01 * right.e1 + left.e02 * right.e2 + left.e03 * right.e3 -
      left.e12 * right.e012 - left.e13 * right.e013 - left.e23 * right.e023 -
      left.e0123 * right.e123
  e1 :=
    left.scalar * right.e1 + left.e12 * right.e2 + left.e13 * right.e3 -
      left.e23 * right.e123
  e2 :=
    left.scalar * right.e2 - left.e12 * right.e1 + left.e13 * right.e123 +
      left.e23 * right.e3
  e3 :=
    left.scalar * right.e3 - left.e12 * right.e123 - left.e13 * right.e1 -
      left.e23 * right.e2
  e012 :=
    left.scalar * right.e012 + left.e01 * right.e2 - left.e02 * right.e1 +
      left.e03 * right.e123 + left.e12 * right.e0 - left.e13 * right.e023 +
      left.e23 * right.e013 + left.e0123 * right.e3
  e013 :=
    left.scalar * right.e013 + left.e01 * right.e3 - left.e02 * right.e123 -
      left.e03 * right.e1 + left.e12 * right.e023 + left.e13 * right.e0 -
      left.e23 * right.e012 - left.e0123 * right.e2
  e023 :=
    left.scalar * right.e023 + left.e01 * right.e123 + left.e02 * right.e3 -
      left.e03 * right.e2 - left.e12 * right.e013 + left.e13 * right.e012 +
      left.e23 * right.e0 + left.e0123 * right.e1
  e123 :=
    left.scalar * right.e123 + left.e12 * right.e3 - left.e13 * right.e2 +
      left.e23 * right.e1

/-- Reversion. -/
def reverse
    (even : Even Number) :
    Even Number where
  scalar := even.scalar
  e01 := -even.e01
  e02 := -even.e02
  e03 := -even.e03
  e12 := -even.e12
  e13 := -even.e13
  e23 := -even.e23
  e0123 := even.e0123

/-- The square of the length of the Euclidean part. -/
def norm
    (even : Even Number) :
    Number :=
  even.scalar ^ 2 + even.e12 ^ 2 + even.e13 ^ 2 + even.e23 ^ 2

end Even

namespace Odd

/-- The coefficient on a blade. -/
def coefficient
    (odd : Odd Number) :
    Blade → Number
  | 1 => odd.e0
  | 2 => odd.e1
  | 4 => odd.e2
  | 8 => odd.e3
  | 7 => odd.e012
  | 11 => odd.e013
  | 13 => odd.e023
  | 14 => odd.e123
  | _ => 0

/-- The element with the coefficients. -/
def element
    (odd : Odd Number) :
    Element Number :=
  ofCoefficients .projective odd.coefficient

/-- The geometric product of an odd and an even element. -/
def mul
    (left : Odd Number)
    (right : Even Number) :
    Odd Number where
  e0 :=
    left.e0 * right.scalar - left.e1 * right.e01 - left.e2 * right.e02 - left.e3 * right.e03 -
      left.e012 * right.e12 - left.e013 * right.e13 - left.e023 * right.e23 +
      left.e123 * right.e0123
  e1 :=
    left.e1 * right.scalar - left.e2 * right.e12 - left.e3 * right.e13 -
      left.e123 * right.e23
  e2 :=
    left.e1 * right.e12 + left.e2 * right.scalar - left.e3 * right.e23 +
      left.e123 * right.e13
  e3 :=
    left.e1 * right.e13 + left.e2 * right.e23 + left.e3 * right.scalar -
      left.e123 * right.e12
  e012 :=
    left.e0 * right.e12 - left.e1 * right.e02 + left.e2 * right.e01 - left.e3 * right.e0123 +
      left.e012 * right.scalar - left.e013 * right.e23 + left.e023 * right.e13 -
      left.e123 * right.e03
  e013 :=
    left.e0 * right.e13 - left.e1 * right.e03 + left.e2 * right.e0123 + left.e3 * right.e01 +
      left.e012 * right.e23 + left.e013 * right.scalar - left.e023 * right.e12 +
      left.e123 * right.e02
  e023 :=
    left.e0 * right.e23 - left.e1 * right.e0123 - left.e2 * right.e03 + left.e3 * right.e02 -
      left.e012 * right.e13 + left.e013 * right.e12 + left.e023 * right.scalar -
      left.e123 * right.e01
  e123 :=
    left.e1 * right.e23 - left.e2 * right.e13 + left.e3 * right.e12 +
      left.e123 * right.scalar

end Odd

theorem Even.element_eq
    (even : Even Number) :
    even.element =
      Finsupp.single (Blade.vectors 0) even.scalar +
        Finsupp.single (Blade.vectors .e01) even.e01 +
        Finsupp.single (Blade.vectors .e02) even.e02 +
        Finsupp.single (Blade.vectors .e03) even.e03 +
        Finsupp.single (Blade.vectors .e12) even.e12 +
        Finsupp.single (Blade.vectors .e13) even.e13 +
        Finsupp.single (Blade.vectors .e23) even.e23 +
        Finsupp.single (Blade.vectors .e0123) even.e0123 := by
  rw [element, ofCoefficients, Algebra.bladeCount_projective, sum_range_sixteen]
  simp only [coefficient, Finsupp.single_zero, add_zero, Blade.e01, Blade.e02, Blade.e03,
    Blade.e12, Blade.e13, Blade.e23, Blade.e0123]
  abel

theorem Odd.element_eq
    (odd : Odd Number) :
    odd.element =
      Finsupp.single (Blade.vectors .e0) odd.e0 + Finsupp.single (Blade.vectors .e1) odd.e1 +
        Finsupp.single (Blade.vectors .e2) odd.e2 +
        Finsupp.single (Blade.vectors .e3) odd.e3 +
        Finsupp.single (Blade.vectors .e012) odd.e012 +
        Finsupp.single (Blade.vectors .e013) odd.e013 +
        Finsupp.single (Blade.vectors .e023) odd.e023 +
        Finsupp.single (Blade.vectors .e123) odd.e123 := by
  rw [element, ofCoefficients, Algebra.bladeCount_projective, sum_range_sixteen]
  simp only [coefficient, Finsupp.single_zero, add_zero, zero_add, Blade.e0, Blade.e1, Blade.e2,
    Blade.e3, Blade.e012, Blade.e013, Blade.e023, Blade.e123]
  abel

/-! ## Coefficients -/

theorem Even.element_apply
    (even : Even Number)
    {blade : Blade}
    (below : blade < 16) :
    even.element (Blade.vectors blade) = even.coefficient blade :=
  ofCoefficients_apply _ (Algebra.bladeCount_projective.symm ▸ below)

theorem Odd.element_apply
    (odd : Odd Number)
    {blade : Blade}
    (below : blade < 16) :
    odd.element (Blade.vectors blade) = odd.coefficient blade :=
  ofCoefficients_apply _ (Algebra.bladeCount_projective.symm ▸ below)

/-- Even elements have the coefficients of one even element only. -/
theorem Even.element_injective :
    Function.Injective (element : Even Number → Element Number) := by
  intro left right same
  have coefficients (blade : Blade) (below : blade < 16) :
      left.coefficient blade = right.coefficient blade := by
    rw [← left.element_apply below, same, right.element_apply below]
  exact
    Even.ext (coefficients 0 (by decide)) (coefficients 3 (by decide))
      (coefficients 5 (by decide)) (coefficients 9 (by decide)) (coefficients 6 (by decide))
      (coefficients 10 (by decide)) (coefficients 12 (by decide)) (coefficients 15 (by decide))

/-- Odd elements have the coefficients of one odd element only. -/
theorem Odd.element_injective :
    Function.Injective (element : Odd Number → Element Number) := by
  intro left right same
  have coefficients (blade : Blade) (below : blade < 16) :
      left.coefficient blade = right.coefficient blade := by
    rw [← left.element_apply below, same, right.element_apply below]
  exact
    Odd.ext (coefficients 1 (by decide)) (coefficients 2 (by decide))
      (coefficients 4 (by decide)) (coefficients 8 (by decide)) (coefficients 7 (by decide))
      (coefficients 11 (by decide)) (coefficients 13 (by decide)) (coefficients 14 (by decide))

theorem Even.element_mem_ascending
    (even : Even Number) :
    even.element ∈ ascending :=
  ofCoefficients_mem_ascending _

/-! ## Products -/

theorem Even.element_mul
    (left right : Even Number) :
    product Algebra.projective.metric .geometric left.element right.element =
      (left.mul right).element := by
  rw [element, element, element, geometric_ofCoefficients]
  refine ofCoefficients_congr fun blade below => ?_
  rw [Algebra.bladeCount_projective] at below ⊢
  rw [sum_range_sixteen]
  interval_cases blade <;>
    simp only [coefficient, Nat.reduceXor, mul_zero, zero_mul, add_zero] <;>
    simp [Algebra.productSign_projective, mul, Nat.testBit] <;>
    ring

theorem Even.element_act
    (left : Even Number)
    (right : Odd Number) :
    product Algebra.projective.metric .geometric left.element right.element =
      (left.act right).element := by
  rw [element, Odd.element, Odd.element, geometric_ofCoefficients]
  refine ofCoefficients_congr fun blade below => ?_
  rw [Algebra.bladeCount_projective] at below ⊢
  rw [sum_range_sixteen]
  interval_cases blade <;>
    simp only [coefficient, Odd.coefficient, Nat.reduceXor, mul_zero, zero_mul, add_zero] <;>
    simp [Algebra.productSign_projective, act, Nat.testBit] <;>
    ring

theorem Odd.element_mul
    (left : Odd Number)
    (right : Even Number) :
    product Algebra.projective.metric .geometric left.element right.element =
      (left.mul right).element := by
  rw [element, Even.element, element, geometric_ofCoefficients]
  refine ofCoefficients_congr fun blade below => ?_
  rw [Algebra.bladeCount_projective] at below ⊢
  rw [sum_range_sixteen]
  interval_cases blade <;>
    simp only [coefficient, Even.coefficient, Nat.reduceXor, mul_zero, zero_mul, add_zero,
      zero_add] <;>
    simp [Algebra.productSign_projective, mul, Nat.testBit] <;>
    ring

theorem Even.element_reverse
    (even : Even Number) :
    Reference.reverse Algebra.projective.metric even.element = even.reverse.element := by
  have signs :
      ∀ blade < 16, Blade.reverseSign blade = if Nat.testBit 0x7EE8 blade then -1 else 1 := by
    decide
  rw [element, element, reverse_ofCoefficients]
  refine ofCoefficients_congr fun blade below => ?_
  rw [Algebra.bladeCount_projective] at below
  rw [signs blade below]
  interval_cases blade <;> simp [coefficient, reverse, Nat.testBit]

end Versor

end
