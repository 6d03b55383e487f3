import Versor.Proofs.Multivector.Duality

/-!
# The left contraction is adjoint to the exterior product

Contracting an exterior product away is the same as contracting its factors away, the last
one first.  The digits of the blades are tested for different things on the two sides:
whether two factors share no vector and both lie in a third blade, or whether one lies in
it and the other in what remains.  Counting vectors shows that the tests select the same
triples of blades, and the signs agree as they do in the geometric product, whatever the
vectors square to (`Reference.product_assoc`).
-/

namespace Versor

namespace Blade

/-- A blade has no more vectors than another one and what tells the two apart. -/
theorem grade_le_add_grade_xor
    (left right : Blade) :
    grade left ≤ grade right + grade (left ^^^ right) := by
  have total := grade_xor_add (left ^^^ right) right
  rw [Nat.xor_assoc, Nat.xor_self, Nat.xor_zero] at total
  omega

end Blade

namespace ProductKind

open Blade

/-- Both sides say that the last blade has the vectors of the first two and of the result. -/
theorem associates_leftContraction :
    Associates exterior leftContraction leftContraction leftContraction := by
  intro first second third
  have whole := Nat.xor_assoc first second third
  have factors := grade_xor_add first second
  have lastCovered := grade_le_add_grade_xor third (first ^^^ second)
  have lastByRest := grade_le_add_grade_xor third second
  have restCovered := grade_le_add_grade_xor (second ^^^ third) first
  rw [Nat.xor_comm third, whole] at lastCovered
  rw [Nat.xor_comm third] at lastByRest
  rw [Nat.xor_comm _ first] at restCovered
  simp only [keeps_eq_keepsGrades, keepsGrades, beq_iff_eq, whole]
  omega

/-- Where nothing remains, the last blade is the first two together, and the first what remains. -/
theorem associates_scalar :
    Associates exterior scalar leftContraction scalar := by
  intro first second third
  have whole := Nat.xor_assoc first second third
  have lastCovered := grade_le_add_grade_xor third (first ^^^ second)
  have factorsInside := grade_le_add_grade_xor (first ^^^ second) third
  have firstInside := grade_le_add_grade_xor first (second ^^^ third)
  have restCovered := grade_le_add_grade_xor (second ^^^ third) first
  rw [Nat.xor_comm third, whole] at lastCovered
  rw [whole] at factorsInside
  rw [Nat.xor_comm _ first] at restCovered
  simp only [keeps_eq_keepsGrades, keepsGrades, beq_iff_eq, whole]
  omega

end ProductKind

namespace Multivector

/--
The laws that make the left contraction adjoint to the exterior product, at three
multivectors.  Each says that two computations succeed with equal arrays.
-/
structure Contraction
    (first second third : Multivector) :
    Prop where
  contraction_exterior :
    Concur
      (do combine leftContraction (← combine exteriorProduct first second) third)
      (do combine leftContraction first (← combine leftContraction second third))
  scalar_exterior :
    Concur
      (do combine scalarProduct (← combine exteriorProduct first second) third)
      (do combine scalarProduct first (← combine leftContraction second third))

/--
The left contraction of valid multivectors over an algebra is adjoint to the exterior
product, array by array.
-/
theorem contraction
    {algebra : Algebra}
    {first second third : Multivector}
    (firstValid : first.Valid)
    (secondValid : second.Valid)
    (thirdValid : third.Valid)
    (firstOver : first.algebra.Agrees algebra)
    (secondOver : second.algebra.Agrees algebra)
    (thirdOver : third.algebra.Agrees algebra) :
    Contraction first second third := by
  have firstBelongs : BelongsTo algebra first := ⟨firstValid.inRange, firstOver⟩
  have secondBelongs : BelongsTo algebra second := ⟨secondValid.inRange, secondOver⟩
  have thirdBelongs : BelongsTo algebra third := ⟨thirdValid.inRange, thirdOver⟩
  have one := Yields.of_belongsTo firstBelongs
  have two := Yields.of_belongsTo secondBelongs
  have three := Yields.of_belongsTo thirdBelongs
  constructor
  case contraction_exterior =>
    apply
      ((one.apply .exterior two).yields.apply .leftContraction three).concur
        (one.apply .leftContraction (two.apply .leftContraction three).yields)
    intro assignment
    exact
      Reference.product_assoc ProductKind.associates_leftContraction
        (firstBelongs.valueAt_mem_within assignment)
        (secondBelongs.valueAt_mem_within assignment)
        (thirdBelongs.valueAt_mem_within assignment)
  case scalar_exterior =>
    apply
      ((one.apply .exterior two).yields.apply .scalarProduct three).concur
        (one.apply .scalarProduct (two.apply .leftContraction three).yields)
    intro assignment
    exact
      Reference.product_assoc ProductKind.associates_scalar
        (firstBelongs.valueAt_mem_within assignment)
        (secondBelongs.valueAt_mem_within assignment)
        (thirdBelongs.valueAt_mem_within assignment)

/-- The laws over one vector of each square, at factors and a last operand that share all three. -/
theorem contraction_mixedSignature :
    let algebra : Algebra := ⟨⟨1, 1, 1, [], by decide⟩⟩
    let first : Multivector :=
      ⟨algebra, #[⟨0, 1⟩, ⟨1, 2⟩], #[⟨1, 1, 1, 0⟩, ⟨-1, 3, 1, 1⟩], #[⟨1, 0, 1⟩, ⟨2, 1, 4⟩]⟩
    let second : Multivector :=
      ⟨algebra, #[⟨1, -1⟩], #[⟨1, 1, 1, 0⟩, ⟨-1, 2, 0, 1⟩], #[⟨1, 0, 2⟩, ⟨1, 1, 0⟩]⟩
    let third : Multivector :=
      ⟨algebra, #[⟨2, 1⟩, ⟨0, 1⟩], #[⟨1, 1, 2, 0⟩, ⟨1, 1, 0, 0⟩],
        #[⟨3, 0, 6⟩, ⟨1, 0, 7⟩, ⟨1, 1, 4⟩]⟩
    first.Valid ∧ second.Valid ∧ third.Valid ∧ Contraction first second third := by
  intro algebra first second third
  have firstValid : first.Valid := by unfold Multivector.Valid; cbv
  have secondValid : second.Valid := by unfold Multivector.Valid; cbv
  have thirdValid : third.Valid := by unfold Multivector.Valid; cbv
  exact
    ⟨firstValid, secondValid, thirdValid,
      @contraction algebra _ _ _ firstValid secondValid thirdValid rfl rfl rfl⟩

end Multivector
end Versor
