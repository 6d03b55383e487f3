import Versor.Proofs.Projective.Sandwich
import Mathlib.Analysis.SpecialFunctions.Complex.Arg

/-!
# Exponential and logarithm in coordinates

Scalars and pseudoscalars are dual numbers, with which even elements are
multiplied.  A bivector has a dual number as its length, and the length of a
multiple is the multiple of the length (`Even.lengthOf_dual_mul`).  Thus a
bivector divided by its length has length one, which makes the exponential and
the logarithm inverse to each other (`Even.logarithm_exponential`,
`Even.exponential_logarithm`).
-/

noncomputable section

namespace Versor
namespace Even

/-! ## Sums -/

/-- The sum, coefficient by coefficient. -/
def add
    (left right : Even ℝ) :
    Even ℝ where
  scalar := left.scalar + right.scalar
  e01 := left.e01 + right.e01
  e02 := left.e02 + right.e02
  e03 := left.e03 + right.e03
  e12 := left.e12 + right.e12
  e13 := left.e13 + right.e13
  e23 := left.e23 + right.e23
  e0123 := left.e0123 + right.e0123

instance : Add (Even ℝ) :=
  ⟨add⟩

theorem add_def
    (left right : Even ℝ) :
    left + right = left.add right :=
  rfl

theorem element_add
    (left right : Even ℝ) :
    (left + right).element = left.element + right.element := by
  simp only [element_eq, add_def, add, Finsupp.single_add]
  abel

/-! ## Dual numbers -/

/-- The sum of a scalar and a pseudoscalar. -/
def dual
    (real ideal : ℝ) :
    Even ℝ :=
  ⟨real, 0, 0, 0, 0, 0, 0, ideal⟩

theorem dual_mul_dual
    (real ideal other otherIdeal : ℝ) :
    dual real ideal * dual other otherIdeal =
      dual (real * other) (real * otherIdeal + ideal * other) := by
  ext <;> simp [mul_def, mul, dual]

theorem dual_one :
    dual 1 0 = 1 :=
  rfl

/-- The inverse of a dual number. -/
def dualInverse
    (real ideal : ℝ) :
    Even ℝ :=
  dual real⁻¹ (-ideal / (real * real))

theorem dual_mul_inverse
    {real : ℝ}
    (nonzero : real ≠ 0)
    (ideal : ℝ) :
    dual real ideal * dualInverse real ideal = 1 := by
  rw [dualInverse, dual_mul_dual, ← dual_one]
  congr 1
  · exact mul_inv_cancel₀ nonzero
  · field_simp
    ring

theorem inverse_mul_dual
    {real : ℝ}
    (nonzero : real ≠ 0)
    (ideal : ℝ) :
    dualInverse real ideal * dual real ideal = 1 := by
  rw [dualInverse, dual_mul_dual, ← dual_one]
  congr 1
  · exact inv_mul_cancel₀ nonzero
  · field_simp
    ring

/-! ## Bivectors -/

/-- The bivector part. -/
def bivector
    (even : Even ℝ) :
    Even ℝ :=
  { even with scalar := 0, e0123 := 0 }

/-- An even element without a scalar and a pseudoscalar part. -/
structure IsBivector
    (even : Even ℝ) :
    Prop where
  scalar : even.scalar = 0
  e0123 : even.e0123 = 0

/-- The real part of the length of a bivector. -/
def lengthOf
    (line : Even ℝ) :
    ℝ :=
  √(-(line * line).scalar)

/-- The ideal part of the length of a bivector. -/
def idealLengthOf
    (line : Even ℝ) :
    ℝ :=
  -(line * line).e0123 / (line.lengthOf * 2)

variable {line : Even ℝ}

theorem IsBivector.dual_mul
    (isBivector : line.IsBivector)
    (real ideal : ℝ) :
    (dual real ideal * line).IsBivector := by
  rcases isBivector with ⟨scalar, pseudoscalar⟩
  constructor <;> simp [mul_def, mul, dual, scalar, pseudoscalar]

theorem neg_scalar_square
    (isBivector : line.IsBivector) :
    -(line * line).scalar = line.e12 ^ 2 + line.e13 ^ 2 + line.e23 ^ 2 := by
  simp only [mul_def, mul, isBivector.scalar]
  ring

theorem lengthOf_sq
    (isBivector : line.IsBivector) :
    line.lengthOf ^ 2 = line.e12 ^ 2 + line.e13 ^ 2 + line.e23 ^ 2 := by
  rw [lengthOf, neg_scalar_square isBivector, Real.sq_sqrt (by positivity)]

theorem lengthOf_pos
    (isBivector : line.IsBivector)
    (nonzero : line.e12 ≠ 0 ∨ line.e13 ≠ 0 ∨ line.e23 ≠ 0) :
    0 < line.lengthOf := by
  rw [lengthOf, neg_scalar_square isBivector]
  refine Real.sqrt_pos.2 ?_
  rcases nonzero with nonzero | nonzero | nonzero <;> positivity

theorem dual_mul_comm
    (real ideal : ℝ)
    (even : Even ℝ) :
    dual real ideal * even = even * dual real ideal := by
  ext <;> simp only [mul_def, mul, dual] <;> ring

theorem square_dual_mul
    (real ideal : ℝ) :
    dual real ideal * line * (dual real ideal * line) =
      dual (real * real) (real * ideal + ideal * real) * (line * line) := by
  calc dual real ideal * line * (dual real ideal * line)
      = dual real ideal * (line * dual real ideal) * line := by simp only [mul_assoc]
    _ = dual real ideal * (dual real ideal * line) * line := by rw [dual_mul_comm real ideal line]
    _ = dual real ideal * dual real ideal * (line * line) := by simp only [mul_assoc]
    _ = _ := by rw [dual_mul_dual]

theorem scalar_dual_mul
    (real ideal : ℝ)
    (even : Even ℝ) :
    (dual real ideal * even).scalar = real * even.scalar := by
  simp [mul_def, mul, dual]

theorem e0123_dual_mul
    (real ideal : ℝ)
    (even : Even ℝ) :
    (dual real ideal * even).e0123 = real * even.e0123 + ideal * even.scalar := by
  simp [mul_def, mul, dual]

/-- The length of a multiple of a bivector is the multiple of the length. -/
theorem lengthOf_dual_mul
    {real : ℝ}
    (nonneg : 0 ≤ real)
    (ideal : ℝ) :
    (dual real ideal * line).lengthOf = real * line.lengthOf := by
  rw [lengthOf, square_dual_mul, scalar_dual_mul, lengthOf, ← mul_neg,
    Real.sqrt_mul (mul_self_nonneg real), Real.sqrt_mul_self nonneg]

theorem idealLengthOf_dual_mul
    (isBivector : line.IsBivector)
    {real : ℝ}
    (positive : 0 < real)
    (ideal : ℝ)
    (nonzero : line.lengthOf ≠ 0) :
    (dual real ideal * line).idealLengthOf =
      real * line.idealLengthOf + ideal * line.lengthOf := by
  have square : (line * line).scalar = -line.lengthOf ^ 2 := by
    rw [lengthOf_sq isBivector, ← neg_scalar_square isBivector, neg_neg]
  rw [idealLengthOf, lengthOf_dual_mul positive.le, square_dual_mul, e0123_dual_mul, square,
    idealLengthOf]
  field_simp
  ring

/-- The bivector with a given length and otherwise like a given one. -/
def withLength
    (line : Even ℝ)
    (real ideal : ℝ) :
    Even ℝ :=
  dual real ideal * dualInverse line.lengthOf line.idealLengthOf * line

theorem IsBivector.withLength
    (isBivector : line.IsBivector)
    (real ideal : ℝ) :
    (line.withLength real ideal).IsBivector := by
  rw [Even.withLength, dualInverse, dual_mul_dual]
  exact isBivector.dual_mul _ _

section WithLength

variable
  {real : ℝ}
  (positive : 0 < real)
  (ideal : ℝ)
  (linePositive : 0 < line.lengthOf)

include linePositive

theorem withLength_self :
    line.withLength line.lengthOf line.idealLengthOf = line := by
  rw [withLength, dual_mul_inverse linePositive.ne', one_mul]

include positive

theorem lengthOf_withLength :
    (line.withLength real ideal).lengthOf = real := by
  rw [withLength, dualInverse, dual_mul_dual, lengthOf_dual_mul (by positivity)]
  field_simp

theorem idealLengthOf_withLength
    (isBivector : line.IsBivector) :
    (line.withLength real ideal).idealLengthOf = ideal := by
  rw [withLength, dualInverse, dual_mul_dual,
    idealLengthOf_dual_mul isBivector (by positivity) _ linePositive.ne']
  field_simp
  ring

/-- Of a length that is given twice only the second one matters. -/
theorem withLength_withLength
    (isBivector : line.IsBivector)
    (other otherIdeal : ℝ) :
    (line.withLength real ideal).withLength other otherIdeal =
      line.withLength other otherIdeal := by
  rw [withLength, lengthOf_withLength positive ideal linePositive,
    idealLengthOf_withLength positive ideal linePositive isBivector, withLength, withLength]
  calc dual other otherIdeal * dualInverse real ideal *
          (dual real ideal * dualInverse line.lengthOf line.idealLengthOf * line)
      = dual other otherIdeal * (dualInverse real ideal * dual real ideal) *
          (dualInverse line.lengthOf line.idealLengthOf * line) := by simp only [mul_assoc]
    _ = _ := by rw [inverse_mul_dual positive.ne', mul_one, mul_assoc]

end WithLength

/-! ## Exponential and logarithm -/

/-- The motor that a bivector generates. -/
def exponential
    (line : Even ℝ) :
    Even ℝ :=
  dual (Real.cos line.lengthOf) (-line.idealLengthOf * Real.sin line.lengthOf) +
    line.withLength (Real.sin line.lengthOf) (line.idealLengthOf * Real.cos line.lengthOf)

/-- The real part of the angle of a motor. -/
def angleOf
    (motor : Even ℝ) :
    ℝ :=
  Complex.arg ⟨motor.scalar, motor.bivector.lengthOf⟩

/--
The bivector that generates a motor.  The ideal part of the angle comes from
the pseudoscalar where the scalar is below the bound, and else from the length.
-/
def logarithm
    (bound : ℝ)
    (motor : Even ℝ) :
    Even ℝ :=
  motor.bivector.withLength motor.angleOf
    (if |motor.scalar| < bound then -motor.e0123 / motor.bivector.lengthOf
      else motor.bivector.idealLengthOf / motor.scalar)

/-- A motor is a dual number and a bivector. -/
theorem dual_add_bivector
    (motor : Even ℝ) :
    dual motor.scalar motor.e0123 + motor.bivector = motor := by
  ext <;> simp [add_def, add, dual, bivector]

theorem isBivector_bivector
    (motor : Even ℝ) :
    motor.bivector.IsBivector :=
  ⟨rfl, rfl⟩

theorem bivector_dual_add
    (isBivector : line.IsBivector)
    (real ideal : ℝ) :
    (dual real ideal + line).bivector = line := by
  rcases isBivector with ⟨scalar, pseudoscalar⟩
  ext <;> simp [add_def, add, dual, bivector, scalar, pseudoscalar]

theorem scalar_dual_add
    (isBivector : line.IsBivector)
    (real ideal : ℝ) :
    (dual real ideal + line).scalar = real := by
  simp [add_def, add, dual, isBivector.scalar]

theorem e0123_dual_add
    (isBivector : line.IsBivector)
    (real ideal : ℝ) :
    (dual real ideal + line).e0123 = ideal := by
  simp [add_def, add, dual, isBivector.e0123]

/--
Both branches for the ideal part of the angle agree, if the product of the
scalar and the pseudoscalar is that of the parts of the length.
-/
theorem logarithm_eq
    {bound : ℝ}
    (positive : 0 < bound)
    {motor : Even ℝ}
    (nonzero : motor.bivector.lengthOf ≠ 0)
    (balanced :
      motor.scalar * motor.e0123 = -motor.bivector.idealLengthOf * motor.bivector.lengthOf) :
    motor.logarithm bound =
      motor.bivector.withLength motor.angleOf (-motor.e0123 / motor.bivector.lengthOf) := by
  rw [logarithm]
  split
  · rfl
  · next notSmall =>
    have scalarNonzero : motor.scalar ≠ 0 := by
      intro vanishes
      rw [vanishes, abs_zero] at notSmall
      exact notSmall positive
    congr 1
    rw [div_eq_div_iff scalarNonzero nonzero]
    linarith

/-- The logarithm of the exponential of a line below half a turn is the line. -/
theorem logarithm_exponential
    {bound : ℝ}
    (positive : 0 < bound)
    (isBivector : line.IsBivector)
    (linePositive : 0 < line.lengthOf)
    (belowTurn : line.lengthOf < Real.pi) :
    line.exponential.logarithm bound = line := by
  have sine := Real.sin_pos_of_pos_of_lt_pi linePositive belowTurn
  let turned :=
    line.withLength (Real.sin line.lengthOf) (line.idealLengthOf * Real.cos line.lengthOf)
  have isTurned : turned.IsBivector := isBivector.withLength _ _
  have scalar : line.exponential.scalar = Real.cos line.lengthOf :=
    scalar_dual_add isTurned _ _
  have pseudoscalar :
      line.exponential.e0123 = -line.idealLengthOf * Real.sin line.lengthOf :=
    e0123_dual_add isTurned _ _
  have part : line.exponential.bivector = turned := bivector_dual_add isTurned _ _
  have length : turned.lengthOf = Real.sin line.lengthOf :=
    lengthOf_withLength sine _ linePositive
  have idealLength : turned.idealLengthOf = line.idealLengthOf * Real.cos line.lengthOf :=
    idealLengthOf_withLength sine _ linePositive isBivector
  have angle : line.exponential.angleOf = line.lengthOf := by
    rw [angleOf, scalar, part, length, Complex.mk_eq_add_mul_I, Complex.ofReal_cos,
      Complex.ofReal_sin,
      Complex.arg_cos_add_sin_mul_I ⟨by linarith [Real.pi_pos], belowTurn.le⟩]
  have idealAngle :
      -line.exponential.e0123 / line.exponential.bivector.lengthOf = line.idealLengthOf := by
    rw [pseudoscalar, part, length]
    field_simp
  have balanced :
      line.exponential.scalar * line.exponential.e0123 =
        -line.exponential.bivector.idealLengthOf * line.exponential.bivector.lengthOf := by
    rw [scalar, pseudoscalar, part, length, idealLength]
    ring
  rw [logarithm_eq positive (by rw [part, length]; exact sine.ne') balanced, idealAngle, angle,
    part, withLength_withLength sine _ linePositive isBivector, withLength_self linePositive]

section UnitMotor

variable
  {motor : Even ℝ}
  (isUnit : motor.norm = 1 ∧ motor.twist = 0)
  (turns : 0 < motor.bivector.lengthOf)

include isUnit turns

/-- The angle of a unit motor has its scalar as cosine and the length of its bivector as sine. -/
theorem cos_sin_angleOf :
    Real.cos motor.angleOf = motor.scalar ∧
      Real.sin motor.angleOf = motor.bivector.lengthOf := by
  have circle : motor.scalar ^ 2 + motor.bivector.lengthOf ^ 2 = 1 := by
    rw [lengthOf_sq motor.isBivector_bivector, ← isUnit.1, norm]
    simp only [bivector]
    ring
  have onCircle : ‖(⟨motor.scalar, motor.bivector.lengthOf⟩ : ℂ)‖ = 1 := by
    rw [Complex.norm_def, Complex.normSq_mk, ← sq, ← sq, circle, Real.sqrt_one]
  have nonzero : (⟨motor.scalar, motor.bivector.lengthOf⟩ : ℂ) ≠ 0 := fun vanishes =>
    turns.ne' (congrArg Complex.im vanishes)
  rw [angleOf, Complex.cos_arg nonzero, Complex.sin_arg, onCircle, div_one, div_one]
  exact ⟨rfl, rfl⟩

theorem angleOf_pos :
    0 < motor.angleOf := by
  have nonneg : 0 ≤ motor.angleOf := Complex.arg_nonneg_iff.2 turns.le
  refine nonneg.lt_of_ne fun vanishes => turns.ne' ?_
  rw [← (cos_sin_angleOf isUnit turns).2, ← vanishes, Real.sin_zero]

omit turns in
/-- The scalar times the pseudoscalar of a unit motor is given by the parts of the length. -/
theorem scalar_mul_e0123
    (nonzero : motor.bivector.lengthOf ≠ 0) :
    motor.scalar * motor.e0123 =
      -motor.bivector.idealLengthOf * motor.bivector.lengthOf := by
  have square :
      (motor.bivector * motor.bivector).e0123 = motor.scalar * motor.e0123 * 2 := by
    have untwisted := isUnit.2
    simp only [twist] at untwisted
    simp only [mul_def, mul, bivector]
    linarith
  rw [idealLengthOf, square]
  field_simp

/-- The logarithm of a unit motor that turns, whatever the bound. -/
theorem logarithm_of_isUnit
    {bound : ℝ}
    (positive : 0 < bound) :
    motor.logarithm bound =
      motor.bivector.withLength motor.angleOf (-motor.e0123 / motor.bivector.lengthOf) :=
  logarithm_eq positive turns.ne' (scalar_mul_e0123 isUnit turns.ne')

/-- The exponential of the logarithm of a unit motor that turns is the motor. -/
theorem exponential_logarithm
    {bound : ℝ}
    (positive : 0 < bound) :
    (motor.logarithm bound).exponential = motor := by
  have isBivector := motor.isBivector_bivector
  have anglePositive := angleOf_pos isUnit turns
  have balanced := scalar_mul_e0123 isUnit turns.ne'
  have idealLength :
      -motor.e0123 / motor.bivector.lengthOf * motor.scalar = motor.bivector.idealLengthOf := by
    field_simp
    linarith
  have pseudoscalar :
      -(-motor.e0123 / motor.bivector.lengthOf) * motor.bivector.lengthOf = motor.e0123 := by
    field_simp
  rw [logarithm_of_isUnit isUnit turns positive, exponential,
    lengthOf_withLength anglePositive _ turns,
    idealLengthOf_withLength anglePositive _ turns isBivector,
    withLength_withLength anglePositive _ turns isBivector, (cos_sin_angleOf isUnit turns).1,
    (cos_sin_angleOf isUnit turns).2, idealLength, withLength_self turns, pseudoscalar,
    dual_add_bivector]

end UnitMotor

end Even
end Versor

end
