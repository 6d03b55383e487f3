import Versor.Proofs.Multivector.Closure

/-!
# Operations that ignore the metric

The arrays of a multivector can be read over another algebra (`Multivector.withAlgebra`).  The
involutions and the choice of a grade see nothing of an algebra but the blades.  The duals also
see how many basis vectors there are.  The exterior product does read the squares of the
vectors that two blades share, but it only keeps pairs of blades that share none.  So all of
these operations, and the regressive product with them, commute with reading over another
algebra of the same dimension.
-/

namespace Versor

namespace Algebra

/-- Blades without a common vector multiply by the sign of sorting their vectors. -/
theorem productSign_of_disjoint
    (algebra : Algebra)
    {left right : Blade}
    (disjoint : left &&& right = 0) :
    algebra.productSign left right = Blade.reorderingSign left right := by
  rw [productSign, disjoint]
  exact mul_one _

section Dimension

variable {algebra other : Algebra}

theorem pseudoscalar_eq_of_dimension_eq
    (same : algebra.dimension = other.dimension) :
    algebra.pseudoscalar = other.pseudoscalar := by
  rw [pseudoscalar, pseudoscalar, bladeCount, bladeCount, same]

theorem complement_eq_of_dimension_eq
    (same : algebra.dimension = other.dimension) :
    algebra.complement = other.complement := by
  funext blade
  rw [complement, complement, pseudoscalar_eq_of_dimension_eq same]

theorem leftComplement_eq_of_dimension_eq
    (same : algebra.dimension = other.dimension) :
    algebra.leftComplement = other.leftComplement := by
  funext blade
  rw [leftComplement, leftComplement, pseudoscalar_eq_of_dimension_eq same]

end Dimension

end Algebra

/-- The operations on two multivectors that do not multiply by squares of basis vectors. -/
def BinaryOperation.ignoresMetric : BinaryOperation → Bool
  | .sum | .difference | .exterior | .regressive => true
  | .geometric | .leftContraction | .scalarProduct => false

namespace Multivector

/-- The same arrays over another algebra. -/
def withAlgebra
    (element : Multivector)
    (algebra : Algebra) :
    Multivector :=
  { element with algebra := algebra }

section Reading

variable (element : Multivector) (algebra : Algebra)

@[simp]
theorem algebra_withAlgebra :
    (element.withAlgebra algebra).algebra = algebra :=
  rfl

@[simp]
theorem summands_withAlgebra :
    (element.withAlgebra algebra).summands = element.summands :=
  rfl

@[simp]
theorem entries_withAlgebra :
    (element.withAlgebra algebra).entries = element.entries :=
  rfl

@[simp]
theorem canonicalize_withAlgebra :
    (element.withAlgebra algebra).canonicalize = element.canonicalize.withAlgebra algebra :=
  rfl

@[simp]
theorem scale_withAlgebra
    (factor : Rat) :
    (element.withAlgebra algebra).scale factor = (element.scale factor).withAlgebra algebra :=
  rfl

@[simp]
theorem mapBlades_withAlgebra
    (image : Blade → Option (Blade × Int)) :
    (element.withAlgebra algebra).mapBlades image = (element.mapBlades image).withAlgebra algebra :=
  rfl

theorem gradeSelectLiteral_withAlgebra
    (grade : Literal) :
    (element.withAlgebra algebra).gradeSelectLiteral grade =
      (element.gradeSelectLiteral grade).withAlgebra algebra := by
  unfold gradeSelectLiteral
  cases grade.rational? <;> rfl

variable {element algebra}

theorem dual_withAlgebra
    (same : element.algebra.dimension = algebra.dimension) :
    (element.withAlgebra algebra).dual = element.dual.withAlgebra algebra := by
  rw [dual, dual, mapBlades_withAlgebra, algebra_withAlgebra,
    Algebra.complement_eq_of_dimension_eq same]

theorem undual_withAlgebra
    (same : element.algebra.dimension = algebra.dimension) :
    (element.withAlgebra algebra).undual = element.undual.withAlgebra algebra := by
  rw [undual, undual, mapBlades_withAlgebra, algebra_withAlgebra,
    Algebra.leftComplement_eq_of_dimension_eq same]

end Reading

/--
The exterior product of two summands is the same in all algebras: a pair that it keeps shares
no vector, so no square takes part in its sign.
-/
theorem productSummand?_exterior
    (algebra other : Algebra)
    (left right : Summand) :
    productSummand? algebra .exterior left right =
      productSummand? other .exterior left right := by
  unfold productSummand?
  by_cases disjoint : left.blade &&& right.blade = 0
  · rw [algebra.productSign_of_disjoint disjoint, other.productSign_of_disjoint disjoint]
  · have dropped : ProductKind.exterior.keeps left.blade right.blade = false :=
      beq_eq_false_iff_ne.2 disjoint
    rw [if_pos (.inr dropped), if_pos (.inr dropped)]

section Pair

variable {left right : Multivector} {algebra : Algebra}

theorem exteriorProduct_withAlgebra :
    exteriorProduct (left.withAlgebra algebra) (right.withAlgebra algebra) =
      (exteriorProduct left right).withAlgebra algebra := by
  have raw :
      rawProduct .exterior (left.withAlgebra algebra) (right.withAlgebra algebra) =
        (rawProduct .exterior left right).withAlgebra algebra := by
    unfold rawProduct
    simp only [summands_withAlgebra, algebra_withAlgebra,
      productSummand?_exterior algebra left.algebra]
    rfl
  rw [exteriorProduct, product, raw, canonicalize_withAlgebra]
  rfl

theorem regressiveProduct_withAlgebra
    (leftSame : left.algebra.dimension = algebra.dimension)
    (rightSame : right.algebra.dimension = algebra.dimension) :
    regressiveProduct (left.withAlgebra algebra) (right.withAlgebra algebra) =
      (regressiveProduct left right).withAlgebra algebra := by
  have product : (exteriorProduct left.dual right.dual).algebra.dimension = algebra.dimension := by
    rwa [algebra_exteriorProduct, dual, algebra_mapBlades]
  rw [regressiveProduct, regressiveProduct, dual_withAlgebra leftSame,
    dual_withAlgebra rightSame, exteriorProduct_withAlgebra, undual_withAlgebra product]

end Pair

end Multivector

/-- An operation on one multivector sees nothing of the metric but the dimension. -/
theorem UnaryOperation.apply_withAlgebra
    (operation : UnaryOperation)
    (operand : Multivector)
    {algebra : Algebra}
    (same : operand.algebra.dimension = algebra.dimension) :
    operation.apply (operand.withAlgebra algebra) =
      (operation.apply operand).withAlgebra algebra := by
  cases operation with
  | negate => simp only [apply, Multivector.negate, Multivector.scale_withAlgebra]
  | scale factor => simp only [apply, Multivector.scale_withAlgebra]
  | reverse => simp only [apply, Multivector.reverse, Multivector.mapBlades_withAlgebra]
  | involute => simp only [apply, Multivector.involute, Multivector.mapBlades_withAlgebra]
  | conjugate => simp only [apply, Multivector.conjugate, Multivector.mapBlades_withAlgebra]
  | dual => exact Multivector.dual_withAlgebra same
  | undual => exact Multivector.undual_withAlgebra same
  | grade grade => simp only [apply, Multivector.gradeSelect, Multivector.mapBlades_withAlgebra]

theorem BinaryOperation.apply_withAlgebra
    {operation : BinaryOperation}
    (ignores : operation.ignoresMetric)
    (left right : Multivector)
    {algebra : Algebra}
    (leftSame : left.algebra.dimension = algebra.dimension)
    (rightSame : right.algebra.dimension = algebra.dimension) :
    operation.apply (left.withAlgebra algebra) (right.withAlgebra algebra) =
      (operation.apply left right).withAlgebra algebra := by
  cases operation with
  | sum => rfl
  | difference => rfl
  | exterior => exact Multivector.exteriorProduct_withAlgebra
  | regressive => exact Multivector.regressiveProduct_withAlgebra leftSame rightSame
  | geometric => cases ignores
  | leftContraction => cases ignores
  | scalarProduct => cases ignores

namespace Multivector

/--
Two lists of entries can be read over either of two algebras, and no operation that ignores the
metric tells the readings apart.
-/
structure ReadAlike
    (algebra other : Algebra)
    (left right : List Entry) :
    Prop where
  valid : (ofEntries algebra left).Valid ∧ (ofEntries algebra right).Valid
  otherValid : (ofEntries other left).Valid ∧ (ofEntries other right).Valid
  unary :
    ∀ operation : UnaryOperation,
      (operation.apply (ofEntries algebra left)).entries =
        (operation.apply (ofEntries other left)).entries
  gradeSelect :
    ∀ grade : Literal,
      ((ofEntries algebra left).gradeSelectLiteral grade).entries =
        ((ofEntries other left).gradeSelectLiteral grade).entries
  binary :
    ∀ operation : BinaryOperation,
      operation.ignoresMetric →
        ∃ first second,
          combine operation.apply (ofEntries algebra left) (ofEntries algebra right) =
              .ok first ∧
            combine operation.apply (ofEntries other left) (ofEntries other right) =
                .ok second ∧
              first.entries = second.entries

/--
The involutions, the duals, the choice of a grade and the exterior and the regressive product
give the same entries over any two metrics with as many vectors.
-/
theorem entries_metric_independent
    {algebra other : Algebra}
    (same : algebra.dimension = other.dimension)
    {left right : List Entry}
    (leftBlades : ∀ entry ∈ left, entry.blade < twoTo algebra.dimension)
    (rightBlades : ∀ entry ∈ right, entry.blade < twoTo algebra.dimension)
    (leftIds : ∀ entry ∈ left, ∀ id ∈ entry.ids, 0 ≤ id)
    (rightIds : ∀ entry ∈ right, ∀ id ∈ entry.ids, 0 ≤ id) :
    ReadAlike algebra other left right := by
  have otherCount : twoTo algebra.dimension = other.bladeCount := congrArg twoTo same
  constructor
  case valid =>
    constructor
    · exact valid_iff_isProper.2 (isProper_ofEntries leftBlades leftIds)
    · exact valid_iff_isProper.2 (isProper_ofEntries rightBlades rightIds)
  case otherValid =>
    rw [otherCount] at leftBlades rightBlades
    constructor
    · exact valid_iff_isProper.2 (isProper_ofEntries leftBlades leftIds)
    · exact valid_iff_isProper.2 (isProper_ofEntries rightBlades rightIds)
  case unary =>
    intro operation
    have moved := operation.apply_withAlgebra (ofEntries algebra left) same
    exact (congrArg entries moved).symm
  case gradeSelect =>
    intro grade
    have moved := (ofEntries algebra left).gradeSelectLiteral_withAlgebra other grade
    exact (congrArg entries moved).symm
  case binary =>
    intro operation ignores
    have moved :=
      BinaryOperation.apply_withAlgebra ignores (ofEntries algebra left)
        (ofEntries algebra right) same same
    exact ⟨_, _, if_pos rfl, if_pos rfl, (congrArg entries moved).symm⟩

/-- Entries read over `G(3,0,1)` and over an algebra with two null and two negative vectors. -/
theorem entries_metric_independent_projective :
    ReadAlike .projective ⟨⟨0, 2, 2, [], by decide⟩⟩
      [⟨3, 2, [0]⟩, ⟨4, -1, [1, 1]⟩] [⟨8, 1, [2]⟩, ⟨9, 1 / 2, []⟩] := by
  have same :
      Algebra.dimension .projective = Algebra.dimension ⟨⟨0, 2, 2, [], by decide⟩⟩ := rfl
  apply entries_metric_independent same
  · decide
  · decide
  · decide
  · decide

end Multivector

end Versor
