import Versor.Proofs.Multivector.Closure
import Versor.Proofs.Reference.Duality

/-!
# Exterior and regressive product of multivectors

What the dual does to the elements of a geometric algebra it does to the arrays
of multivectors: canonical forms are equal if their values are, so each law of
the elements is one of the arrays (`Multivector.duality`).  No law looks at the
metric, so null vectors make no difference.
-/

namespace Versor

namespace Multivector

section Values

variable {algebra : Algebra} {element : Multivector} (assignment : SourceId → ℚ)

/-- A multivector over an algebra stands for a sum of the blades of that algebra. -/
theorem BelongsTo.valueAt_mem_within
    (belongs : BelongsTo algebra element) :
    element.valueAt assignment ∈ Reference.within algebra := by
  apply AddSubmonoid.list_sum_mem
  intro value member
  rcases List.mem_map.1 member with ⟨summand, inSummands, rfl⟩
  apply Reference.single_mem_spanned
  exact (mem_summands_blade belongs.inRange inSummands).trans_eq belongs.agrees.bladeCount_eq

theorem valueAt_constant
    (algebra : Algebra)
    (value : ℚ)
    (blade : Blade) :
    (constant algebra value blade).valueAt assignment =
      Finsupp.single (Blade.vectors blade) value := by
  rw [constant, valueAt_ofEntries, entriesAt, totalOf_cons, totalOf_nil, weighAt_apply]
  simp [Entry.key, productAt]

theorem BelongsTo.constant
    (value : ℚ)
    {blade : Blade}
    (below : blade < algebra.bladeCount) :
    BelongsTo algebra (constant algebra value blade) where
  inRange := inRange_ofEntries (by simpa using below)
  agrees := rfl

/-- A multivector all of whose value is on the blades of a grade, array by array. -/
def IsOfGrade
    (element : Multivector)
    (grade : Nat) :
    Prop :=
  (element.gradeSelect grade).Agrees element.canonicalize

theorem BelongsTo.valueAt_mem_graded
    (belongs : BelongsTo algebra element)
    {grade : Nat}
    (ofGrade : element.IsOfGrade grade) :
    element.valueAt assignment ∈ Reference.graded algebra grade := by
  have part :
      Reference.gradePart grade (element.valueAt assignment) = element.valueAt assignment := by
    have same := congrArg (valueAt assignment) ofGrade
    rwa [valueAt_plain, valueAt_plain, valueAt_canonicalize, valueAt_gradeSelect] at same
  rw [← part]
  exact Reference.gradePart_mem_graded grade (belongs.valueAt_mem_within assignment)

end Values

section Computation

variable
  {algebra : Algebra}
  {computation : Except Error Multivector}
  {value : (SourceId → ℚ) → Reference.Element ℚ}

theorem BelongsTo.unary
    {element : Multivector}
    (operation : UnaryOperation)
    (belongs : BelongsTo algebra element) :
    BelongsTo algebra (operation.apply element) where
  inRange := operation.inRange_apply belongs.inRange
  agrees := (congrArg Algebra.plain (operation.algebra_apply element)).trans belongs.agrees

/-- An operation on one operand succeeds, and the result is in canonical form. -/
theorem Yields.unary
    (operation : UnaryOperation)
    (yields : Yields algebra computation value) :
    YieldsCanonical algebra (do return operation.apply (← computation))
      fun assignment => Reference.unary algebra.metric operation (value assignment) := by
  rcases yields with ⟨element, rfl, belongs, values⟩
  have metrics : element.algebra.metric.plain = algebra.metric.plain :=
    congrArg Algebra.metric belongs.agrees
  refine
    ⟨operation.apply element, rfl, belongs.unary operation, ?_,
      operation.canonicalize_apply element⟩
  intro assignment
  rw [operation.valueAt_apply assignment belongs.inRange, values]
  exact Reference.unary_of_plain_eq metrics operation _

end Computation

/--
The laws of the exterior and the regressive product, at three multivectors over an
algebra.  Each says that two computations succeed with equal arrays.
-/
structure Duality
    (algebra : Algebra)
    (first second third : Multivector) :
    Prop where
  undual_dual : Concur (.ok first.dual.undual) (.ok first.canonicalize)
  dual_undual : Concur (.ok first.undual.dual) (.ok first.canonicalize)
  dual_regressive :
    Concur
      (do return (← combine regressiveProduct first second).dual)
      (combine exteriorProduct first.dual second.dual)
  undual_exterior :
    Concur
      (do return (← combine exteriorProduct first second).undual)
      (combine regressiveProduct first.undual second.undual)
  exterior_assoc :
    Concur
      (do combine exteriorProduct (← combine exteriorProduct first second) third)
      (do combine exteriorProduct first (← combine exteriorProduct second third))
  regressive_assoc :
    Concur
      (do combine regressiveProduct (← combine regressiveProduct first second) third)
      (do combine regressiveProduct first (← combine regressiveProduct second third))
  one_exterior :
    Concur (combine exteriorProduct (constant algebra 1 0) first) (.ok first.canonicalize)
  exterior_one :
    Concur (combine exteriorProduct first (constant algebra 1 0)) (.ok first.canonicalize)
  pseudoscalar_regressive :
    Concur
      (combine regressiveProduct (constant algebra 1 algebra.pseudoscalar) first)
      (.ok first.canonicalize)
  regressive_pseudoscalar :
    Concur
      (combine regressiveProduct first (constant algebra 1 algebra.pseudoscalar))
      (.ok first.canonicalize)
  exterior_comm :
    ∀ firstGrade secondGrade : Nat,
      first.IsOfGrade firstGrade → second.IsOfGrade secondGrade →
        Concur
          (combine exteriorProduct second first)
          (do
            return (← combine exteriorProduct first second).scale
              ((-1) ^ (firstGrade * secondGrade)))
  regressive_comm :
    ∀ firstGrade secondGrade : Nat,
      first.IsOfGrade firstGrade → second.IsOfGrade secondGrade →
        Concur
          (combine regressiveProduct second first)
          (do
            return (← combine regressiveProduct first second).scale
              ((-1) ^ ((algebra.dimension - firstGrade) * (algebra.dimension - secondGrade))))

/-- The dual exchanges the exterior and the regressive product of valid multivectors. -/
theorem duality
    {algebra : Algebra}
    {first second third : Multivector}
    (firstValid : first.Valid)
    (secondValid : second.Valid)
    (thirdValid : third.Valid)
    (firstOver : first.algebra.Agrees algebra)
    (secondOver : second.algebra.Agrees algebra)
    (thirdOver : third.algebra.Agrees algebra) :
    Duality algebra first second third := by
  have firstBelongs : BelongsTo algebra first := ⟨firstValid.inRange, firstOver⟩
  have secondBelongs : BelongsTo algebra second := ⟨secondValid.inRange, secondOver⟩
  have thirdBelongs : BelongsTo algebra third := ⟨thirdValid.inRange, thirdOver⟩
  have firstWithin := fun assignment => firstBelongs.valueAt_mem_within assignment
  have secondWithin := fun assignment => secondBelongs.valueAt_mem_within assignment
  have thirdWithin := fun assignment => thirdBelongs.valueAt_mem_within assignment
  have one := Yields.of_belongsTo firstBelongs
  have two := Yields.of_belongsTo secondBelongs
  have three := Yields.of_belongsTo thirdBelongs
  have unit : Yields algebra (.ok (constant algebra 1 0)) _ := .of_belongsTo .one
  have pseudoscalar :=
    Yields.of_belongsTo (BelongsTo.constant 1 algebra.pseudoscalar_lt_bladeCount)
  constructor
  case undual_dual =>
    apply ((one.unary .dual).yields.unary .undual).concur one.canonicalize
    intro assignment
    exact Reference.undual_dual (firstWithin assignment)
  case dual_undual =>
    apply ((one.unary .undual).yields.unary .dual).concur one.canonicalize
    intro assignment
    exact Reference.dual_undual (firstWithin assignment)
  case dual_regressive =>
    apply
      ((one.apply .regressive two).yields.unary .dual).concur
        ((one.unary .dual).yields.apply .exterior (two.unary .dual).yields)
    intro assignment
    exact Reference.dual_regressive (firstWithin assignment) (secondWithin assignment)
  case undual_exterior =>
    apply
      ((one.apply .exterior two).yields.unary .undual).concur
        ((one.unary .undual).yields.apply .regressive (two.unary .undual).yields)
    intro assignment
    exact Reference.undual_exterior (firstWithin assignment) (secondWithin assignment)
  case exterior_assoc =>
    apply
      ((one.apply .exterior two).yields.apply .exterior three).concur
        (one.apply .exterior (two.apply .exterior three).yields)
    intro assignment
    exact
      Reference.exterior_assoc (firstWithin assignment) (secondWithin assignment)
        (thirdWithin assignment)
  case regressive_assoc =>
    apply
      ((one.apply .regressive two).yields.apply .regressive three).concur
        (one.apply .regressive (two.apply .regressive three).yields)
    intro assignment
    exact
      Reference.regressive_assoc (firstWithin assignment) (secondWithin assignment)
        (thirdWithin assignment)
  case one_exterior =>
    apply (unit.apply .exterior one).concur one.canonicalize
    intro assignment
    rw [valueAt_one]
    exact Reference.one_exterior (firstWithin assignment)
  case exterior_one =>
    apply (one.apply .exterior unit).concur one.canonicalize
    intro assignment
    rw [valueAt_one]
    exact Reference.exterior_one (firstWithin assignment)
  case pseudoscalar_regressive =>
    apply (pseudoscalar.apply .regressive one).concur one.canonicalize
    intro assignment
    rw [valueAt_constant]
    exact Reference.pseudoscalar_regressive (firstWithin assignment)
  case regressive_pseudoscalar =>
    apply (one.apply .regressive pseudoscalar).concur one.canonicalize
    intro assignment
    rw [valueAt_constant]
    exact Reference.regressive_pseudoscalar (firstWithin assignment)
  case exterior_comm =>
    intro firstGrade secondGrade firstOfGrade secondOfGrade
    apply (two.apply .exterior one).concur ((one.apply .exterior two).yields.scale _)
    intro assignment
    exact
      Reference.exterior_comm (firstBelongs.valueAt_mem_graded assignment firstOfGrade)
        (secondBelongs.valueAt_mem_graded assignment secondOfGrade)
  case regressive_comm =>
    intro firstGrade secondGrade firstOfGrade secondOfGrade
    apply (two.apply .regressive one).concur ((one.apply .regressive two).yields.scale _)
    intro assignment
    exact
      Reference.regressive_comm (firstBelongs.valueAt_mem_graded assignment firstOfGrade)
        (secondBelongs.valueAt_mem_graded assignment secondOfGrade)

/-- The laws at a vector, at a plane with a multiplier, and at a sum of two grades. -/
theorem duality_projective :
    let vector : Multivector :=
      ⟨.projective, #[⟨0, 1⟩, ⟨1, 1⟩], #[⟨1, 1, 1, 0⟩, ⟨-1, 2, 1, 1⟩], #[⟨1, 0, 1⟩, ⟨1, 1, 8⟩]⟩
    let plane : Multivector := ⟨.projective, #[⟨1, -1⟩], #[⟨1, 1, 1, 0⟩], #[⟨3, 0, 6⟩]⟩
    let mixed : Multivector :=
      ⟨.projective, #[⟨1, 2⟩, ⟨0, 1⟩], #[⟨-1, 3, 2, 0⟩], #[⟨1, 0, 0⟩, ⟨2, 0, 6⟩]⟩
    vector.IsOfGrade 1 ∧ plane.IsOfGrade 2 ∧ Duality .projective vector plane mixed := by
  intro vector plane mixed
  have vectorValid : vector.Valid := by unfold Multivector.Valid; cbv
  have planeValid : plane.Valid := by unfold Multivector.Valid; cbv
  have mixedValid : mixed.Valid := by unfold Multivector.Valid; cbv
  have vectorOfGrade : vector.IsOfGrade 1 := by unfold IsOfGrade Multivector.Agrees; cbv
  have planeOfGrade : plane.IsOfGrade 2 := by unfold IsOfGrade Multivector.Agrees; cbv
  exact
    ⟨vectorOfGrade, planeOfGrade,
      duality vectorValid planeValid mixedValid rfl rfl rfl⟩

end Multivector

end Versor
