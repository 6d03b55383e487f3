import Versor.Proofs.Multivector.Range
import Versor.Proofs.Multivector.Valuation

/-!
# Operations on multivectors are those of the geometric algebra

The value of the result of an operation is the operation of the geometric
algebra applied to the values of its operands, at every assignment
(`UnaryOperation.valueAt_apply`, `BinaryOperation.valueAt_apply`).  The
products go through pairs of summands and the other operations through
entries, so there is one lemma for each of these two ways.
-/

noncomputable section

namespace Versor

variable {Coefficient : Type*} [CommRing Coefficient] [Module ℚ Coefficient]

/-- An integer factor is a rational one. -/
theorem intCast_mul_eq_smul
    (factor : Int)
    (coefficient : Coefficient) :
    (factor : Coefficient) * coefficient = (factor : ℚ) • coefficient := by
  rw [Int.cast_smul_eq_zsmul, zsmul_eq_mul]

/-- Members that a partial map drops add nothing to a sum. -/
theorem sum_map_filterMap
    {Source Target Total : Type*}
    [AddMonoid Total]
    (image : Source → Option Target)
    (weigh : Target → Total)
    (members : List Source) :
    ((members.filterMap image).map weigh).sum =
      (members.map fun member => (image member).elim 0 weigh).sum := by
  induction members with
  | nil => rfl
  | cons member rest inductionHypothesis =>
      rw [List.filterMap_cons, List.map_cons, List.sum_cons, ← inductionHypothesis]
      cases image member with
      | none => simp
      | some target => simp

variable (assignment : SourceId → Coefficient)

/-! ## Sums -/

namespace Multivector

theorem valueAt_concatenate
    {left : Multivector}
    (inRange : left.InRange)
    (right : Multivector) :
    (concatenate left right).valueAt assignment =
      left.valueAt assignment + right.valueAt assignment := by
  rw [valueAt, summands_concatenate inRange, List.map_append, List.sum_append, valueAt,
    valueAt]

theorem valueAt_add
    {left : Multivector}
    (inRange : left.InRange)
    (right : Multivector) :
    (left.add right).valueAt assignment =
      left.valueAt assignment + right.valueAt assignment := by
  rw [add, valueAt_canonicalize, valueAt_concatenate assignment inRange]

theorem valueAt_scale
    (element : Multivector)
    (factor : Rat) :
    (element.scale factor).valueAt assignment =
      factor • element.valueAt assignment := by
  have scaled (entry : Entry) :
      weighAt assignment entry.key (entry.value * factor) =
        factor • weighAt assignment entry.key entry.value := by
    rw [weighAt_apply, weighAt_apply, Finsupp.smul_single, smul_smul, mul_comm]
  rw [scale, rawScale, valueAt_canonicalize, valueAt_ofEntries, valueAt_eq_entriesAt, entriesAt,
    entriesAt, totalOf, totalOf, List.smul_sum, List.map_map, List.map_map]
  exact congrArg List.sum (List.map_congr_left fun entry _ => scaled entry)

theorem valueAt_negate
    (element : Multivector) :
    element.negate.valueAt assignment = -element.valueAt assignment := by
  rw [negate, valueAt_scale, neg_one_smul]

theorem valueAt_subtract
    {left : Multivector}
    (inRange : left.InRange)
    (right : Multivector) :
    (left.subtract right).valueAt assignment =
      left.valueAt assignment - right.valueAt assignment := by
  rw [subtract, valueAt_canonicalize, valueAt_concatenate assignment inRange,
    valueAt_negate, sub_eq_add_neg]

/-! ## Operations blade by blade -/

/-- A map of blades acts on values as the map of words that it stands for. -/
theorem valueAt_mapBlades
    {element : Multivector}
    {image : Blade → Option (Blade × Int)}
    {wordImage : Word → Int × Word}
    (same :
      ∀ entry ∈ element.entries, ∃ target,
        image entry.blade = some target ∧
          wordImage (Blade.vectors entry.blade) =
            (target.2, Blade.vectors target.1)) :
    (element.mapBlades image).valueAt assignment =
      Reference.mapWords wordImage (element.valueAt assignment) := by
  rw [mapBlades, rawMapBlades, valueAt_canonicalize, valueAt_ofEntries, valueAt_eq_entriesAt,
    entriesAt, entriesAt, totalOf, totalOf, Reference.mapWords_list_sum,
    sum_map_filterMap, List.map_map]
  refine congrArg List.sum (List.map_congr_left fun entry member => ?_)
  rcases same entry member with ⟨target, found, sameWord⟩
  rw [found, Function.comp_apply, weighAt_apply, Reference.mapWords_single, Entry.key,
    sameWord, intCast_mul_eq_smul, smul_smul]
  change weighAt assignment (target.1, entry.ids) (entry.value * target.2) = _
  rw [weighAt_apply, mul_comm]

theorem valueAt_signBlades
    {element : Multivector}
    {sign : Blade → Int}
    {wordImage : Word → Int × Word}
    (same :
      ∀ blade,
        wordImage (Blade.vectors blade) = (sign blade, Blade.vectors blade)) :
    (element.mapBlades (signedBy sign)).valueAt assignment =
      Reference.mapWords wordImage (element.valueAt assignment) :=
  valueAt_mapBlades assignment fun entry _ => ⟨_, rfl, same entry.blade⟩

theorem valueAt_reverse
    (element : Multivector) :
    element.reverse.valueAt assignment =
      Reference.reverse element.algebra.metric (element.valueAt assignment) :=
  valueAt_signBlades assignment (Algebra.reversed_vectors _)

theorem valueAt_involute
    (element : Multivector) :
    element.involute.valueAt assignment =
      Reference.involute (element.valueAt assignment) := by
  apply valueAt_signBlades assignment
  intro blade
  rw [Blade.involuted_vectors]

/-- Conjugation is reversion after grade involution, also in the order of its signs. -/
theorem valueAt_conjugate
    (element : Multivector) :
    element.conjugate.valueAt assignment =
      Reference.conjugate element.algebra.metric (element.valueAt assignment) := by
  have composed (value : Reference.Element Coefficient) :
      Reference.conjugate element.algebra.metric value =
        Reference.mapWords
          (fun word =>
            let reversed := Word.reversed element.algebra.metric.square word
            (reversed.1 * (word.map fun _ => -1).prod, reversed.2))
          value := by
    unfold Reference.conjugate Reference.reverse Reference.involute
    induction value using Finsupp.induction_linear with
    | zero => simp
    | add first second firstSame secondSame =>
        simp only [Reference.mapWords_add, firstSame, secondSame]
    | single word coefficient =>
        simp only [Reference.mapWords_single, Int.cast_mul, mul_assoc]
  rw [composed]
  apply valueAt_signBlades assignment
  intro blade
  simp only [Algebra.reversed_vectors, Blade.involuted_vectors, Blade.conjugateSign]

theorem valueAt_dual
    {element : Multivector}
    (inRange : element.InRange) :
    element.dual.valueAt assignment =
      Reference.dual element.algebra.metric (element.valueAt assignment) := by
  refine valueAt_mapBlades assignment fun entry member => ⟨_, rfl, ?_⟩
  have below := inRange.blades entry member
  rw [Reference.rightComplement]
  exact Prod.ext (Algebra.multiply_complement _ below)
    (Algebra.vectors_complement _ below).symm

theorem valueAt_undual
    {element : Multivector}
    (inRange : element.InRange) :
    element.undual.valueAt assignment =
      Reference.undual element.algebra.metric (element.valueAt assignment) := by
  refine valueAt_mapBlades assignment fun entry member => ⟨_, rfl, ?_⟩
  have below := inRange.blades entry member
  rw [Reference.leftComplement]
  exact Prod.ext (Algebra.multiply_leftComplement _ below)
    (Algebra.vectors_complement _ below).symm

theorem valueAt_gradeSelect
    (element : Multivector)
    (grade : Rat) :
    (element.gradeSelect grade).valueAt assignment =
      Reference.gradePart grade (element.valueAt assignment) := by
  have filtered (values : List (Reference.Element Coefficient)) :
      Reference.gradePart grade values.sum =
        (values.map (Reference.gradePart grade)).sum :=
    map_list_sum (Finsupp.filterAddHom _) values
  rw [gradeSelect, mapBlades, rawMapBlades, valueAt_canonicalize, valueAt_ofEntries,
    valueAt_eq_entriesAt, entriesAt, entriesAt, totalOf, totalOf, filtered,
    sum_map_filterMap, List.map_map]
  refine congrArg List.sum (List.map_congr_left fun entry _ => ?_)
  rw [Function.comp_apply, weighAt_apply, Reference.gradePart, ofGrade]
  split
  · next ofGrade =>
    rw [Finsupp.filter_single_of_pos]
    · simp [weighAt_apply, Entry.key]
    · exact ofGrade
  · next notOfGrade =>
    rw [Finsupp.filter_single_of_neg]
    · rfl
    · exact notOfGrade

/-! ## Products -/

/-- The product of two summands stands for the product of what they stand for. -/
theorem elementAt_productSummand?
    (algebra : Algebra)
    (kind : ProductKind)
    (left right : Summand) :
    (productSummand? algebra kind left right).elim 0 (Summand.elementAt assignment) =
      Reference.product algebra.metric kind (left.elementAt assignment)
        (right.elementAt assignment) := by
  rw [Summand.elementAt, Summand.elementAt, Reference.product_single_single,
    Reference.wordProduct]
  simp only [Algebra.multiply_vectors, ← Blade.grade_eq_length,
    ← ProductKind.keeps_eq_keepsGrades, productSummand?]
  by_cases vanishes : algebra.productSign left.blade right.blade = 0
  · simp [vanishes]
  · by_cases kept : kind.keeps left.blade right.blade = true
    · simp only [vanishes, kept, Bool.true_eq_false, or_self, if_false, if_true,
        Option.elim_some, Summand.elementAt, Summand.valueAt, List.map_append,
        List.prod_append]
      congr 1
      rw [intCast_mul_eq_smul, smul_mul_smul_comm, smul_smul]
      congr 1
      push_cast
      ring
    · simp [vanishes, kept]

theorem valueAt_product
    (kind : ProductKind)
    (left right : Multivector) :
    (product kind left right).valueAt assignment =
      Reference.product left.algebra.metric kind (left.valueAt assignment)
        (right.valueAt assignment) := by
  rw [product, valueAt_canonicalize, rawProduct, valueAt_ofSummands, valueAt, valueAt,
    Reference.product_list_sum, List.map_flatMap, List.flatMap_def, List.sum_flatten,
    List.map_map, List.map_map]
  refine congrArg List.sum (List.map_congr_left fun first _ => ?_)
  rw [Function.comp_apply, sum_map_filterMap, Function.comp_apply, List.map_map]
  exact congrArg List.sum
    (List.map_congr_left fun second _ => elementAt_productSummand? assignment _ _ _ _)

theorem valueAt_regressiveProduct
    {left right : Multivector}
    (leftInRange : left.InRange)
    (rightInRange : right.InRange)
    (agrees : left.algebra.Agrees right.algebra) :
    (regressiveProduct left right).valueAt assignment =
      Reference.regressive left.algebra.metric (left.valueAt assignment)
        (right.valueAt assignment) := by
  have dualsAgree : left.dual.algebra.Agrees right.dual.algebra := agrees
  have exterior : (exteriorProduct left.dual right.dual).InRange :=
    inRange_product _ (inRange_dual leftInRange) (inRange_dual rightInRange) dualsAgree
  have sameDual (value : Reference.Element Coefficient) :
      Reference.dual right.algebra.metric value =
        Reference.dual left.algebra.metric value :=
    Reference.unary_of_plain_eq (congrArg Algebra.metric agrees.symm) .dual value
  rw [regressiveProduct, valueAt_undual assignment exterior, algebra_exteriorProduct,
    exteriorProduct, valueAt_product, valueAt_dual assignment leftInRange,
    valueAt_dual assignment rightInRange, sameDual]
  rfl

end Multivector

/-! ## Operations of expressions -/

/-- An operation on a multivector is the operation of the geometric algebra on its value. -/
theorem UnaryOperation.valueAt_apply
    (operation : UnaryOperation)
    {operand : Multivector}
    (inRange : operand.InRange) :
    (operation.apply operand).valueAt assignment =
      Reference.unary operand.algebra.metric operation (operand.valueAt assignment) := by
  cases operation with
  | negate => exact operand.valueAt_negate assignment
  | scale factor => exact operand.valueAt_scale assignment factor
  | reverse => exact operand.valueAt_reverse assignment
  | involute => exact operand.valueAt_involute assignment
  | conjugate => exact operand.valueAt_conjugate assignment
  | dual => exact Multivector.valueAt_dual assignment inRange
  | undual => exact Multivector.valueAt_undual assignment inRange
  | grade grade => exact operand.valueAt_gradeSelect assignment grade

/-- An operation on two multivectors is the operation of the geometric algebra on their values. -/
theorem BinaryOperation.valueAt_apply
    (operation : BinaryOperation)
    {left right : Multivector}
    (leftInRange : left.InRange)
    (rightInRange : right.InRange)
    (agrees : left.algebra.Agrees right.algebra) :
    (operation.apply left right).valueAt assignment =
      Reference.binary left.algebra.metric operation (left.valueAt assignment)
        (right.valueAt assignment) := by
  cases operation with
  | sum => exact Multivector.valueAt_add assignment leftInRange right
  | difference => exact Multivector.valueAt_subtract assignment leftInRange right
  | geometric => exact Multivector.valueAt_product assignment .geometric left right
  | exterior => exact Multivector.valueAt_product assignment .exterior left right
  | regressive =>
      exact Multivector.valueAt_regressiveProduct assignment leftInRange rightInRange agrees
  | leftContraction =>
      exact Multivector.valueAt_product assignment .leftContraction left right
  | scalarProduct => exact Multivector.valueAt_product assignment .scalar left right

end Versor

end
