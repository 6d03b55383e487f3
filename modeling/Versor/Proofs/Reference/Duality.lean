import Versor.Proofs.Reference.Associativity

/-!
# The dual exchanges the exterior and the regressive product

The complement of a blade and the blade itself swap a number of vectors, and
that number only depends on which of the two comes first.  The dual puts the
complement behind and its inverse puts it in front, so each takes the other
one back (`undual_dual`, `dual_undual`).  The regressive product is the
exterior product between the two, and whatever holds of the one product holds
of the other one with complements in place of blades.

All laws are additive in every operand, so they are shown on single blades.
-/

namespace Versor

namespace Blade

/-- Where all vectors square to one, the sign of a product counts swaps. -/
theorem multiply_vectors_one
    (left right : Blade) :
    Word.multiply (fun _ => 1) (vectors left) (vectors right) =
      (reorderingSign left right, vectors (left ^^^ right)) := by
  have leftSorted := vectors_sortedLT left
  have rightSorted := vectors_sortedLT right
  apply Prod.ext
  · rw [Word.multiply_sign leftSorted rightSorted, Word.swaps_eq_sum_right, reorderingSign,
      inversions_eq_sum]
    simp
  · apply (Word.multiply_sortedLT rightSorted).eq_of_mem_iff (vectors_sortedLT _)
    intro vector
    rw [Word.mem_multiply leftSorted.nodup rightSorted, mem_vectors_xor]

/-- Three blades are sorted with one sign from either side. -/
theorem reorderingSign_assoc
    (first second third : Blade) :
    reorderingSign first second * reorderingSign (first ^^^ second) third =
      reorderingSign second third * reorderingSign first (second ^^^ third) := by
  have assoc :=
    Word.multiply_assoc (fun _ => 1) (vectors first) (vectors second) (vectors_sortedLT third)
  have signs := congrArg Prod.fst assoc
  simpa only [multiply_vectors_one, Word.scaled] using signs

/-- The common vectors of two blades, counted at the vectors of the first one. -/
theorem grade_and
    (left right : Blade) :
    grade (left &&& right) =
      ((vectors left).map fun vector => (vectors right).count vector).sum := by
  rw [grade, vectors_and]
  induction vectors left with
  | nil => rfl
  | cons vector rest inductionHypothesis =>
      rw [List.map_cons, List.sum_cons, ← inductionHypothesis,
        List.Nodup.count (vectors_sortedLT right).nodup]
      by_cases common : vector ∈ vectors right
      · simp [common, Nat.add_comm, -mem_vectors]
      · simp [common, -mem_vectors]

/-- Of two vectors, one from each of two blades, one passes the other or they are the same. -/
theorem inversions_add_inversions
    (left right : Blade) :
    inversions left right + inversions right left + grade (left &&& right) =
      grade left * grade right := by
  have split (vector : Nat) (word : Word) :
      word.countP (· < vector) + word.countP (vector < ·) + word.count vector = word.length := by
    induction word with
    | nil => rfl
    | cons first rest inductionHypothesis =>
        rw [List.length_cons, ← inductionHypothesis]
        rcases lt_trichotomy first vector with lower | same | higher
        · simp [lower, lower.ne, lower.not_gt]
          omega
        · simp [same]
          omega
        · simp [higher, higher.ne', higher.not_gt]
          omega
  rw [grade_and, inversions_eq_sum, ← Word.swaps_eq_sum_right, Word.swaps, inversions_eq_sum,
    ← List.sum_map_add, ← List.sum_map_add]
  simp only [split, List.map_const', List.sum_replicate, smul_eq_mul, grade_eq_length]

theorem reorderingSign_comm
    {left right : Blade}
    (disjoint : left &&& right = 0) :
    reorderingSign right left =
      paritySign (grade left * grade right) * reorderingSign left right := by
  have apart : grade (left &&& right) = 0 := grade_eq_zero_iff.2 disjoint
  rw [← inversions_add_inversions, apart, Nat.add_zero, paritySign_add, mul_right_comm]
  have square := Word.paritySign_mul_self (inversions left right)
  rw [reorderingSign, reorderingSign, square, one_mul]

@[simp]
theorem reorderingSign_zero_left
    (blade : Blade) :
    reorderingSign 0 blade = 1 :=
  (congrArg Prod.fst (multiply_vectors_one 0 blade)).symm

@[simp]
theorem reorderingSign_zero_right
    (blade : Blade) :
    reorderingSign blade 0 = 1 := by
  have product := multiply_vectors_one blade 0
  rw [vectors_zero, Word.multiply_nil (vectors_sortedLT blade)] at product
  exact (congrArg Prod.fst product).symm

end Blade

namespace Algebra

variable (algebra : Algebra)

theorem pseudoscalar_and
    {blade : Blade}
    (below : blade < algebra.bladeCount) :
    algebra.pseudoscalar &&& blade = blade := by
  rw [Nat.and_comm]
  exact Nat.and_two_pow_sub_one_of_lt_two_pow below

theorem grade_pseudoscalar :
    Blade.grade algebra.pseudoscalar = algebra.dimension := by
  have below : (0 : Blade) < algebra.bladeCount := by simp [bladeCount_eq_pow]
  have vectors := algebra.vectors_complement below
  rw [Nat.xor_zero, Blade.vectors_zero] at vectors
  rw [Blade.grade_eq_length, vectors]
  simp [Word.complement]

/-- Three blades multiply with one sign from either side. -/
theorem productSign_assoc
    (first second third : Blade) :
    algebra.productSign first second * algebra.productSign (first ^^^ second) third =
      algebra.productSign second third * algebra.productSign first (second ^^^ third) := by
  have assoc :=
    Word.multiply_assoc algebra.metric.square (Blade.vectors first) (Blade.vectors second)
      (Blade.vectors_sortedLT third)
  have signs := congrArg Prod.fst assoc
  simpa only [multiply_vectors, Word.scaled] using signs

end Algebra

namespace ProductKind

open Blade

/--
Of three blades, two products that begin with the first two keep what two others do that
begin with the last two.
-/
def Associates
    (inner outer otherInner otherOuter : ProductKind) :
    Prop :=
  ∀ first second third : Blade,
    inner.keeps first second = true ∧ outer.keeps (first ^^^ second) third = true ↔
      otherInner.keeps second third = true ∧ otherOuter.keeps first (second ^^^ third) = true

/-- Exterior products keep three blades if no vector is lost, from either side. -/
theorem associates_exterior :
    Associates exterior exterior exterior exterior := by
  intro first second third
  have whole := Nat.xor_assoc first second third
  have front := grade_xor_add first second
  have back := grade_xor_add second third
  have fromFront := grade_xor_add (first ^^^ second) third
  have fromBack := grade_xor_add first (second ^^^ third)
  rw [whole] at fromFront
  simp only [keeps_eq_keepsGrades, keepsGrades, beq_iff_eq, whole]
  omega

end ProductKind

noncomputable section

namespace Reference

variable {Coefficient : Type*} [CommRing Coefficient]

/-! ## Sums of certain blades -/

/-- The elements that are sums of blades which are accepted. -/
def spanned
    (accepts : Blade → Prop) :
    AddSubmonoid (Element Coefficient) :=
  AddSubmonoid.closure
    { summand |
      ∃ blade coefficient,
        accepts blade ∧ summand = Finsupp.single (Blade.vectors blade) coefficient }

section Spanned

variable {accepts : Blade → Prop}

theorem single_mem_spanned
    {blade : Blade}
    (accepted : accepts blade)
    (coefficient : Coefficient) :
    Finsupp.single (Blade.vectors blade) coefficient ∈ spanned accepts :=
  AddSubmonoid.subset_closure ⟨blade, coefficient, accepted, rfl⟩

/-- What is additive and holds of accepted blades holds of their sums. -/
@[elab_as_elim]
theorem spanned_induction
    {motive : (element : Element Coefficient) → element ∈ spanned accepts → Prop}
    (zero : motive 0 (zero_mem _))
    (add :
      ∀ left right leftMember rightMember, motive left leftMember → motive right rightMember →
        motive (left + right) (add_mem leftMember rightMember))
    (single :
      ∀ blade coefficient (accepted : accepts blade),
        motive (Finsupp.single (Blade.vectors blade) coefficient)
          (single_mem_spanned accepted coefficient))
    {element : Element Coefficient}
    (member : element ∈ spanned accepts) :
    motive element member := by
  induction member using AddSubmonoid.closure_induction with
  | mem summand isBlade =>
      rcases isBlade with ⟨blade, coefficient, accepted, rfl⟩
      exact single blade coefficient accepted
  | zero => exact zero
  | add left right leftMember rightMember leftHolds rightHolds =>
      exact add left right leftMember rightMember leftHolds rightHolds

/-- A map of words that takes accepted blades to accepted blades does so with their sums. -/
theorem mapWords_mem_spanned
    {targets : Blade → Prop}
    {image : Word → Int × Word}
    (mapped :
      ∀ blade, accepts blade →
        ∃ target, targets target ∧ (image (Blade.vectors blade)).2 = Blade.vectors target)
    {element : Element Coefficient}
    (member : element ∈ spanned accepts) :
    mapWords image element ∈ spanned targets := by
  induction member using spanned_induction with
  | zero =>
      rw [mapWords_zero]
      exact zero_mem _
  | add left right _ _ leftHolds rightHolds =>
      rw [mapWords_add]
      exact add_mem leftHolds rightHolds
  | single blade coefficient accepted =>
      rcases mapped blade accepted with ⟨target, isTarget, same⟩
      rw [mapWords_single, same]
      exact single_mem_spanned isTarget _

end Spanned

theorem mapWords_smul
    (image : Word → Int × Word)
    (factor : Coefficient)
    (element : Element Coefficient) :
    mapWords image (factor • element) = factor • mapWords image element := by
  induction element using Finsupp.induction_linear with
  | zero => simp
  | add left right leftHolds rightHolds =>
      rw [smul_add, mapWords_add, leftHolds, rightHolds, mapWords_add, smul_add]
  | single word coefficient =>
      rw [Finsupp.smul_single, mapWords_single, mapWords_single, Finsupp.smul_single, smul_eq_mul,
        smul_eq_mul, mul_left_comm]

variable {algebra : Algebra}

/-- The elements on the blades of an algebra. -/
abbrev within
    (algebra : Algebra) :
    AddSubmonoid (Element Coefficient) :=
  spanned (· < algebra.bladeCount)

/-- The elements on the blades of a grade. -/
abbrev graded
    (algebra : Algebra)
    (grade : Nat) :
    AddSubmonoid (Element Coefficient) :=
  spanned fun blade => blade < algebra.bladeCount ∧ Blade.grade blade = grade

theorem gradePart_mem_graded
    (grade : Nat)
    {element : Element Coefficient}
    (member : element ∈ within algebra) :
    gradePart grade element ∈ graded algebra grade := by
  unfold gradePart
  induction member using spanned_induction with
  | zero =>
      rw [Finsupp.filter_zero]
      exact zero_mem _
  | add left right _ _ leftHolds rightHolds =>
      rw [Finsupp.filter_add]
      exact add_mem leftHolds rightHolds
  | single blade coefficient below =>
      by_cases ofGrade : Blade.grade blade = grade
      · rw [Finsupp.filter_single_of_pos]
        · exact single_mem_spanned ⟨below, ofGrade⟩ _
        · exact_mod_cast ofGrade
      · rw [Finsupp.filter_single_of_neg]
        · exact zero_mem _
        · exact_mod_cast ofGrade

/-! ## The dual and its inverse -/

theorem dual_single
    {blade : Blade}
    (below : blade < algebra.bladeCount)
    (coefficient : Coefficient) :
    dual algebra.metric (Finsupp.single (Blade.vectors blade) coefficient) =
      Finsupp.single (Blade.vectors (algebra.pseudoscalar ^^^ blade))
        (((algebra.complement blade).2 : Coefficient) * coefficient) := by
  rw [dual, mapWords_single, rightComplement, algebra.vectors_complement below]
  dsimp only
  rw [← algebra.multiply_complement below]
  rfl

theorem undual_single
    {blade : Blade}
    (below : blade < algebra.bladeCount)
    (coefficient : Coefficient) :
    undual algebra.metric (Finsupp.single (Blade.vectors blade) coefficient) =
      Finsupp.single (Blade.vectors (algebra.pseudoscalar ^^^ blade))
        (((algebra.leftComplement blade).2 : Coefficient) * coefficient) := by
  rw [undual, mapWords_single, leftComplement, algebra.vectors_complement below]
  dsimp only
  rw [← algebra.multiply_leftComplement below]
  rfl

theorem pseudoscalar_xor_xor
    (blade : Blade) :
    algebra.pseudoscalar ^^^ (algebra.pseudoscalar ^^^ blade) = blade := by
  rw [← Nat.xor_assoc, Nat.xor_self, Nat.zero_xor]

theorem pseudoscalar_xor_lt
    {blade : Blade}
    (below : blade < algebra.bladeCount) :
    algebra.pseudoscalar ^^^ blade < algebra.bladeCount :=
  algebra.xor_lt_bladeCount algebra.pseudoscalar_lt_bladeCount below

/-- The complement of a complement has the sign that the one had before. -/
theorem complement_signs_cancel
    (left right : Blade)
    (coefficient : Coefficient) :
    (Blade.reorderingSign left right : Coefficient) *
        ((Blade.reorderingSign left right : Coefficient) * coefficient) =
      coefficient := by
  have square : Blade.reorderingSign left right * Blade.reorderingSign left right = 1 :=
    Word.paritySign_mul_self _
  rw [← mul_assoc, ← Int.cast_mul, square, Int.cast_one, one_mul]

theorem undual_dual
    {element : Element Coefficient}
    (member : element ∈ within algebra) :
    undual algebra.metric (dual algebra.metric element) = element := by
  induction member using spanned_induction with
  | zero => simp [undual, dual]
  | add left right _ _ leftHolds rightHolds =>
      rw [undual, dual] at *
      rw [mapWords_add, mapWords_add, leftHolds, rightHolds]
  | single blade coefficient below =>
      rw [dual_single below, undual_single (pseudoscalar_xor_lt below), Algebra.leftComplement,
        Algebra.complement, pseudoscalar_xor_xor, complement_signs_cancel]

theorem dual_undual
    {element : Element Coefficient}
    (member : element ∈ within algebra) :
    dual algebra.metric (undual algebra.metric element) = element := by
  induction member using spanned_induction with
  | zero => simp [undual, dual]
  | add left right _ _ leftHolds rightHolds =>
      rw [undual, dual] at *
      rw [mapWords_add, mapWords_add, leftHolds, rightHolds]
  | single blade coefficient below =>
      rw [undual_single below, dual_single (pseudoscalar_xor_lt below), Algebra.leftComplement,
        Algebra.complement, pseudoscalar_xor_xor, complement_signs_cancel]

theorem dual_mem
    {element : Element Coefficient}
    (member : element ∈ within algebra) :
    dual algebra.metric element ∈ within algebra := by
  apply mapWords_mem_spanned _ member
  intro blade below
  exact ⟨_, pseudoscalar_xor_lt below, (algebra.vectors_complement below).symm⟩

/-- The dual takes blades of a grade to blades of the grade that these lack. -/
theorem dual_mem_graded
    {grade : Nat}
    {element : Element Coefficient}
    (member : element ∈ graded algebra grade) :
    dual algebra.metric element ∈ graded algebra (algebra.dimension - grade) := by
  apply mapWords_mem_spanned _ member
  rintro blade ⟨below, rfl⟩
  refine ⟨_, ⟨pseudoscalar_xor_lt below, ?_⟩, (algebra.vectors_complement below).symm⟩
  have total := Blade.grade_xor_add algebra.pseudoscalar blade
  rw [algebra.pseudoscalar_and below, algebra.grade_pseudoscalar] at total
  omega

/-! ## Products of blades -/

/-- A product of two blades, by the tables of the algebra. -/
theorem product_single_vectors
    (kind : ProductKind)
    (left right : Blade)
    (first second : Coefficient) :
    product algebra.metric kind (Finsupp.single (Blade.vectors left) first)
        (Finsupp.single (Blade.vectors right) second) =
      if kind.keeps left right then
        Finsupp.single (Blade.vectors (left ^^^ right))
          ((algebra.productSign left right : Coefficient) * (first * second))
      else 0 := by
  rw [product_single_single, wordProduct]
  simp only [Algebra.multiply_vectors, ← Blade.grade_eq_length,
    ← ProductKind.keeps_eq_keepsGrades]

section Associates

variable
  {inner outer otherInner otherOuter : ProductKind}
  (associates : ProductKind.Associates inner outer otherInner otherOuter)

include associates

/-- Two products in a row of three blades are two others that begin with the last two. -/
theorem product_assoc_single
    (first second third : Blade)
    (one two three : Coefficient) :
    product algebra.metric outer
        (product algebra.metric inner (Finsupp.single (Blade.vectors first) one)
          (Finsupp.single (Blade.vectors second) two))
        (Finsupp.single (Blade.vectors third) three) =
      product algebra.metric otherOuter (Finsupp.single (Blade.vectors first) one)
        (product algebra.metric otherInner (Finsupp.single (Blade.vectors second) two)
          (Finsupp.single (Blade.vectors third) three)) := by
  have fromFront :
      product algebra.metric outer
          (product algebra.metric inner (Finsupp.single (Blade.vectors first) one)
            (Finsupp.single (Blade.vectors second) two))
          (Finsupp.single (Blade.vectors third) three) =
        if inner.keeps first second = true ∧ outer.keeps (first ^^^ second) third = true then
          Finsupp.single (Blade.vectors (first ^^^ second ^^^ third))
            (((algebra.productSign first second *
                algebra.productSign (first ^^^ second) third : Int) : Coefficient) *
              (one * two * three))
        else 0 := by
    rw [product_single_vectors, ite_and]
    split
    · rw [product_single_vectors]
      push_cast
      ring_nf
    · exact zero_product _ _ _
  have fromBack :
      product algebra.metric otherOuter (Finsupp.single (Blade.vectors first) one)
          (product algebra.metric otherInner (Finsupp.single (Blade.vectors second) two)
            (Finsupp.single (Blade.vectors third) three)) =
        if otherInner.keeps second third = true ∧
            otherOuter.keeps first (second ^^^ third) = true then
          Finsupp.single (Blade.vectors (first ^^^ (second ^^^ third)))
            (((algebra.productSign second third *
                algebra.productSign first (second ^^^ third) : Int) : Coefficient) *
              (one * two * three))
        else 0 := by
    rw [product_single_vectors _ second, ite_and]
    split
    · rw [product_single_vectors]
      push_cast
      ring_nf
    · exact product_zero _ _ _
  rw [fromFront, fromBack, algebra.productSign_assoc, Nat.xor_assoc]
  exact if_congr (associates first second third) rfl rfl

theorem product_assoc
    {accepts : Blade → Prop}
    {first second third : Element Coefficient}
    (firstMember : first ∈ spanned accepts)
    (secondMember : second ∈ spanned accepts)
    (thirdMember : third ∈ spanned accepts) :
    product algebra.metric outer (product algebra.metric inner first second) third =
      product algebra.metric otherOuter first
        (product algebra.metric otherInner second third) := by
  induction firstMember using spanned_induction with
  | zero => simp
  | add left right _ _ leftAssoc rightAssoc => simp only [add_product, leftAssoc, rightAssoc]
  | single firstBlade one _ =>
      induction secondMember using spanned_induction with
      | zero => simp
      | add left right _ _ leftAssoc rightAssoc =>
          simp only [add_product, product_add, leftAssoc, rightAssoc]
      | single secondBlade two _ =>
          induction thirdMember using spanned_induction with
          | zero => simp
          | add left right _ _ leftAssoc rightAssoc =>
              simp only [product_add, leftAssoc, rightAssoc]
          | single thirdBlade three _ =>
              exact product_assoc_single associates firstBlade secondBlade thirdBlade one two three

end Associates

/-! ## The exterior product -/

theorem exterior_single_single
    (left right : Blade)
    (first second : Coefficient) :
    product algebra.metric .exterior (Finsupp.single (Blade.vectors left) first)
        (Finsupp.single (Blade.vectors right) second) =
      if left &&& right = 0 then
        Finsupp.single (Blade.vectors (left ^^^ right))
          ((Blade.reorderingSign left right : Coefficient) * (first * second))
      else 0 := by
  rw [product_single_vectors]
  simp only [ProductKind.keeps, beq_iff_eq]
  split
  · next disjoint =>
    rw [Algebra.productSign, disjoint, Algebra.metricFactor_eq_prod]
    simp
  · rfl

theorem exterior_assoc
    {accepts : Blade → Prop}
    {first second third : Element Coefficient}
    (firstMember : first ∈ spanned accepts)
    (secondMember : second ∈ spanned accepts)
    (thirdMember : third ∈ spanned accepts) :
    product algebra.metric .exterior (product algebra.metric .exterior first second) third =
      product algebra.metric .exterior first (product algebra.metric .exterior second third) :=
  product_assoc ProductKind.associates_exterior firstMember secondMember thirdMember

theorem exterior_mem
    {left right : Element Coefficient}
    (leftMember : left ∈ within algebra)
    (rightMember : right ∈ within algebra) :
    product algebra.metric .exterior left right ∈ within algebra := by
  induction leftMember using spanned_induction with
  | zero =>
      rw [zero_product]
      exact zero_mem _
  | add first second _ _ firstHolds secondHolds =>
      rw [add_product]
      exact add_mem firstHolds secondHolds
  | single leftBlade one leftBelow =>
      induction rightMember using spanned_induction with
      | zero =>
          rw [product_zero]
          exact zero_mem _
      | add first second _ _ firstHolds secondHolds =>
          rw [product_add]
          exact add_mem firstHolds secondHolds
      | single rightBlade two rightBelow =>
          rw [exterior_single_single]
          split
          · apply single_mem_spanned
            exact algebra.xor_lt_bladeCount leftBelow rightBelow
          · exact zero_mem _

/-- The empty word is a unit from the left. -/
theorem one_exterior
    {accepts : Blade → Prop}
    {element : Element Coefficient}
    (member : element ∈ spanned accepts) :
    product algebra.metric .exterior (Finsupp.single [] 1) element = element := by
  induction member using spanned_induction with
  | zero => simp
  | add left right _ _ leftHolds rightHolds => rw [product_add, leftHolds, rightHolds]
  | single blade coefficient _ =>
      rw [← Blade.vectors_zero, exterior_single_single, Nat.zero_and, if_pos rfl, Nat.zero_xor]
      simp

/-- The empty word is a unit from the right. -/
theorem exterior_one
    {accepts : Blade → Prop}
    {element : Element Coefficient}
    (member : element ∈ spanned accepts) :
    product algebra.metric .exterior element (Finsupp.single [] 1) = element := by
  induction member using spanned_induction with
  | zero => simp
  | add left right _ _ leftHolds rightHolds => rw [add_product, leftHolds, rightHolds]
  | single blade coefficient _ =>
      rw [← Blade.vectors_zero, exterior_single_single, Nat.and_zero, if_pos rfl, Nat.xor_zero]
      simp

theorem exterior_comm
    {leftGrade rightGrade : Nat}
    {left right : Element Coefficient}
    (leftMember : left ∈ graded algebra leftGrade)
    (rightMember : right ∈ graded algebra rightGrade) :
    product algebra.metric .exterior right left =
      (-1 : Coefficient) ^ (leftGrade * rightGrade) •
        product algebra.metric .exterior left right := by
  induction leftMember using spanned_induction with
  | zero => simp
  | add first second _ _ firstHolds secondHolds =>
      rw [product_add, add_product, firstHolds, secondHolds, smul_add]
  | single leftBlade one leftOfGrade =>
      induction rightMember using spanned_induction with
      | zero => simp
      | add first second _ _ firstHolds secondHolds =>
          rw [product_add, add_product, firstHolds, secondHolds, smul_add]
      | single rightBlade two rightOfGrade =>
          rw [exterior_single_single, exterior_single_single, Nat.and_comm, Nat.xor_comm]
          split
          · next disjoint =>
            rw [Blade.reorderingSign_comm disjoint, leftOfGrade.2, rightOfGrade.2,
              Finsupp.smul_single, Blade.paritySign_eq_pow, smul_eq_mul]
            push_cast
            congr 1
            ring
          · rw [smul_zero]

/-! ## The regressive product -/

theorem dual_regressive
    {left right : Element Coefficient}
    (leftMember : left ∈ within algebra)
    (rightMember : right ∈ within algebra) :
    dual algebra.metric (regressive algebra.metric left right) =
      product algebra.metric .exterior (dual algebra.metric left) (dual algebra.metric right) :=
  dual_undual (exterior_mem (dual_mem leftMember) (dual_mem rightMember))

theorem undual_exterior
    {left right : Element Coefficient}
    (leftMember : left ∈ within algebra)
    (rightMember : right ∈ within algebra) :
    undual algebra.metric (product algebra.metric .exterior left right) =
      regressive algebra.metric (undual algebra.metric left) (undual algebra.metric right) := by
  rw [regressive, dual_undual leftMember, dual_undual rightMember]

theorem regressive_assoc
    {first second third : Element Coefficient}
    (firstMember : first ∈ within algebra)
    (secondMember : second ∈ within algebra)
    (thirdMember : third ∈ within algebra) :
    regressive algebra.metric (regressive algebra.metric first second) third =
      regressive algebra.metric first (regressive algebra.metric second third) := by
  rw [regressive, dual_regressive firstMember secondMember,
    exterior_assoc (dual_mem firstMember) (dual_mem secondMember) (dual_mem thirdMember),
    ← dual_regressive secondMember thirdMember, ← regressive]

/-- The dual of the pseudoscalar is the empty word. -/
theorem dual_pseudoscalar :
    dual algebra.metric (Finsupp.single (Blade.vectors algebra.pseudoscalar) 1) =
      (Finsupp.single [] 1 : Element Coefficient) := by
  rw [dual_single algebra.pseudoscalar_lt_bladeCount, Algebra.complement]
  simp

theorem pseudoscalar_regressive
    {element : Element Coefficient}
    (member : element ∈ within algebra) :
    regressive algebra.metric (Finsupp.single (Blade.vectors algebra.pseudoscalar) 1) element =
      element := by
  rw [regressive, dual_pseudoscalar, one_exterior (dual_mem member), undual_dual member]

theorem regressive_pseudoscalar
    {element : Element Coefficient}
    (member : element ∈ within algebra) :
    regressive algebra.metric element (Finsupp.single (Blade.vectors algebra.pseudoscalar) 1) =
      element := by
  rw [regressive, dual_pseudoscalar, exterior_one (dual_mem member), undual_dual member]

theorem regressive_comm
    {leftGrade rightGrade : Nat}
    {left right : Element Coefficient}
    (leftMember : left ∈ graded algebra leftGrade)
    (rightMember : right ∈ graded algebra rightGrade) :
    regressive algebra.metric right left =
      (-1 : Coefficient) ^ ((algebra.dimension - leftGrade) * (algebra.dimension - rightGrade)) •
        regressive algebra.metric left right := by
  rw [regressive, exterior_comm (dual_mem_graded leftMember) (dual_mem_graded rightMember),
    undual, mapWords_smul]
  rfl

end Reference

end

end Versor
