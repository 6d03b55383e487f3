import Versor.Proofs.Projective.Exponential
import Versor.Proofs.Projective.MotorGroup

/-!
# Exponentials along a line

The exponentials of the multiples of a line are screws about one axis
(`Even.exponential_dual_mul`), whatever the signs of the multiples: the length
of a line is positive, so a line and the opposite one turn by the same angle,
but about opposite axes.  Angles add up where screws about one axis are
multiplied (`Even.screwAbout_mul`), so the exponentials along a line are a
one-parameter group of unit motors (`Compute.exp_parameterGroup`).
-/

noncomputable section

namespace Versor

open Compute Reference

variable {limits : Limits}

namespace Even

/-! ## Sums and products -/

instance : AddCommSemigroup (Even ℝ) where
  add_assoc _ _ _ := by ext <;> exact add_assoc _ _ _
  add_comm _ _ := by ext <;> exact add_comm _ _

instance : Distrib (Even ℝ) where
  left_distrib _ _ _ := by ext <;> simp only [mul_def, mul, add_def, add] <;> ring
  right_distrib _ _ _ := by ext <;> simp only [mul_def, mul, add_def, add] <;> ring

theorem dual_add_dual
    (real ideal other otherIdeal : ℝ) :
    dual real ideal + dual other otherIdeal = dual (real + other) (ideal + otherIdeal) := by
  ext <;> simp [add_def, add, dual]

/-! ## Screws about one axis -/

/-- The screw by an angle about an axis, and by a slide along it. -/
def screwAbout
    (axis : Even ℝ)
    (angle slide : ℝ) :
    Even ℝ :=
  dual (Real.cos angle) (-slide * Real.sin angle) +
    dual (Real.sin angle) (slide * Real.cos angle) * axis

variable {axis line : Even ℝ}

@[simp]
theorem screwAbout_zero :
    screwAbout axis 0 0 = 1 := by
  ext <;> simp [screwAbout, add_def, add, mul_def, mul, dual]
  all_goals rfl

/-- Dual numbers pass an axis, and their multiples of it have a dual number as product. -/
theorem dual_axis_mul
    (square : axis * axis = dual (-1) 0)
    (real ideal other otherIdeal : ℝ) :
    dual real ideal * axis * (dual other otherIdeal * axis) =
      dual (-(real * other)) (-(real * otherIdeal + ideal * other)) := by
  calc dual real ideal * axis * (dual other otherIdeal * axis)
      = dual real ideal * (axis * dual other otherIdeal) * axis := by simp only [mul_assoc]
    _ = dual real ideal * (dual other otherIdeal * axis) * axis := by
        rw [dual_mul_comm other otherIdeal axis]
    _ = dual real ideal * dual other otherIdeal * (axis * axis) := by simp only [mul_assoc]
    _ = _ := by
        rw [square, dual_mul_dual, dual_mul_dual]
        congr 1 <;> ring

/-- Screws about one axis are multiplied by adding angles and slides. -/
theorem screwAbout_mul
    (square : axis * axis = dual (-1) 0)
    (angle slide other otherSlide : ℝ) :
    screwAbout axis angle slide * screwAbout axis other otherSlide =
      screwAbout axis (angle + other) (slide + otherSlide) := by
  have passes (real ideal : ℝ) (turn : Even ℝ) :
      turn * axis * dual real ideal = turn * dual real ideal * axis := by
    rw [mul_assoc, ← dual_mul_comm, mul_assoc]
  simp only [screwAbout]
  rw [add_mul, mul_add, mul_add, dual_axis_mul square, passes, ← mul_assoc, dual_mul_dual,
    dual_mul_dual, dual_mul_dual, add_comm (dual _ _ * axis) (dual _ _), add_add_add_comm,
    dual_add_dual, ← add_mul, dual_add_dual, Real.cos_add, Real.sin_add]
  congr 3 <;> ring

/-- A screw is undone by the opposite angle and slide. -/
theorem reverse_screwAbout
    (isBivector : axis.IsBivector)
    (angle slide : ℝ) :
    (screwAbout axis angle slide).reverse = screwAbout axis (-angle) (-slide) := by
  rcases isBivector with ⟨scalar, pseudoscalar⟩
  ext <;>
    simp [screwAbout, reverse, add_def, add, mul_def, mul, dual, scalar, pseudoscalar] <;>
      ring

section Square

variable
  (isBivector : axis.IsBivector)
  (square : axis * axis = dual (-1) 0)
  (angle slide : ℝ)

include isBivector square

/-- A screw about an axis of length one is a unit motor. -/
theorem norm_twist_screwAbout :
    (screwAbout axis angle slide).norm = 1 ∧ (screwAbout axis angle slide).twist = 0 := by
  have inverse : screwAbout axis angle slide * (screwAbout axis angle slide).reverse = 1 := by
    rw [reverse_screwAbout isBivector, screwAbout_mul square, add_neg_cancel, add_neg_cancel,
      screwAbout_zero]
  rw [mul_reverse] at inverse
  exact ⟨congrArg Even.scalar inverse, congrArg Even.e0123 inverse⟩

end Square

/-! ## The axis of a line -/

/-- The line of length one about which the exponential of a line turns. -/
def axisOf
    (line : Even ℝ) :
    Even ℝ :=
  line.withLength 1 0

theorem IsBivector.axisOf
    (isBivector : line.IsBivector) :
    line.axisOf.IsBivector :=
  isBivector.withLength 1 0

theorem withLength_eq
    (real ideal : ℝ) :
    line.withLength real ideal = dual real ideal * line.axisOf := by
  rw [axisOf, withLength, withLength, dual_one, one_mul, mul_assoc]

/-- The exponential of a line is a screw about the axis of the line. -/
theorem exponential_eq_screwAbout :
    line.exponential = screwAbout line.axisOf line.lengthOf line.idealLengthOf := by
  rw [exponential, withLength_eq, screwAbout]

/-- The square of a line has a scalar and a pseudoscalar part only. -/
theorem IsBivector.mul_self
    (isBivector : line.IsBivector) :
    line * line = dual (line * line).scalar (line * line).e0123 := by
  rcases isBivector with ⟨scalar, pseudoscalar⟩
  ext <;> simp [mul_def, mul, dual, scalar, pseudoscalar] <;> ring

section Positive

variable
  (isBivector : line.IsBivector)
  (positive : 0 < line.lengthOf)

include isBivector positive

theorem axisOf_mul_self :
    line.axisOf * line.axisOf = dual (-1) 0 := by
  have length : line.axisOf.lengthOf = 1 := lengthOf_withLength one_pos 0 positive
  have ideal : line.axisOf.idealLengthOf = 0 :=
    idealLengthOf_withLength one_pos 0 positive isBivector
  have scalar : (line.axisOf * line.axisOf).scalar = -1 := by
    have squared := lengthOf_sq isBivector.axisOf
    rw [length, ← neg_scalar_square isBivector.axisOf] at squared
    linarith
  have pseudoscalar : (line.axisOf * line.axisOf).e0123 = 0 := by
    rw [idealLengthOf, length] at ideal
    linarith
  rw [isBivector.axisOf.mul_self, scalar, pseudoscalar]

theorem axisOf_dual_mul
    {factor : ℝ}
    (factorPositive : 0 < factor) :
    (dual factor 0 * line).axisOf = line.axisOf := by
  have multiple :
      dual factor 0 * line =
        line.withLength (factor * line.lengthOf) (factor * line.idealLengthOf) := by
    have scaled :
        dual (factor * line.lengthOf) (factor * line.idealLengthOf) =
          dual factor 0 * dual line.lengthOf line.idealLengthOf := by
      rw [dual_mul_dual, zero_mul, add_zero]
    rw [withLength, scaled, mul_assoc (dual factor 0), dual_mul_inverse positive.ne', mul_one]
  rw [multiple, axisOf,
    withLength_withLength (mul_pos factorPositive positive) _ positive isBivector, axisOf]

end Positive

/-! ## Multiples of a line -/

theorem opposite_mul_self :
    dual (-1) 0 * line * (dual (-1) 0 * line) = line * line := by
  rw [square_dual_mul]
  ext <;> simp [mul_def, mul, dual]

/-- The opposite line has the same length. -/
theorem lengthOf_opposite :
    (dual (-1) 0 * line).lengthOf = line.lengthOf := by
  rw [lengthOf, opposite_mul_self, lengthOf]

theorem idealLengthOf_opposite :
    (dual (-1) 0 * line).idealLengthOf = line.idealLengthOf := by
  rw [idealLengthOf, opposite_mul_self, lengthOf_opposite, idealLengthOf]

/-- The axis of the opposite line is the opposite axis. -/
theorem axisOf_opposite :
    (dual (-1) 0 * line).axisOf = dual (-1) 0 * line.axisOf := by
  rw [axisOf, withLength, lengthOf_opposite, idealLengthOf_opposite, axisOf, withLength,
    ← mul_assoc, ← mul_assoc, dual_mul_comm (-1) 0 (dual 1 0 * _)]

theorem screwAbout_opposite
    (angle slide : ℝ) :
    screwAbout (dual (-1) 0 * axis) angle slide = screwAbout axis (-angle) (-slide) := by
  rw [screwAbout, screwAbout, ← mul_assoc, dual_mul_dual]
  simp

/-- The exponential of a multiple of a line turns about the axis of the line, by the multiple. -/
theorem exponential_dual_mul
    (isBivector : line.IsBivector)
    (positive : 0 < line.lengthOf)
    {factor : ℝ}
    (nonzero : factor ≠ 0) :
    (dual factor 0 * line).exponential =
      screwAbout line.axisOf (factor * line.lengthOf) (factor * line.idealLengthOf) := by
  have forward {factor : ℝ} (factorPositive : 0 < factor) :
      (dual factor 0 * line).axisOf = line.axisOf ∧
        (dual factor 0 * line).lengthOf = factor * line.lengthOf ∧
        (dual factor 0 * line).idealLengthOf = factor * line.idealLengthOf := by
    refine
      ⟨axisOf_dual_mul isBivector positive factorPositive, lengthOf_dual_mul factorPositive.le 0,
        ?_⟩
    rw [idealLengthOf_dual_mul isBivector factorPositive 0 positive.ne', zero_mul, add_zero]
  rcases lt_or_gt_of_ne nonzero with negative | factorPositive
  · rcases forward (neg_pos.2 negative) with ⟨sameAxis, length, idealLength⟩
    have opposite :
        dual factor 0 * line = dual (-1) 0 * (dual (-factor) 0 * line) := by
      rw [← mul_assoc, dual_mul_dual]
      simp
    rw [exponential_eq_screwAbout, opposite, axisOf_opposite, lengthOf_opposite,
      idealLengthOf_opposite, sameAxis, length, idealLength, screwAbout_opposite]
    simp
  · rcases forward factorPositive with ⟨sameAxis, length, idealLength⟩
    rw [exponential_eq_screwAbout, sameAxis, length, idealLength]

end Even

/-! ## Exponentials of lines -/

namespace Entity

/-- A line whose slots are those of another one, multiplied by a number. -/
structure IsMultiple
    (factor : ℝ)
    (line multiple : Entity ℝ) :
    Prop where
  layout_eq : multiple.layout = .line
  batchShape_eq : multiple.batchShape = line.batchShape
  entryAt_eq :
    ∀ index, Tensor.IsIndex line.batchShape index →
      ∀ slot < Layout.line.width, multiple.entryAt index slot = factor * line.entryAt index slot

variable {line multiple : Entity ℝ}

theorem isMultiple_one
    (isLine : line.layout = .line) :
    line.IsMultiple 1 line where
  layout_eq := isLine
  batchShape_eq := rfl
  entryAt_eq _ _ _ _ := (one_mul _).symm

theorem IsMultiple.lineAt_eq
    {factor : ℝ}
    (isMultiple : line.IsMultiple factor multiple)
    {index : List Nat}
    (isIndex : Tensor.IsIndex line.batchShape index) :
    multiple.lineAt index = Even.dual factor 0 * line.lineAt index := by
  have entries (slot : Nat) (below : slot < 6) :
      multiple.entryAt index slot = factor * line.entryAt index slot :=
    isMultiple.entryAt_eq index isIndex slot below
  ext <;> simp [lineAt, Even.line, Even.mul_def, Even.mul, Even.dual, entries]

/-- The screw about the axis of a line, by a multiple of its length. -/
def screwAt
    (line : Entity ℝ)
    (factor : ℝ)
    (index : List Nat) :
    Even ℝ :=
  .screwAbout (line.lineAt index).axisOf (factor * (line.lineAt index).lengthOf)
    (factor * (line.lineAt index).idealLengthOf)

section Turning

variable
  {index : List Nat}
  (turns : 0 < line.directionLength index)

include turns

theorem screwAt_mul
    (factor other : ℝ) :
    line.screwAt factor index * line.screwAt other index = line.screwAt (factor + other) index := by
  rw [← lengthOf_lineAt] at turns
  rw [screwAt, screwAt, Even.screwAbout_mul
    (Even.axisOf_mul_self (line.isBivector_lineAt index) turns), ← add_mul, ← add_mul, screwAt]

theorem norm_twist_screwAt
    (factor : ℝ) :
    (line.screwAt factor index).norm = 1 ∧ (line.screwAt factor index).twist = 0 := by
  rw [← lengthOf_lineAt] at turns
  have isBivector := line.isBivector_lineAt index
  exact Even.norm_twist_screwAbout isBivector.axisOf (Even.axisOf_mul_self isBivector turns) _ _

omit turns in
theorem reverse_screwAt
    (factor : ℝ) :
    (line.screwAt factor index).reverse = line.screwAt (-factor) index := by
  rw [screwAt, Even.reverse_screwAbout (line.isBivector_lineAt index).axisOf, screwAt, neg_mul,
    neg_mul]

end Turning

/-- A new motor is the even element that it stands for. -/
theorem IsNewEven.even_eq
    {context behind : Context ℝ}
    {batch : List Nat}
    {even : List Nat → Even ℝ}
    {motor : Entity ℝ}
    (made : motor.IsNewEven context .motor batch even behind)
    {index : List Nat}
    (isIndex : Tensor.IsIndex batch index) :
    motor.even index = even index := by
  refine Even.element_injective ?_
  rw [← valueAt_even (made.layout_eq ▸ .motor), made.isEven.valueAt_eq index isIndex]

end Entity

namespace Compute

open Entity

section Multiples

variable
  {certain : Prop}
  {context : Context ℝ}
  {line multiple : Entity ℝ}
  (turns : ∀ index, Tensor.IsIndex line.batchShape index → 0 < line.directionLength index)

include turns

/-- The exponential of a multiple of a line is the screw by this multiple. -/
theorem ensures_exp_multiple
    (ready : context.IsReady limits)
    (room : certain → limits.HasRoom line.batchShape)
    {factor : ℝ}
    (nonzero : factor ≠ 0)
    (isMultiple : line.IsMultiple factor multiple)
    (isOperand : multiple.IsOperand context) :
    (exp multiple).Ensures limits certain context
      (IsNewEven context .motor line.batchShape (line.screwAt factor)) := by
  have isEven := isEven_of_line isOperand isMultiple.layout_eq
  rw [isMultiple.batchShape_eq] at isEven
  refine (ensures_exp ready room isMultiple.layout_eq isEven).mono fun motor behind _ made =>
    ⟨made.isNew, made.layout_eq, made.isEven.isOperand, made.isEven.batchShape_eq,
      fun index isIndex => ?_⟩
  have positive := turns index isIndex
  rw [← lengthOf_lineAt] at positive
  rw [made.isEven.valueAt_eq index isIndex, isMultiple.lineAt_eq isIndex,
    Even.exponential_dual_mul (line.isBivector_lineAt index) positive nonzero, screwAt]

/-- The exponential of a line is a unit motor. -/
theorem ensures_isUnit_exp
    (ready : context.IsReady limits)
    (room : certain → limits.HasRoom line.batchShape)
    (isLine : line.layout = .line)
    (isOperand : line.IsOperand context) :
    (exp line).Ensures limits certain context fun motor _ =>
      motor.layout = .motor ∧ motor.batchShape = line.batchShape ∧ motor.IsUnit := by
  refine (ensures_exp_multiple turns ready room one_ne_zero (isMultiple_one isLine)
    isOperand).mono fun motor behind _ made =>
      ⟨made.layout_eq, made.isEven.batchShape_eq, ?_⟩
  refine isUnit_of_norm_twist (made.layout_eq ▸ .motor) fun index isIndex => ?_
  rw [made.isEven.batchShape_eq] at isIndex
  rw [made.even_eq isIndex]
  exact norm_twist_screwAt (turns index isIndex) 1

/-- The reversion of the exponential of a line is the exponential of the opposite line. -/
theorem ensures_reverse_exp
    (ready : context.IsReady limits)
    (room : certain → limits.HasRoom line.batchShape)
    (isLine : line.layout = .line)
    (isMultiple : line.IsMultiple (-1) multiple)
    (operands : AreOperands context [line, multiple]) :
    (do
        let motor ← exp line
        let reversed ← reverse motor
        let opposite ← exp multiple
        return (reversed, opposite)).Ensures limits
      certain context fun (reversed, opposite) _ =>
        reversed.batchShape = line.batchShape ∧ opposite.batchShape = line.batchShape ∧
          reversed.Coincides line.batchShape opposite := by
  refine (ensures_exp_multiple turns ready room one_ne_zero (isMultiple_one isLine)
    (operands.each line (.head _))).bind fun motor between isReady free motorMade => ?_
  have isMotor : motor.layout.IsMoved := motorMade.layout_eq ▸ .motor
  have sameBatch := motorMade.isEven.batchShape_eq
  refine (ensures_reverse isReady (.inl isMotor) motorMade.isEven.isOperand
    fun isCertain => sameBatch ▸ room isCertain).bind
      fun reversed middle isReady more reversedMade => ?_
  have later := ((operands.later free).later more).each multiple (.tail _ (.head _))
  refine (ensures_exp_multiple turns isReady room (neg_ne_zero.2 one_ne_zero) isMultiple
    later).bind fun opposite behind isReady _ oppositeMade => .pure isReady ?_
  have reversedBatch : reversed.batchShape = line.batchShape := by
    rw [← sameBatch]
    exact reversedMade.batchShape_eq (commonShape_singleton _)
  refine ⟨reversedBatch, oppositeMade.isEven.batchShape_eq, ?_⟩
  have reversedLayout : reversed.layout = .motor := reversedMade.layout_eq.trans motorMade.layout_eq
  refine .of_valueAt (reversedLayout ▸ .motor) (reversedLayout.trans oppositeMade.layout_eq.symm)
    fun index isIndex => ?_
  rw [oppositeMade.isEven.valueAt_eq index isIndex, ← reverse_screwAt, ← motorMade.even_eq isIndex,
    valueAt_even (reversedLayout ▸ .motor),
    reversedMade.even_eq_reverse (reversedBatch ▸ .refl _) isIndex (motorMade.layout_eq ▸ .motor)]

/-- The exponentials of two multiples of a line are composed to that of the sum of the multiples. -/
theorem ensures_compose_exp
    (ready : context.IsReady limits)
    (room : certain → limits.HasRoomWithin line.batchShape)
    {factor other : ℝ}
    (nonzero : factor ≠ 0)
    (otherNonzero : other ≠ 0)
    (sumNonzero : factor + other ≠ 0)
    {first second both : Entity ℝ}
    (isFirst : line.IsMultiple factor first)
    (isSecond : line.IsMultiple other second)
    (isBoth : line.IsMultiple (factor + other) both)
    (operands : AreOperands context [first, second, both]) :
    (do
        let left ← exp first
        let right ← exp second
        let composed ← compose [left, right]
        let direct ← exp both
        return (composed, direct)).Ensures limits
      certain context fun (composed, direct) _ =>
        composed.batchShape = line.batchShape ∧ direct.batchShape = line.batchShape ∧
          composed.Coincides line.batchShape direct := by
  have roomForBatch (isCertain : certain) : limits.HasRoom line.batchShape :=
    room isCertain _ (.refl _)
  refine (ensures_exp_multiple turns ready roomForBatch nonzero isFirst
    (operands.each first (.head _))).bind fun left between isReady free leftMade => ?_
  have secondLater := (operands.later free).each second (.tail _ (.head _))
  refine (ensures_exp_multiple turns isReady roomForBatch otherNonzero isSecond secondLater).bind
    fun right middle isReady more rightMade => ?_
  have pair : AreOperands middle [left, right] :=
    ((AreOperands.singleton leftMade.isEven.isOperand).cons more rightMade.isNew
      rightMade.isEven.isOperand).subset (List.Perm.swap right left []).subset
  have areMotors : ∀ motor ∈ [left, right], motor.layout.IsMotor := by
    simp [leftMade.layout_eq, rightMade.layout_eq, Layout.IsMotor.motor]
  have batches : ∀ motor ∈ [left, right], Tensor.Stretches motor.batchShape line.batchShape := by
    simp [leftMade.isEven.batchShape_eq, rightMade.isEven.batchShape_eq, Tensor.Stretches.refl]
  refine (ensures_compose isReady (List.cons_ne_nil _ _) areMotors pair
    fun isCertain => ⟨room isCertain, batches⟩).bind
      fun composed fourth isReady toFourth composedMade => ?_
  have bothLater :=
    (((operands.later free).later more).later toFourth).each both (.tail _ (.tail _ (.head _)))
  refine (ensures_exp_multiple turns isReady roomForBatch sumNonzero isBoth bothLater).bind
    fun direct behind isReady _ directMade => .pure isReady ?_
  have composedBatch : composed.batchShape = line.batchShape := by
    refine Tensor.eq_of_stretches_iff fun target => ?_
    rw [Tensor.stretches_iff_of_commonShape composedMade.broadcast]
    simp [leftMade.isEven.batchShape_eq, rightMade.isEven.batchShape_eq]
  refine ⟨composedBatch, directMade.isEven.batchShape_eq, ?_⟩
  have composedLayout := composedMade.layout_eq
  refine .of_valueAt (composedLayout ▸ .motor) (composedLayout.trans directMade.layout_eq.symm)
    fun index isIndex => ?_
  rw [directMade.isEven.valueAt_eq index isIndex, valueAt_even (composedLayout ▸ .motor),
    composedMade.even_eq (composedBatch ▸ .refl _) isIndex]
  simp only [evenProduct_cons, evenProduct_nil, mul_one, leftMade.even_eq isIndex,
    rightMade.even_eq isIndex, screwAt_mul (turns index isIndex)]

end Multiples

/--
The exponential is a one-parameter group along each line with a direction: it
gives unit motors, the opposite line gives the reversion, and the sum of two
multiples of a line gives the product.
-/
theorem exp_parameterGroup
    {context : Context ℝ}
    (reached : context.IsReached)
    {line : Entity ℝ}
    (isLine : line.layout = .line)
    (isOperand : line.IsOperand context)
    (turns : ∀ index, Tensor.IsIndex line.batchShape index → 0 < line.directionLength index) :
    (exp line).Gives (context.limits.HasRoom line.batchShape) context (fun motor =>
        motor.layout = .motor ∧ motor.batchShape = line.batchShape ∧ motor.IsUnit) ∧
      (∀ opposite, line.IsMultiple (-1) opposite → AreOperands context [line, opposite] →
        (do
            let motor ← exp line
            let reversed ← reverse motor
            let direct ← exp opposite
            return (reversed, direct)).Gives
          (context.limits.HasRoom line.batchShape) context fun (reversed, direct) =>
            reversed.batchShape = line.batchShape ∧ direct.batchShape = line.batchShape ∧
              reversed.Coincides line.batchShape direct) ∧
      ∀ (factor other : ℝ) (first second both : Entity ℝ), factor ≠ 0 → other ≠ 0 →
        factor + other ≠ 0 → line.IsMultiple factor first → line.IsMultiple other second →
        line.IsMultiple (factor + other) both → AreOperands context [first, second, both] →
        (do
            let left ← exp first
            let right ← exp second
            let composed ← compose [left, right]
            let direct ← exp both
            return (composed, direct)).Gives
          (context.limits.HasRoomWithin line.batchShape) context fun (composed, direct) =>
            composed.batchShape = line.batchShape ∧ direct.batchShape = line.batchShape ∧
              composed.Coincides line.batchShape direct := by
  refine ⟨?_, fun opposite isOpposite operands => ?_,
    fun factor other first second both nonzero otherNonzero sumNonzero isFirst isSecond isBoth
      operands => ?_⟩
  · exact
      (ensures_isUnit_exp turns reached.isReady id isLine isOperand).gives fun _ _ held => held
  · exact
      (ensures_reverse_exp turns reached.isReady id isLine isOpposite operands).gives
        fun _ _ held => held
  · exact
      (ensures_compose_exp turns reached.isReady id nonzero otherNonzero sumNonzero isFirst isSecond
        isBoth operands).gives fun _ _ held => held

/-! ## Turning and sliding -/

/-- A multiple of a line along the first axis, with a moment along it and one across. -/
def slidingLine
    (identity : Nat)
    (factor : ℝ) :
    Entity ℝ :=
  .ofRow identity .line 0 [factor, 0, 0, factor, 0, factor]

theorem isMultiple_slidingLine
    (identity other : Nat)
    (factor : ℝ) :
    (slidingLine identity 1).IsMultiple factor (slidingLine other factor) where
  layout_eq := rfl
  batchShape_eq := rfl
  entryAt_eq index _ slot below := by
    rw [slidingLine, slidingLine, entryAt_ofRow _ _ _ _ (Nat.zero_le _),
      entryAt_ofRow _ _ _ _ (Nat.zero_le _)]
    change slot < 6 at below
    interval_cases slot <;> simp

theorem isOperand_slidingLine
    {identity : Nat}
    {context : Context ℝ}
    (taken : identity < context.workspace.free)
    (factor : ℝ) :
    (slidingLine identity factor).IsOperand context :=
  isOperand_ofRow Layout.IsMoved.line.isProjective rfl taken

/-- A screw is reversed by the opposite line, and twice a screw less it is the screw. -/
theorem exp_parameterGroup_sliding :
    (exp (slidingLine 0 1)).Gives True (.start 3) (fun motor =>
        motor.layout = .motor ∧ motor.batchShape = [] ∧ motor.IsUnit) ∧
      (do
          let motor ← exp (slidingLine 0 1)
          let reversed ← reverse motor
          let direct ← exp (slidingLine 1 (-1))
          return (reversed, direct)).Gives
        True (.start 3) (fun (reversed, direct) =>
          reversed.batchShape = [] ∧ direct.batchShape = [] ∧ reversed.Coincides [] direct) ∧
      (do
          let left ← exp (slidingLine 2 2)
          let right ← exp (slidingLine 1 (-1))
          let composed ← compose [left, right]
          let direct ← exp (slidingLine 0 1)
          return (composed, direct)).Gives
        True (.start 3) fun (composed, direct) =>
          composed.batchShape = [] ∧ direct.batchShape = [] ∧ composed.Coincides [] direct := by
  have room : Limits.usual.HasRoomWithin [] := Limits.hasRoomWithin_usual (by decide)
  have roomForBatch : Limits.usual.HasRoom [] := Limits.hasRoom_usual (by decide)
  have areOperands :
      ∀ line ∈ [slidingLine 2 2, slidingLine 1 (-1), slidingLine 0 1], line.IsOperand (.start 3) :=
    List.forall_mem_cons.2
      ⟨isOperand_slidingLine (by decide) 2,
        List.forall_mem_cons.2
          ⟨isOperand_slidingLine (by decide) (-1),
            List.forall_mem_singleton.2 (isOperand_slidingLine (by decide) 1)⟩⟩
  have operands :
      AreOperands (.start 3) [slidingLine 2 2, slidingLine 1 (-1), slidingLine 0 1] :=
    .of_nodup (by decide) areOperands
  have direction (index : List Nat) : (slidingLine 0 1).directionLength index = 1 := by
    simp [Entity.directionLength, slidingLine, entryAt_ofRow]
  have both : (slidingLine 0 1).IsMultiple (2 + -1) (slidingLine 0 1) := by
    rw [show (2 + -1 : ℝ) = 1 by norm_num]
    exact isMultiple_slidingLine 0 0 1
  have group :=
    exp_parameterGroup (Context.isReached_start 3) (rfl : (slidingLine 0 1).layout = .line)
      (isOperand_slidingLine (by decide) 1) fun index _ => (direction index).symm ▸ one_pos
  have reversed :=
    group.2.1 (slidingLine 1 (-1)) (isMultiple_slidingLine 0 1 (-1)) (operands.subset (by simp))
  have composed :=
    group.2.2 2 (-1) (slidingLine 2 2) (slidingLine 1 (-1)) (slidingLine 0 1) (by norm_num)
      (by norm_num) (by norm_num) (isMultiple_slidingLine 0 2 2) (isMultiple_slidingLine 0 1 (-1))
      both operands
  exact
    ⟨⟨fun _ => group.1.succeeds roomForBatch, group.1.holds⟩,
      ⟨fun _ => reversed.succeeds roomForBatch, reversed.holds⟩,
      ⟨fun _ => composed.succeeds room, composed.holds⟩⟩

end Compute

end Versor

end
