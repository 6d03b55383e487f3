import Versor.Projective.Exponential
import Versor.Proofs.Projective.Amounts
import Versor.Proofs.Projective.Logarithm

/-!
# Exponential and logarithm of entities

The exponential of a line and the logarithm of a motor are computed as the
closed formulas in coordinates say (`Compute.ensures_exp`,
`Compute.ensures_log`); so they are inverse to each other, whatever bound
selects the branch of the logarithm (`Compute.exp_log_inverse`).
-/

noncomputable section

namespace Versor

open Compute Reference

variable {limits : Limits}

/-! ## Entities as even elements -/

namespace Layout

theorem isProjective_dualNumber :
    dualNumber.IsProjective :=
  ⟨rfl, by decide, by decide, by decide⟩

theorem valueAt_dualNumber
    (slots : Nat → ℝ) :
    dualNumber.valueAt slots = (Even.dual (slots 0) (slots 1)).element := by
  rw [Even.element_eq]
  simp [valueAt, slotTerms, mappedTerms, elements, dualNumberElements, Even.dual]

end Layout

/-- A bivector is a line. -/
theorem Even.IsBivector.valueAt_read
    {even : Even ℝ}
    (isBivector : even.IsBivector) :
    Layout.line.valueAt (Layout.line.read even.element) = even.element := by
  rw [valueAt_line, Layout.read_line]
  refine congrArg Even.element ?_
  ext <;> simp [Even.line, isBivector.scalar, isBivector.e0123]

namespace Entity

/-- An operand over a batch that stands for given even elements. -/
structure IsEven
    (context : Context ℝ)
    (batch : List Nat)
    (even : List Nat → Even ℝ)
    (entity : Entity ℝ) :
    Prop where
  isOperand : entity.IsOperand context
  batchShape_eq : entity.batchShape = batch
  valueAt_eq : ∀ index, Tensor.IsIndex batch index → entity.valueAt index = (even index).element

variable
  {context behind : Context ℝ}
  {batch : List Nat}
  {even : List Nat → Even ℝ}
  {entity : Entity ℝ}

theorem IsEven.later
    (isEven : entity.IsEven context batch even)
    (free : context.workspace.free ≤ behind.workspace.free) :
    entity.IsEven behind batch even where
  isOperand := isEven.isOperand.later free
  batchShape_eq := isEven.batchShape_eq
  valueAt_eq := isEven.valueAt_eq

theorem IsEven.represents
    (isEven : entity.IsEven context batch even) :
    entity.Represents .projective batch fun index => (even index).element := by
  have represents := isEven.isOperand.represents
  rw [isEven.batchShape_eq] at represents
  exact represents.congr isEven.valueAt_eq

/-- A new even element of a layout. -/
structure IsNewEven
    (context : Context ℝ)
    (layout : Layout)
    (batch : List Nat)
    (even : List Nat → Even ℝ)
    (entity : Entity ℝ)
    (behind : Context ℝ) :
    Prop where
  isNew : entity.IsNew context behind
  layout_eq : entity.layout = layout
  isEven : entity.IsEven behind batch even

/-- What is new later is new. -/
theorem IsNewEven.of_le
    {between : Context ℝ}
    {layout : Layout}
    (made : entity.IsNewEven between layout batch even behind)
    (free : context.workspace.free ≤ between.workspace.free) :
    entity.IsNewEven context layout batch even behind where
  isNew := made.isNew.of_le free
  layout_eq := made.layout_eq
  isEven := made.isEven

end Entity

namespace Compute

open Entity

theorem Rebuilt.isNewEven
    {context between behind : Context ℝ}
    {batch : List Nat}
    {layout : Layout}
    {slots : List Nat → Nat → ℝ}
    {result : Entity ℝ}
    (rebuilt : Rebuilt between batch layout slots result behind)
    (free : context.workspace.free ≤ between.workspace.free)
    {even : List Nat → Even ℝ}
    (stands :
      ∀ index, Tensor.IsIndex batch index → layout.valueAt (slots index) = (even index).element) :
    result.IsNewEven context layout batch even behind where
  isNew := (rebuilt.of_le free).isNew
  layout_eq := rebuilt.layout_eq
  isEven :=
    { isOperand := rebuilt.represents.isOperand rebuilt.isNew
      batchShape_eq := rebuilt.represents.batchShape_eq
      valueAt_eq := fun index isIndex =>
        (rebuilt.represents.valueAt_eq index isIndex).trans (stands index isIndex) }

variable
  {certain : Prop}
  {context : Context ℝ}
  {batch : List Nat}
  (ready : context.IsReady limits)
  (room : certain → limits.HasRoom batch)

include ready room

/-- A call with even elements over one batch. -/
theorem ensures_callEven
    {entities : List (Entity ℝ)}
    (nonempty : entities ≠ [])
    (operands : AreOperands context entities)
    (batches : ∀ entity ∈ entities, entity.batchShape = batch)
    (function : LibraryFunction)
    (isOver : function.body.IsOver entities.length)
    {even : List Nat → Even ℝ}
    (meaning :
      ∀ index, Tensor.IsIndex batch index →
        function.body.meaning Algebra.projective.metric
            (entities.map fun entity => entity.valueAt index) =
          (even index).element) :
    (applyLibrary function entities).Ensures limits certain context fun result behind =>
      result.IsNew context behind ∧ result.IsEven behind batch even := by
  have common : Tensor.commonShape (entities.map Entity.batchShape) = .ok batch := by
    refine Tensor.commonShape_eq (fun shape member => ?_) ?_
    · rcases List.mem_map.1 member with ⟨entity, inEntities, rfl⟩
      exact batches entity inEntities ▸ .refl _
    · rcases List.exists_mem_of_ne_nil _ nonempty with ⟨entity, member⟩
      exact List.mem_map.2 ⟨entity, member, batches entity member⟩
  refine (ensures_call ready operands (fun isCertain => ⟨batch, common, room isCertain⟩) function
    isOver).mono fun result behind _ called => ⟨called.isNew, ?_⟩
  have sameBatch : result.batchShape = batch :=
    Except.ok.inj (called.broadcast.symm.trans common)
  refine ⟨called.represents.isOperand called.isNew, sameBatch, fun index isIndex => ?_⟩
  rw [called.valueAt_eq (sameBatch ▸ .refl _) isIndex, meaning index isIndex]

/-- One coefficient of what an entity stands for. -/
theorem ensures_component
    {entity : Entity ℝ}
    {even : List Nat → Even ℝ}
    (isEven : entity.IsEven context batch even)
    (floating : entity.storage.type.isFloating = true)
    {blade : Blade}
    (below : blade < 16) :
    (component entity (.integer (blade : Int))).Ensures limits certain context fun column _ =>
      column.type.isFloating = true ∧
        column.Fills batch fun index => (even index).coefficient blade := by
  refine (ensures_coefficient ready isEven.represents room below).mono fun column _ _ held => ?_
  exact ⟨held.1 floating, held.2.congr fun index _ => (even index).element_apply below⟩

/-- The parts of the square of a line. -/
theorem ensures_squareParts
    {line : Entity ℝ}
    {even : List Nat → Even ℝ}
    (isEven : line.IsEven context batch even) :
    (squareParts line).Ensures limits certain context fun (scalarPart, idealPart) _ =>
      scalarPart.type.isFloating = true ∧
        scalarPart.Fills batch (fun index => (even index * even index).scalar) ∧
        idealPart.type.isFloating = true ∧
        idealPart.Fills batch fun index => (even index * even index).e0123 := by
  have square (index : List Nat) (isIndex : Tensor.IsIndex batch index) :
      LibraryFunction.square.body.meaning Algebra.projective.metric
          ([line].map fun entity => entity.valueAt index) =
        (even index * even index).element := by
    rw [← Even.product_element, ← isEven.valueAt_eq index isIndex]
    rfl
  refine (ensures_callEven ready room (List.cons_ne_nil _ _) (.singleton isEven.isOperand)
    (List.forall_mem_singleton.2 isEven.batchShape_eq) .square (LibraryFunction.isOver .square)
    square).bind fun squared between isReady _ ⟨isNew, isSquare⟩ => ?_
  refine (ensures_component isReady room isSquare isNew.floating (by decide : 0 < 16)).bind
    fun scalarPart middle isReady free scalarHeld => ?_
  refine (ensures_component isReady room (isSquare.later free) isNew.floating
    (by decide : Blade.e0123 < 16)).bind fun idealPart behind isReady _ idealHeld => ?_
  exact .pure isReady ⟨scalarHeld.1, scalarHeld.2, idealHeld.1, idealHeld.2⟩

omit ready room in
theorem exists_negatedQuotient
    {numerator denominator : Tensor ℝ}
    {numerators denominators : List Nat → ℝ}
    (floating : numerator.type.isFloating = true)
    (numeratorHolds : numerator.Holds batch numerators)
    (denominatorHolds : denominator.Holds batch denominators) :
    ∃ result, negatedQuotient numerator denominator = .ok result ∧
      result.type.isFloating = true ∧
      result.Holds batch fun index => -numerators index / denominators index := by
  rcases numeratorHolds.exists_neg floating with ⟨minus, negated, minusHolds⟩
  rcases minusHolds.exists_div denominatorHolds.spreads with ⟨result, divided, isFloating, holds⟩
  refine ⟨result, ?_, isFloating, holds⟩
  rw [negatedQuotient, negated]
  exact divided

omit ready room in
/-- The length of a line from the parts of its square. -/
theorem exists_lengthParts
    {scalarPart idealPart : Tensor ℝ}
    {even : List Nat → Even ℝ}
    (scalarFloating : scalarPart.type.isFloating = true)
    (scalarFills : scalarPart.Fills batch fun index => (even index * even index).scalar)
    (idealFloating : idealPart.type.isFloating = true)
    (idealFills : idealPart.Fills batch fun index => (even index * even index).e0123) :
    ∃ real ideal, lengthParts scalarPart idealPart = .ok (real, ideal) ∧
      real.Fills batch (fun index => (even index).lengthOf) ∧
      ideal.type.isFloating = true ∧
      ideal.Holds batch fun index => (even index).idealLengthOf := by
  rcases scalarFills.exists_neg scalarFloating with ⟨minusScalar, negated, _, minusFills⟩
  rcases
      exists_negatedQuotient idealFloating idealFills.toHolds
        (minusFills.sqrt.toHolds.scale (RealArithmetic.ofInt 2)) with
    ⟨ideal, divided, isFloating, idealHolds⟩
  have two : (RealArithmetic.ofInt 2 : ℝ) = 2 := by
    change ((2 : ℤ) : ℝ) = 2
    norm_num
  refine
    ⟨minusScalar.sqrt, ideal, ?_, minusFills.sqrt, isFloating, idealHolds.congr fun index _ => ?_⟩
  · simp [lengthParts, negated, twice, divided, bind, Except.bind]
  · rw [two]
    rfl

/-- A dual number of two tensors. -/
theorem ensures_dualNumber
    {real ideal : Tensor ℝ}
    {reals ideals : List Nat → ℝ}
    (realHolds : real.Holds batch reals)
    (idealHolds : ideal.Holds batch ideals) :
    (dualNumber real ideal).Ensures limits certain context
      (IsNewEven context .dualNumber batch fun index =>
        Even.dual (reals index) (ideals index)) := by
  have common : Tensor.commonShape [batch, batch] = .ok batch :=
    Tensor.commonShape_eq (by simp [Tensor.Stretches.refl]) (.head _)
  have made :=
    ensures_ofValues ready Layout.isProjective_dualNumber
      (List.cons_ne_nil (Amount.ofTensor realHolds) [Amount.ofTensor idealHolds]) rfl common room
  refine made.mono fun result behind _ rebuilt =>
    rebuilt.isNewEven le_rfl fun index isIndex => ?_
  rw [Layout.valueAt_dualNumber, ← Amount.entryAt_ofTensor realHolds isIndex,
    ← Amount.entryAt_ofTensor idealHolds isIndex]
  rfl

/-- The inverse of a length. -/
theorem ensures_inverseLength
    {real ideal : Tensor ℝ}
    {reals ideals : List Nat → ℝ}
    (realFills : real.Fills batch reals)
    (idealFloating : ideal.type.isFloating = true)
    (idealHolds : ideal.Holds batch ideals) :
    (inverseLength real ideal).Ensures limits certain context
      (IsNewEven context .dualNumber batch fun index =>
        Even.dualInverse (reals index) (ideals index)) := by
  rcases realFills.toHolds.exists_mul realFills.toHolds with ⟨square, squared, squareHolds⟩
  rcases exists_negatedQuotient idealFloating idealHolds squareHolds with
    ⟨quotient, divided, _, quotientHolds⟩
  rw [inverseLength]
  refine Ensures.ofOk_bind squared (Ensures.ofOk_bind divided ?_)
  exact ensures_dualNumber ready room realFills.reciprocal.toHolds quotientHolds

/-! ## The exponential -/

/-- The exponential of a line is the motor that the line generates. -/
theorem ensures_exp
    {line : Entity ℝ}
    (isLine : line.layout = .line)
    {even : List Nat → Even ℝ}
    (isEven : line.IsEven context batch even) :
    (exp line).Ensures limits certain context
      (IsNewEven context .motor batch fun index => (even index).exponential) := by
  have kind : line.layout.kind = .line := by rw [isLine]; rfl
  rw [exp, if_pos kind, pure_bind]
  refine (ensures_squareParts ready room isEven).bind ?_
  rintro ⟨scalarPart, idealPart⟩ first isReady free
    ⟨scalarFloating, scalarFills, idealFloating, idealFills⟩
  rcases exists_lengthParts scalarFloating scalarFills idealFloating idealFills with
    ⟨real, ideal, measured, realFills, isFloating, idealHolds⟩
  rcases idealHolds.exists_neg isFloating with ⟨minus, negated, minusHolds⟩
  rcases minusHolds.exists_mul realFills.sin.toHolds with ⟨sines, sinesFound, sinesHolds⟩
  rcases idealHolds.exists_mul realFills.cos.toHolds with ⟨cosines, cosinesFound, cosinesHolds⟩
  refine Ensures.ofOk_bind measured (Ensures.ofOk_bind negated (Ensures.ofOk_bind sinesFound ?_))
  refine (ensures_dualNumber isReady room realFills.cos.toHolds sinesHolds).bind
    fun start second isReady toSecond startMade => ?_
  refine Ensures.ofOk_bind cosinesFound ?_
  refine (ensures_dualNumber isReady room realFills.sin.toHolds cosinesHolds).bind
    fun turn third isReady toThird turnMade => ?_
  refine (ensures_inverseLength isReady room realFills isFloating idealHolds).bind
    fun inverse fourth isReady toFourth inverseMade => ?_
  have lineEven := (isEven.later free).later toSecond |>.later toThird |>.later toFourth
  have startEven := (startMade.isEven.later toThird).later toFourth
  have turnEven := turnMade.isEven.later toFourth
  have inverseEven := inverseMade.isEven
  have operands : AreOperands fourth [inverse, turn, start, line] :=
    (((AreOperands.singleton (isEven.later free).isOperand).cons toSecond startMade.isNew
      startMade.isEven.isOperand).cons toThird turnMade.isNew turnMade.isEven.isOperand).cons
        toFourth inverseMade.isNew inverseEven.isOperand
  have ordered : AreOperands fourth [start, turn, inverse, line] := operands.subset (by simp)
  have batches : ∀ entity ∈ [start, turn, inverse, line], entity.batchShape = batch := by
    simp [startEven.batchShape_eq, turnEven.batchShape_eq, inverseEven.batchShape_eq,
      lineEven.batchShape_eq]
  have meaning (index : List Nat) (isIndex : Tensor.IsIndex batch index) :
      LibraryFunction.exponential.body.meaning Algebra.projective.metric
          ([start, turn, inverse, line].map fun entity => entity.valueAt index) =
        (even index).exponential.element := by
    rw [Even.exponential, Even.withLength, Even.element_add, ← Even.product_element,
      ← Even.product_element, ← startEven.valueAt_eq index isIndex,
      ← turnEven.valueAt_eq index isIndex, ← inverseEven.valueAt_eq index isIndex,
      ← lineEven.valueAt_eq index isIndex]
    rfl
  refine (ensures_callEven isReady room (List.cons_ne_nil _ _) ordered batches .exponential
    (LibraryFunction.isOver .exponential) meaning).bind ?_
  rintro motor fifth isReady toFifth ⟨isNew, motorEven⟩
  refine (ensures_motorOf isReady motorEven.represents room).mono fun result behind _ rebuilt => ?_
  have fromStart :=
    (((free.trans toSecond).trans toThird).trans toFourth).trans toFifth
  exact rebuilt.isNewEven fromStart fun index _ => by rw [valueAt_motor, Layout.motor_read]

/-! ## The logarithm -/

omit ready room in
/-- The slots of a motor are the coefficients of the even element that it stands for. -/
theorem motor_slots
    {motor : Entity ℝ}
    (isMotor : motor.layout = .motor)
    {even : List Nat → Even ℝ}
    (isEven : motor.IsEven context batch even)
    {index : List Nat}
    (isIndex : Tensor.IsIndex batch index) :
    Even.motor (fun slot => motor.storage.get (index ++ [slot])) = even index := by
  have stands := isEven.represents.valueAt_rows isIndex
  rw [isMotor, valueAt_motor] at stands
  exact Even.element_injective stands

/-- The logarithm of a motor is the line that generates it. -/
theorem ensures_log
    {motor : Entity ℝ}
    (isMotor : motor.layout = .motor)
    (floating : motor.storage.type.isFloating = true)
    {even : List Nat → Even ℝ}
    (isEven : motor.IsEven context batch even)
    (bound : ℝ) :
    (log (.ok bound) motor).Ensures limits certain context
      (IsNewEven context .line batch fun index => (even index).logarithm bound) := by
  have kind : motor.layout.kind = .motor := by rw [isMotor]; rfl
  have width : motor.layout.width = 8 := by rw [isMotor]; rfl
  have rows := isEven.isOperand.full.holdsRows
  rw [isEven.batchShape_eq, width] at rows
  have scalarFills :
      (motor.storage.column 0).Fills batch fun index => (even index).scalar :=
    (rows.fills_column (by decide)).congr fun index isIndex =>
      congrArg Even.scalar (motor_slots isMotor isEven isIndex)
  have pseudoscalarFills :
      (motor.storage.column 7).Fills batch fun index => (even index).e0123 :=
    (rows.fills_column (by decide)).congr fun index isIndex =>
      congrArg Even.e0123 (motor_slots isMotor isEven isIndex)
  have scalarSlot : motor.slot 0 = .ok (motor.storage.column 0) :=
    isEven.isOperand.full.slot_eq (width ▸ by decide)
  have pseudoscalarSlot : motor.slot 7 = .ok (motor.storage.column 7) :=
    isEven.isOperand.full.slot_eq (width ▸ by decide)
  rw [log, if_pos kind, pure_bind]
  refine Ensures.ofOk_bind scalarSlot (Ensures.ofOk_bind pseudoscalarSlot ?_)
  refine (ensures_lineOf ready isEven.represents room floating).bind
    fun line first isReady toFirst lineRebuilt => ?_
  have lineMade :
      line.IsNewEven context .line batch (fun index => (even index).bivector) first :=
    lineRebuilt.isNewEven le_rfl fun index _ => by
      rw [valueAt_line, Layout.read_line]
      refine congrArg Even.element ?_
      simp [Even.line, Even.bivector]
  refine (ensures_squareParts isReady room lineMade.isEven).bind ?_
  rintro ⟨squareScalar, squareIdeal⟩ second isReady toSecond
    ⟨squareFloating, squareFills, idealFloating, idealFills⟩
  rcases exists_lengthParts squareFloating squareFills idealFloating idealFills with
    ⟨length, idealLength, measured, lengthFills, lengthFloating, idealLengthHolds⟩
  have columnFloating (place : Nat) : (motor.storage.column place).type.isFloating = true :=
    floating
  rcases scalarFills.exists_abs (columnFloating 0) with ⟨magnitude, found, magnitudeFills⟩
  rcases lengthFills.toHolds.exists_arctan2 scalarFills.toHolds with
    ⟨angle, angleFound, angleHolds⟩
  rcases
      exists_negatedQuotient (columnFloating 7) pseudoscalarFills.toHolds
        lengthFills.toHolds with
    ⟨fromPseudoscalar, pseudoscalarDivided, _, fromPseudoscalarHolds⟩
  rcases idealLengthHolds.exists_div scalarFills.toHolds.spreads with
    ⟨fromScalar, scalarDivided, _, fromScalarHolds⟩
  have shape : (magnitude.lessThan bound).shape = batch := magnitudeFills.shape_eq
  have stretches : Tensor.Stretches (magnitude.lessThan bound).shape batch :=
    shape ▸ Tensor.Stretches.refl batch
  have nearZero (index : List Nat) (isIndex : Tensor.IsIndex batch index) :
      ((magnitude.lessThan bound).data[Tensor.offset (magnitude.lessThan bound).shape
          (Tensor.stretchIndex (magnitude.lessThan bound).shape index)]?).getD false =
        decide (|(even index).scalar| < bound) := by
    rw [shape, Tensor.stretchIndex_self isIndex]
    exact magnitudeFills.getD_lessThan bound isIndex
  rcases
      Tensor.Holds.exists_choose stretches nearZero fromPseudoscalarHolds fromScalarHolds with
    ⟨idealAngle, chosen, idealAngleHolds⟩
  refine Ensures.ofOk_bind measured (Ensures.ofOk_bind found ?_)
  refine Ensures.ofOk_bind rfl (Ensures.ofOk_bind angleFound ?_)
  refine Ensures.ofOk_bind pseudoscalarDivided (Ensures.ofOk_bind scalarDivided ?_)
  refine Ensures.ofOk_bind chosen ?_
  refine (ensures_dualNumber isReady room angleHolds idealAngleHolds).bind
    fun scale third isReady toThird scaleMade => ?_
  refine (ensures_inverseLength isReady room lengthFills lengthFloating idealLengthHolds).bind
    fun inverse fourth isReady toFourth inverseMade => ?_
  have lineEven := ((lineMade.isEven.later toSecond).later toThird).later toFourth
  have scaleEven := scaleMade.isEven.later toFourth
  have inverseEven := inverseMade.isEven
  have operands : AreOperands fourth [inverse, scale, line] :=
    ((AreOperands.singleton (lineMade.isEven.later toSecond).isOperand).cons toThird
      scaleMade.isNew scaleMade.isEven.isOperand).cons toFourth inverseMade.isNew
        inverseEven.isOperand
  have ordered : AreOperands fourth [scale, inverse, line] := operands.subset (by simp)
  have batches : ∀ entity ∈ [scale, inverse, line], entity.batchShape = batch := by
    simp [scaleEven.batchShape_eq, inverseEven.batchShape_eq, lineEven.batchShape_eq]
  have meaning (index : List Nat) (isIndex : Tensor.IsIndex batch index) :
      LibraryFunction.generator.body.meaning Algebra.projective.metric
          ([scale, inverse, line].map fun entity => entity.valueAt index) =
        ((even index).logarithm bound).element := by
    rw [Even.logarithm, Even.withLength, ← Even.product_element, ← Even.product_element,
      ← lineEven.valueAt_eq index isIndex, ← inverseEven.valueAt_eq index isIndex]
    change
      product _ _ (product _ _ (scale.valueAt index) (inverse.valueAt index))
        (line.valueAt index) = _
    rw [scaleEven.valueAt_eq index isIndex]
    rfl
  refine (ensures_callEven isReady room (List.cons_ne_nil _ _) ordered batches .generator
    (LibraryFunction.isOver .generator) meaning).bind ?_
  rintro generator fifth isReady toFifth ⟨isNew, generatorEven⟩
  refine (ensures_lineOf isReady generatorEven.represents room isNew.floating).mono
    fun result behind _ rebuilt => ?_
  have fromStart := (((toFirst.trans toSecond).trans toThird).trans toFourth).trans toFifth
  refine rebuilt.isNewEven fromStart fun index _ => ?_
  exact ((even index).isBivector_bivector.withLength _ _).valueAt_read

end Compute

/-! ## Inverse to each other -/

namespace Entity

/-- The length of the direction of a line. -/
def directionLength
    (line : Entity ℝ)
    (index : List Nat) :
    ℝ :=
  √(line.entryAt index 0 ^ 2 + line.entryAt index 1 ^ 2 + line.entryAt index 2 ^ 2)

/-- The even element that a line is at an index. -/
def lineAt
    (line : Entity ℝ)
    (index : List Nat) :
    Even ℝ :=
  .line (line.entryAt index)

theorem isBivector_lineAt
    (line : Entity ℝ)
    (index : List Nat) :
    (line.lineAt index).IsBivector :=
  ⟨rfl, rfl⟩

theorem lengthOf_lineAt
    (line : Entity ℝ)
    (index : List Nat) :
    (line.lineAt index).lengthOf = line.directionLength index := by
  rw [Even.lengthOf, Even.neg_scalar_square (line.isBivector_lineAt index), directionLength]
  congr 1
  simp only [lineAt, Even.line]
  ring

variable
  {context : Context ℝ}
  {entity : Entity ℝ}
  (isOperand : entity.IsOperand context)

include isOperand

theorem isEven_of_line
    (isLine : entity.layout = .line) :
    entity.IsEven context entity.batchShape entity.lineAt where
  isOperand := isOperand
  batchShape_eq := rfl
  valueAt_eq index _ := by rw [valueAt_eq, isLine, valueAt_line, lineAt]

theorem isEven_of_isMotor
    (isMotor : entity.layout.IsMotor) :
    entity.IsEven context entity.batchShape entity.even where
  isOperand := isOperand
  batchShape_eq := rfl
  valueAt_eq index _ := valueAt_even isMotor index

omit isOperand in
/-- What stands for the even elements of an entity of its moved type coincides with it. -/
theorem IsNewEven.coincides
    {behind : Context ℝ}
    {batch : List Nat}
    {even : List Nat → Even ℝ}
    {result : Entity ℝ}
    (made : result.IsNewEven context entity.layout batch even behind)
    (isMoved : entity.layout.IsMoved)
    (same :
      ∀ index, Tensor.IsIndex batch index → (even index).element = entity.valueAt index) :
    result.Coincides batch entity :=
  .of_valueAt (made.layout_eq.symm ▸ isMoved) made.layout_eq fun index isIndex =>
    (made.isEven.valueAt_eq index isIndex).trans (same index isIndex)

end Entity

namespace Compute

open Entity

/--
Exponential and logarithm are inverse to each other on lines below half a turn
and on unit motors that turn; what the logarithm gives does not depend on the
bound that selects its branch.
-/
theorem exp_log_inverse
    {context : Context ℝ}
    (reached : context.IsReached) :
    (∀ (line : Entity ℝ) (bound : ℝ), line.layout = .line → line.IsOperand context →
      (∀ index, Tensor.IsIndex line.batchShape index →
        0 < line.directionLength index ∧ line.directionLength index < Real.pi) →
      0 < bound →
      (do
          let motor ← exp line
          log (.ok bound) motor).Gives
        (context.limits.HasRoom line.batchShape) context fun back =>
          back.batchShape = line.batchShape ∧ back.Coincides line.batchShape line) ∧
      ∀ motor : Entity ℝ, motor.layout = .motor → motor.IsOperand context →
        motor.storage.type.isFloating = true → motor.IsUnit →
        (∀ index, Tensor.IsIndex motor.batchShape index →
          (motor.even index).e12 ≠ 0 ∨ (motor.even index).e13 ≠ 0 ∨
            (motor.even index).e23 ≠ 0) →
        ∃ slots : List Nat → Nat → ℝ, ∀ bound : ℝ, 0 < bound →
          (log (.ok bound) motor).Gives (context.limits.HasRoom motor.batchShape) context
            (fun line =>
              line.layout = .line ∧ line.batchShape = motor.batchShape ∧
                ∀ index, Tensor.IsIndex motor.batchShape index → ∀ slot < Layout.line.width,
                  line.entryAt index slot = slots index slot) ∧
            (do
                let line ← log (.ok bound) motor
                exp line).Gives
              (context.limits.HasRoom motor.batchShape) context fun back =>
                back.batchShape = motor.batchShape ∧ back.Coincides motor.batchShape motor := by
  refine ⟨fun line bound isLine isOperand lengths positive => ?_,
    fun motor isMotor isOperand floating isUnit turns => ?_⟩
  · have isEven := isEven_of_line isOperand isLine
    have computed :=
      (ensures_exp reached.isReady id isLine isEven).bind
        fun motor between isReady free motorMade =>
          (ensures_log isReady id motorMade.layout_eq motorMade.isNew.floating motorMade.isEven
            bound).mono fun _ _ _ made => made.of_le free
    refine computed.gives fun back behind made => ⟨made.isEven.batchShape_eq, ?_⟩
    refine IsNewEven.coincides (isLine ▸ made) (isLine ▸ .line) fun index isIndex => ?_
    have length := lengths index isIndex
    rw [← lengthOf_lineAt] at length
    rw [Even.logarithm_exponential positive (isBivector_lineAt line index) length.1 length.2,
      isEven.valueAt_eq index isIndex]
  · have isMotorLayout : motor.layout.IsMotor := isMotor ▸ .motor
    have isEven := isEven_of_isMotor isOperand isMotorLayout
    have unitAt (index : List Nat) (isIndex : Tensor.IsIndex motor.batchShape index) :=
      isUnit.norm_twist isMotorLayout (.refl _) isIndex
    have turnsAt (index : List Nat) (isIndex : Tensor.IsIndex motor.batchShape index) :
        0 < (motor.even index).bivector.lengthOf :=
      Even.lengthOf_pos (Even.isBivector_bivector _) (turns index isIndex)
    let generator (index : List Nat) : Even ℝ :=
      (motor.even index).bivector.withLength (motor.even index).angleOf
        (-(motor.even index).e0123 / (motor.even index).bivector.lengthOf)
    refine ⟨fun index => Layout.line.read (generator index).element, fun bound positive => ?_⟩
    have logged := ensures_log reached.isReady id isMotor floating isEven bound
    refine ⟨logged.gives fun line behind made =>
      ⟨made.layout_eq, made.isEven.batchShape_eq, fun index isIndex slot below => ?_⟩, ?_⟩
    · have stands := made.isEven.valueAt_eq index isIndex
      rw [Even.logarithm_of_isUnit (unitAt index isIndex) (turnsAt index isIndex) positive,
        valueAt_eq, made.layout_eq] at stands
      refine Layout.slots_eq_of_isMoved .line (stands.trans ?_) below
      exact ((Even.isBivector_bivector _).withLength _ _).valueAt_read.symm
    · have computed :=
        logged.bind fun line between isReady free lineMade =>
          (ensures_exp isReady id lineMade.layout_eq lineMade.isEven).mono
            fun _ _ _ made => made.of_le free
      refine computed.gives fun back behind made => ⟨made.isEven.batchShape_eq, ?_⟩
      refine IsNewEven.coincides (isMotor ▸ made) (isMotor ▸ .motor) fun index isIndex => ?_
      rw [Even.exponential_logarithm (unitAt index isIndex) (turnsAt index isIndex) positive,
        isEven.valueAt_eq index isIndex]

/-- A line comes back from its exponential, and a screw from its logarithm. -/
theorem exp_log_inverse_screw :
    (do
        let motor ← exp someLine
        log (.ok 1) motor).Gives
      True (.start 2) (fun back => back.batchShape = [] ∧ back.Coincides [] someLine) ∧
      (do
          let line ← log (.ok 1) screw
          exp line).Gives
        True (.start 2) fun back => back.batchShape = [] ∧ back.Coincides [] screw := by
  have inverse := exp_log_inverse (Context.isReached_start 2)
  have room : Limits.usual.HasRoom [] := Limits.hasRoom_usual (by decide)
  have length (index : List Nat) : someLine.directionLength index = 1 := by
    simp [Entity.directionLength, someLine, entryAt_ofRow]
  have fromLine :=
    inverse.1 someLine 1 rfl (areOperands_screw.each _ (.tail _ (.head _)))
      (fun index _ => by
        rw [length]
        exact ⟨one_pos, by linarith [Real.pi_gt_three]⟩)
      one_pos
  rcases
      inverse.2 screw rfl (areOperands_screw.each _ (.head _)) rfl isUnit_screw
        fun index _ => .inl (by simp [even_screw]) with
    ⟨_, fromMotor⟩
  have back := (fromMotor 1 one_pos).2
  exact
    ⟨⟨fun _ => fromLine.succeeds room, fromLine.holds⟩,
      ⟨fun _ => back.succeeds room, back.holds⟩⟩

end Compute

end Versor

end
