import Versor.Proofs.Projective.Transform

/-!
# Motors act as a group

Moving an entity by one motor after the other gives the same entity as moving
it by their product, and moving it by a unit motor and then by its reversion
gives the entity back (`Compute.motors_act`).  The weights that points are
divided by on the way are the norms of the motors, and these multiply as the
motors do; so motors that are not normalized act in this way, too.
-/

noncomputable section

namespace Versor

open Compute Reference

variable {limits : Limits}

/-! ## Weights -/

namespace Even

/-- Whether a motor has a Euclidean part, which turns, besides the part which shifts. -/
def HasEuclideanPart
    (motor : Even ℝ) :
    Prop :=
  motor.scalar ≠ 0 ∨ motor.e12 ≠ 0 ∨ motor.e13 ≠ 0 ∨ motor.e23 ≠ 0

theorem norm_ne_zero
    {motor : Even ℝ}
    (euclidean : motor.HasEuclideanPart) :
    motor.norm ≠ 0 := by
  have positive : 0 < motor.norm := by
    rw [norm]
    rcases euclidean with nonzero | nonzero | nonzero | nonzero <;> positivity
  exact positive.ne'

end Even

namespace Layout

variable {layout : Layout}

@[simp]
theorem weight_one :
    layout.weight 1 = 1 := by
  simp [weight]

theorem weight_mul
    (left right : Even ℝ) :
    layout.weight (left * right) = layout.weight left * layout.weight right := by
  rw [weight, weight, weight, Even.norm_mul]
  split <;> simp

theorem weight_prod_ne_zero
    {motors : List (Even ℝ)}
    (nonzero : ∀ motor ∈ motors, layout.weight motor ≠ 0) :
    layout.weight motors.prod ≠ 0 := by
  induction motors with
  | nil => simp
  | cons motor rest inductionHypothesis =>
      rw [List.forall_mem_cons] at nonzero
      rw [List.prod_cons, weight_mul]
      exact mul_ne_zero nonzero.1 (inductionHypothesis nonzero.2)

end Layout

/-! ## Images of images -/

namespace Entity

variable
  {left right : List Nat → Even ℝ}
  {target : List Nat}
  {entity between moved other : Entity ℝ}

theorem IsImage.refl
    (entity : Entity ℝ)
    (target : List Nat) :
    entity.IsImage (fun _ => 1) target entity where
  layout_eq := rfl
  sandwich_eq index _ := by
    rw [Even.sandwich_one (entity.valueAt_mem_ascending index), Layout.weight_one, one_smul]

theorem IsImage.trans
    (first : entity.IsImage right target between)
    (second : between.IsImage left target moved) :
    entity.IsImage (fun index => left index * right index) target moved where
  layout_eq := second.layout_eq.trans first.layout_eq
  sandwich_eq index isIndex := by
    rw [Even.sandwich_mul (entity.valueAt_mem_ascending index), first.sandwich_eq index isIndex,
      sandwich_smul, second.sandwich_eq index isIndex, first.layout_eq, smul_smul,
      Layout.weight_mul, mul_comm]

/-- An entity has only one image under a motor whose weight is not zero. -/
theorem IsImage.coincides
    (isMoved : entity.layout.IsMoved)
    (first : entity.IsImage left target moved)
    (second : entity.IsImage left target other)
    (nonzero :
      ∀ index, Tensor.IsIndex target index → entity.layout.weight (left index) ≠ 0) :
    moved.Coincides target other := by
  refine .of_valueAt (first.layout_eq.symm ▸ isMoved)
    (first.layout_eq.trans second.layout_eq.symm) fun index isIndex => ?_
  have images := (first.sandwich_eq index isIndex).symm.trans (second.sandwich_eq index isIndex)
  exact smul_right_injective (Element ℝ) (nonzero index isIndex) images

/-- The image of the image under a unit motor and its reversion is the entity itself. -/
theorem IsImage.coincides_reverse
    {reversed : List Nat → Even ℝ}
    (isMoved : entity.layout.IsMoved)
    (isUnit :
      ∀ index, Tensor.IsIndex target index → (left index).norm = 1 ∧ (left index).twist = 0)
    (first : entity.IsImage left target between)
    (second : between.IsImage reversed target moved)
    (reverses :
      ∀ index, Tensor.IsIndex target index → reversed index = (left index).reverse) :
    moved.Coincides target entity := by
  have sameLayout : moved.layout = entity.layout := second.layout_eq.trans first.layout_eq
  refine .of_valueAt (sameLayout.symm ▸ isMoved) sameLayout fun index isIndex => ?_
  have back := second.sandwich_eq index isIndex
  have there := first.sandwich_eq index isIndex
  have normalized := (isUnit index isIndex).1
  rw [Layout.weight_of_norm normalized, one_smul] at there
  rw [reverses index isIndex, first.layout_eq,
    Layout.weight_of_norm ((Even.norm_reverse _).trans normalized), one_smul, ← there,
    Even.sandwich_reverse (isUnit index isIndex) (entity.valueAt_mem_ascending index)] at back
  exact back.symm

end Entity

/-! ## One motor after the other -/

namespace Compute

open Entity

section Act

variable
  {certain : Prop}
  {context : Context ℝ}
  {batch : List Nat}
  {entity : Entity ℝ}
  (room : certain → limits.HasRoomWithin batch)
  (isMoved : entity.layout.IsMoved)

/-- The image of an entity under motors, one after the other, with the operands that are left. -/
structure MovedAll
    (batch : List Nat)
    (motors : List (Entity ℝ))
    (entity : Entity ℝ)
    (others : List (Entity ℝ))
    (moved : Entity ℝ)
    (behind : Context ℝ) :
    Prop where
  operands : AreOperands behind (moved :: others)
  broadcast :
    ∀ target,
      Tensor.Stretches moved.batchShape target ↔
        ∀ shape ∈ entity.batchShape :: motors.map Entity.batchShape, Tensor.Stretches shape target
  image : entity.IsImage (evenProduct motors) batch moved

include room isMoved

/-- Transforming by motors, the last one first, moves by their product. -/
theorem ensures_foldr_transform
    (ready : context.IsReady limits)
    {motors others : List (Entity ℝ)}
    (areMotors : ∀ motor ∈ motors, motor.layout.IsMotor)
    (operands : AreOperands context (entity :: (motors ++ others)))
    (stretch :
      ∀ shape ∈ entity.batchShape :: motors.map Entity.batchShape, Tensor.Stretches shape batch)
    (nonzero :
      ∀ motor ∈ motors, ∀ index, Tensor.IsIndex batch index →
        entity.layout.weight (motor.even index) ≠ 0) :
    (motors.foldrM transform entity).Ensures limits certain context
      (MovedAll batch motors entity others) := by
  induction motors generalizing others with
  | nil =>
      exact .pure ready ⟨operands, by simp, .refl entity batch⟩
  | cons motor rest inductionHypothesis =>
      rcases List.forall_mem_cons.1 areMotors with ⟨isMotor, restMotors⟩
      rcases List.forall_mem_cons.1 nonzero with ⟨motorNonzero, restNonzero⟩
      have among : entity :: (rest ++ motor :: others) ⊆ entity :: (motor :: rest ++ others) := by
        intro operand member
        simp at member ⊢
        tauto
      have restStretch :
          ∀ shape ∈ entity.batchShape :: rest.map Entity.batchShape,
            Tensor.Stretches shape batch := fun shape member =>
        stretch shape (by simp at member ⊢; tauto)
      rw [List.foldrM_cons]
      refine (inductionHypothesis restMotors (operands.subset among) restStretch restNonzero).bind
        fun between middle isReady _ moved => ?_
      have pair : [motor, between] ⊆ between :: motor :: others := by simp
      have left : others ⊆ between :: motor :: others := by simp
      have betweenReaches : Tensor.Stretches between.batchShape batch :=
        (moved.broadcast batch).2 restStretch
      have motorReaches : Tensor.Stretches motor.batchShape batch := stretch _ (by simp)
      have betweenMoved : between.layout.IsMoved := moved.image.layout_eq.symm ▸ isMoved
      have roomForBoth (isCertain : certain) :
          limits.HaveCommonRoom [motor.batchShape, between.batchShape] :=
        (room isCertain).common (by simp [motorReaches, betweenReaches])
      refine (ensures_transform isReady isMotor betweenMoved (moved.operands.subset pair)
        roomForBoth).mono fun last behind free made => ?_
      have lastReaches := Tensor.stretches_iff_of_commonShape made.broadcast
      refine
        { operands := (moved.operands.subset left).cons free made.isNew made.isOperand
          broadcast := fun target => ?_
          image := ?_ }
      · rw [lastReaches]
        simp [moved.broadcast, and_left_comm]
      · have reaches : Tensor.Stretches last.batchShape batch :=
          (lastReaches batch).2 (by simp [motorReaches, betweenReaches])
        have image :=
          made.isImage betweenMoved reaches
            (moved.image.layout_eq.symm ▸ motorNonzero)
        rw [evenProduct_cons]
        exact moved.image.trans image

/-- Transforming by a product does what transforming by its factors does, the last one first. -/
theorem ensures_composed_and_stepwise
    (ready : context.IsReady limits)
    {motors : List (Entity ℝ)}
    (nonempty : motors ≠ [])
    (areMotors : ∀ motor ∈ motors, motor.layout.IsMotor)
    (operands : AreOperands context (entity :: motors))
    (broadcast :
      Tensor.commonShape (entity.batchShape :: motors.map Entity.batchShape) = .ok batch)
    (nonzero :
      ∀ motor ∈ motors, ∀ index, Tensor.IsIndex batch index →
        entity.layout.weight (motor.even index) ≠ 0) :
    (do
        let composed ← compose motors
        let direct ← transform composed entity
        let stepwise ← motors.foldrM transform entity
        return (direct, stepwise)).Ensures limits
      certain context fun (direct, stepwise) _ =>
        direct.batchShape = batch ∧ stepwise.batchShape = batch ∧
          direct.Coincides batch stepwise := by
  have stretch := Tensor.stretches_of_commonShape broadcast
  have batchReaches := Tensor.stretches_iff_of_commonShape broadcast
  have motorsReach : ∀ shape ∈ motors.map Entity.batchShape, Tensor.Stretches shape batch :=
    fun shape member => stretch shape (.tail _ member)
  have entityReaches := stretch _ (.head _)
  have motorOperands := operands.subset (List.subset_cons_self entity motors)
  refine (ensures_compose ready nonempty areMotors motorOperands
    fun isCertain => ⟨room isCertain, by simpa using motorsReach⟩).bind
      fun composed between isReady free composedMade => ?_
  have isMotor : composed.layout.IsMotor := composedMade.layout_eq ▸ .motor
  have composedReaches := Tensor.commonShape_stretches composedMade.broadcast motorsReach
  have alone : [entity] ⊆ entity :: motors := by simp
  have roomForBoth (isCertain : certain) :
      limits.HaveCommonRoom [composed.batchShape, entity.batchShape] :=
    (room isCertain).common (by simp [composedReaches, entityReaches])
  refine (ensures_transform isReady isMotor isMoved
    ((operands.subset alone).cons free composedMade.isNew composedMade.isOperand) roomForBoth).bind
      fun direct middle isReady more directMade => ?_
  have directReaches := Tensor.stretches_iff_of_commonShape directMade.broadcast
  have evenOf (index : List Nat) (isIndex : Tensor.IsIndex batch index) :
      composed.even index = evenProduct motors index :=
    composedMade.even_eq composedReaches isIndex
  have weightOf (index : List Nat) (isIndex : Tensor.IsIndex batch index) :
      entity.layout.weight (evenProduct motors index) ≠ 0 := by
    refine Layout.weight_prod_ne_zero fun even member => ?_
    rcases List.mem_map.1 member with ⟨motor, inMotors, rfl⟩
    exact nonzero motor inMotors index isIndex
  have directImage : entity.IsImage (evenProduct motors) batch direct := by
    refine (directMade.isImage isMoved ((directReaches batch).2 ?_) fun index isIndex => ?_).congr
      evenOf
    · simp [composedReaches, entityReaches]
    · exact evenOf index isIndex ▸ weightOf index isIndex
  have laterOperands : AreOperands middle (entity :: (motors ++ [])) := by
    simpa using operands.later (free.trans more)
  refine (ensures_foldr_transform room isMoved isReady areMotors laterOperands stretch nonzero).bind
    fun stepwise last isReady _ moved => .pure isReady ⟨?_, ?_, ?_⟩
  · refine Tensor.eq_of_stretches_iff fun target => ?_
    rw [directReaches, batchReaches]
    simp [Tensor.stretches_iff_of_commonShape composedMade.broadcast, and_comm]
  · refine Tensor.eq_of_stretches_iff fun target => ?_
    rw [moved.broadcast, batchReaches]
  · exact directImage.coincides isMoved moved.image weightOf

/-- Transforming by a unit motor and then by its reversion gives an entity back. -/
theorem ensures_forth_and_back
    (ready : context.IsReady limits)
    {motor : Entity ℝ}
    (isMotor : motor.layout.IsMotor)
    (operands : AreOperands context [motor, entity])
    (broadcast : Tensor.commonShape [motor.batchShape, entity.batchShape] = .ok batch)
    (isUnit : motor.IsUnit)
    (few :
      certain →
        motor.layout = .motor ∨ motor.batchShape.length < Tensor.maxGatheredDimensions) :
    (do
        let moved ← transform motor entity
        let reversed ← reverse motor
        transform reversed moved).Ensures limits
      certain context fun back _ => back.batchShape = batch ∧ back.Coincides batch entity := by
  have stretch := Tensor.stretches_of_commonShape broadcast
  have batchReaches := Tensor.stretches_iff_of_commonShape broadcast
  have motorReaches := stretch _ (.head _)
  have entityReaches := stretch _ (.tail _ (.head _))
  have units (index : List Nat) (isIndex : Tensor.IsIndex batch index) :=
    isUnit.norm_twist isMotor motorReaches isIndex
  refine (ensures_transform ready isMotor isMoved operands fun isCertain =>
    (room isCertain).common stretch).bind fun moved between isReady free movedMade => ?_
  have sameLayout := movedMade.layout_eq
  have movedReaches := Tensor.stretches_iff_of_commonShape movedMade.broadcast
  have movedImage :=
    movedMade.isImage isMoved ((movedReaches batch).2 stretch) fun index isIndex =>
      Layout.weight_ne_zero (units index isIndex).1
  refine
    (ensures_reverse isReady (isMotor.isTarget few)
        ((operands.each motor (.head _)).later free) fun isCertain =>
          room isCertain _ motorReaches).bind
      fun reversed middle isReady more reversedMade => ?_
  have reversedReaches := Tensor.stretches_iff_of_commonShape reversedMade.broadcast
  have reversedToBatch : Tensor.Stretches reversed.batchShape batch :=
    (reversedReaches batch).2 (by simp [motorReaches])
  have reverses (index : List Nat) (isIndex : Tensor.IsIndex batch index) :=
    reversedMade.even_eq_reverse reversedToBatch isIndex isMotor
  have pair : AreOperands middle [reversed, moved] :=
    AreOperands.cons (.singleton movedMade.isOperand) more reversedMade.isNew
      reversedMade.isOperand
  have movedToBatch := (movedReaches batch).2 stretch
  refine (ensures_transform isReady (reversedMade.layout_eq ▸ isMotor) (sameLayout ▸ isMoved) pair
    fun isCertain => (room isCertain).common (by simp [reversedToBatch, movedToBatch])).mono
      fun back _ _ backMade => ⟨?_, ?_⟩
  · refine Tensor.eq_of_stretches_iff fun target => ?_
    rw [Tensor.stretches_iff_of_commonShape backMade.broadcast, batchReaches]
    simp [movedReaches, reversedReaches]
  · have backReaches : Tensor.Stretches back.batchShape batch :=
      Tensor.commonShape_stretches backMade.broadcast (by simp [reversedToBatch, movedToBatch])
    refine movedImage.coincides_reverse isMoved units
      (backMade.isImage (sameLayout ▸ isMoved) backReaches fun index isIndex => ?_) reverses
    rw [reverses index isIndex]
    exact Layout.weight_ne_zero ((Even.norm_reverse _).trans (units index isIndex).1)

end Act

/--
Motors act as a group: a product moves as its factors do, the last one first,
and the reversion of a unit motor moves back.
-/
theorem motors_act
    {context : Context ℝ}
    (reached : context.IsReached)
    {entity : Entity ℝ}
    (isMoved : entity.layout.IsMoved) :
    (∀ (motors : List (Entity ℝ)) (batch : List Nat), motors ≠ [] →
      (∀ motor ∈ motors, motor.layout.IsMotor) →
      AreOperands context (entity :: motors) →
      Tensor.commonShape (entity.batchShape :: motors.map Entity.batchShape) = .ok batch →
      (entity.layout = .point →
        ∀ motor ∈ motors, ∀ index, Tensor.IsIndex batch index →
          (motor.even index).HasEuclideanPart) →
      (do
          let composed ← compose motors
          let direct ← transform composed entity
          let stepwise ← motors.foldrM transform entity
          return (direct, stepwise)).Gives
        (context.limits.HasRoomWithin batch) context fun (direct, stepwise) =>
          direct.batchShape = batch ∧ stepwise.batchShape = batch ∧
            direct.Coincides batch stepwise) ∧
      ∀ (motor : Entity ℝ) (batch : List Nat), motor.layout.IsMotor →
        AreOperands context [motor, entity] →
        Tensor.commonShape [motor.batchShape, entity.batchShape] = .ok batch →
        motor.IsUnit →
        (do
            let moved ← transform motor entity
            let reversed ← reverse motor
            transform reversed moved).Gives
          (context.limits.HasRoomWithin batch ∧
            (motor.layout = Layout.motor ∨ motor.batchShape.length < Tensor.maxGatheredDimensions))
          context fun back => back.batchShape = batch ∧ back.Coincides batch entity := by
  refine ⟨fun motors batch nonempty areMotors operands broadcast euclidean => ?_,
    fun motor batch isMotor operands broadcast isUnit => ?_⟩
  · refine
      (ensures_composed_and_stepwise id isMoved reached.isReady nonempty areMotors operands
        broadcast fun motor member index isIndex => ?_).gives fun _ _ held => held
    rw [Layout.weight]
    split
    · next isPoint => exact Even.norm_ne_zero (euclidean isPoint motor member index isIndex)
    · exact one_ne_zero
  · exact
      (ensures_forth_and_back And.left isMoved reached.isReady isMotor operands broadcast isUnit
        And.right).gives fun _ _ held => held

/-! ## A point, a half turn and a shift -/

/-- Half a turn about the third axis. -/
def halfTurn : Entity ℝ :=
  .ofRow 0 .rotor 0 [0, 1, 0, 0, 1]

/-- A shift along the first axis. -/
def firstShift : Entity ℝ :=
  .ofRow 1 .translator 0 [2, 1, 0, 0]

/-- A point off the axes. -/
def somePoint : Entity ℝ :=
  .ofRow 2 .point 0 [1, 2, 3]

/-- Half a turn and a shift act on a point as a group does. -/
theorem motors_act_halfTurn :
    (do
        let composed ← compose [halfTurn, firstShift]
        let direct ← transform composed somePoint
        let stepwise ← [halfTurn, firstShift].foldrM transform somePoint
        return (direct, stepwise)).Gives
      True (.start 3) (fun (direct, stepwise) =>
        direct.batchShape = [] ∧ stepwise.batchShape = [] ∧ direct.Coincides [] stepwise) ∧
      (do
          let moved ← transform halfTurn somePoint
          let reversed ← reverse halfTurn
          transform reversed moved).Gives
        True (.start 3) fun back => back.batchShape = [] ∧ back.Coincides [] somePoint := by
  have isPoint : somePoint.layout.IsMoved := .point
  have act := motors_act (Context.isReached_start 3) isPoint
  have room : Limits.usual.HasRoomWithin [] := Limits.hasRoomWithin_usual (by decide)
  have areMotors : ∀ motor ∈ [halfTurn, firstShift], motor.layout.IsMotor :=
    List.forall_mem_cons.2 ⟨.rotor, List.forall_mem_singleton.2 .translator⟩
  have areOperands : ∀ entity ∈ [somePoint, halfTurn, firstShift], entity.IsOperand (.start 3) :=
    List.forall_mem_cons.2
      ⟨isOperand_ofRow Layout.IsMoved.point.isProjective rfl (by decide),
        List.forall_mem_cons.2
          ⟨isOperand_ofRow Layout.IsMotor.rotor.isProjective rfl (by decide),
            List.forall_mem_singleton.2
              (isOperand_ofRow Layout.IsMotor.translator.isProjective rfl (by decide))⟩⟩
  have operands : AreOperands (.start 3) [somePoint, halfTurn, firstShift] :=
    .of_nodup (by decide) areOperands
  have turn (index : List Nat) :
      halfTurn.even index = ⟨0, 0, 0, 0, -1, 0, 0, 0⟩ := by
    rw [halfTurn, even_ofRow _ _ _ _ (Nat.zero_le _)]
    simp [Layout.even, Even.rotor]
  have shift (index : List Nat) :
      firstShift.even index = ⟨1, -1, 0, 0, 0, 0, 0, 0⟩ := by
    rw [firstShift, even_ofRow _ _ _ _ (Nat.zero_le _)]
    simp [Layout.even, Even.translator]
  have isUnit : halfTurn.IsUnit :=
    isUnit_of_norm_twist .rotor fun index _ => by simp [turn, Even.norm, Even.twist]
  have euclidean (index : List Nat) :
      (halfTurn.even index).HasEuclideanPart ∧ (firstShift.even index).HasEuclideanPart := by
    simp [turn, shift, Even.HasEuclideanPart]
  have stepwise :=
    act.1 [halfTurn, firstShift] [] (List.cons_ne_nil _ _) areMotors operands rfl fun _ =>
      List.forall_mem_cons.2
        ⟨fun index _ => (euclidean index).1,
          List.forall_mem_singleton.2 fun index _ => (euclidean index).2⟩
  have back := act.2 halfTurn [] .rotor (operands.subset (by simp)) rfl isUnit
  exact
    ⟨⟨fun _ => stepwise.succeeds room, stepwise.holds⟩,
      ⟨fun _ => back.succeeds ⟨room, .inr (by decide)⟩, back.holds⟩⟩

/-! ## Many dimensions -/

/-- A rotor over too many dimensions is not reversed. -/
theorem reverse_of_many
    {context : Context ℝ}
    (ready : context.IsReady limits)
    {turn : Entity ℝ}
    (isRotor : turn.layout = .rotor)
    (isOperand : turn.IsOperand context)
    (room : limits.HasRoom turn.batchShape)
    (many : Tensor.maxGatheredDimensions ≤ turn.batchShape.length) :
    (outcome (reverse turn) context).1 = .error .tooManyDimensions := by
  have haveRoom : True → limits.HaveCommonRoom ([turn].map Entity.batchShape) :=
    fun _ => ⟨_, commonShape_singleton _, room⟩
  rw [reverse, isRotor]
  refine (ensures_call ready (.singleton isOperand) haveRoom .reverse
    (LibraryFunction.isOver .reverse)).bind_error fun source between isReady _ called => ?_
  have sameBatch : source.batchShape = turn.batchShape :=
    Except.ok.inj (called.broadcast.symm.trans (commonShape_singleton _))
  refine (ensures_selectBlades isReady called.represents (fun _ => sameBatch ▸ room)
    (by decide)).bind_error fun values middle _ _ selected => ?_
  exact rotorFrom_of_many (selected.1 called.isNew.floating) selected.2 (sameBatch ▸ many)

/-- Half a turn about the third axis, over many dimensions. -/
def deepHalfTurn : Entity ℝ :=
  .ofRow 0 .rotor 64 [0, 1, 0, 0, 1]

/-- The reversion of a unit rotor over many dimensions cannot be computed. -/
theorem forth_and_back_refused :
    AreOperands (.start 3) [deepHalfTurn, somePoint] ∧ deepHalfTurn.IsUnit ∧
      Limits.usual.HasRoomWithin deepHalfTurn.batchShape ∧
      (outcome (do
          let moved ← transform deepHalfTurn somePoint
          let reversed ← reverse deepHalfTurn
          transform reversed moved) (.start 3)).1 =
        .error .tooManyDimensions := by
  have batchShape : deepHalfTurn.batchShape = List.replicate 64 1 := batchShape_ofRow 0 .rotor 64 _
  have room : Limits.usual.HasRoomWithin deepHalfTurn.batchShape :=
    batchShape ▸ Limits.hasRoomWithin_usual (by decide)
  have areOperands : ∀ entity ∈ [deepHalfTurn, somePoint], entity.IsOperand (.start 3) :=
    List.forall_mem_cons.2
      ⟨isOperand_ofRow Layout.IsMotor.rotor.isProjective rfl (by decide),
        List.forall_mem_singleton.2
          (isOperand_ofRow Layout.IsMoved.point.isProjective rfl (by decide))⟩
  have operands : AreOperands (.start 3) [deepHalfTurn, somePoint] :=
    .of_nodup (by decide) areOperands
  have turn (index : List Nat) (isIndex : Tensor.IsIndex deepHalfTurn.batchShape index) :
      deepHalfTurn.even index = ⟨0, 0, 0, 0, -1, 0, 0, 0⟩ := by
    have many : 64 ≤ index.length := by
      rw [isIndex.length_eq, batchShape, List.length_replicate]
    rw [deepHalfTurn, even_ofRow _ _ _ _ many]
    simp [Layout.even, Even.rotor]
  have isUnit : deepHalfTurn.IsUnit :=
    isUnit_of_norm_twist .rotor fun index isIndex => by
      simp [turn index isIndex, Even.norm, Even.twist]
  have stretch :
      ∀ shape ∈ [deepHalfTurn.batchShape, somePoint.batchShape],
        Tensor.Stretches shape deepHalfTurn.batchShape :=
    List.forall_mem_cons.2
      ⟨.refl _, List.forall_mem_singleton.2 (.nil _)⟩
  have ready := (Context.isReached_start 3 : (Context.start 3 : Context ℝ).IsReached).isReady
  refine ⟨operands, isUnit, room, ?_⟩
  refine (ensures_transform ready .rotor .point operands fun _ => room.common stretch).bind_error
    fun moved between isReady free _ => ?_
  refine outcome_bind_of_error ?_
  exact
    reverse_of_many isReady rfl ((operands.each deepHalfTurn (.head _)).later free)
      (room _ (.refl _)) (by rw [batchShape, List.length_replicate]; exact le_rfl)

end Compute

end Versor

end
