import Versor.Proofs.Projective.Amounts
import Versor.Proofs.Projective.SimpleMotion

/-!
# Turning about a center

A turn about an axis through a center is made by one motor, the product of two
shifts with the turn between them.  It does what shifting the center to the
origin, turning there and shifting back do one after the other
(`Compute.rotate_about_center`), also if points are divided by the norm of a
turn about an axis that is no unit vector.
-/

noncomputable section

namespace Versor

open Compute Matrix Reference

variable {limits : Limits}

/-! ## Motors at the indices of any batch -/

namespace Compute

open Entity

/-- A new motor that is a motion at the indices of any batch. -/
structure NewMotor
    (context : Context ℝ)
    (shapes : List (List Nat))
    (motion : List Nat → Even ℝ)
    (motor : Entity ℝ)
    (behind : Context ℝ) :
    Prop
    extends IsProduct behind shapes motion motor where
  isNew : motor.IsNew context behind
  isMotor : motor.layout.IsMotor

namespace NewMotor

variable
  {context behind : Context ℝ}
  {shapes : List (List Nat)}
  {motion : List Nat → Even ℝ}
  {motor : Entity ℝ}

theorem even_eq
    (newMotor : NewMotor context shapes motion motor behind)
    {target index : List Nat}
    (reaches : Tensor.Stretches motor.batchShape target)
    (isIndex : Tensor.IsIndex target index) :
    motor.even index = motion index := by
  refine Even.element_injective ?_
  rw [← valueAt_even newMotor.isMotor, newMotor.valueAt_eq target reaches index isIndex]

end NewMotor

variable
  {context between behind : Context ℝ}
  {motor : Entity ℝ}

/-- A motor that is rebuilt from slots which depend on the index in a batch is a motion. -/
theorem Rebuilt.newMotor
    {layout : Layout}
    {shapes : List (List Nat)}
    {batch : List Nat}
    {slots : List Nat → Nat → ℝ}
    (rebuilt : Rebuilt context batch layout slots motor behind)
    (isMotor : layout.IsMotor)
    (broadcast : Tensor.commonShape shapes = .ok batch)
    (spread :
      ∀ target, Tensor.Stretches batch target →
        ∀ index, Tensor.IsIndex target index →
          slots (Tensor.stretchIndex batch index) = slots index) :
    NewMotor context shapes (fun index => layout.even (slots index)) motor behind where
  isOperand := rebuilt.represents.isOperand rebuilt.isNew
  broadcast := rebuilt.represents.batchShape_eq ▸ broadcast
  valueAt_eq target reaches index isIndex := by
    rw [rebuilt.represents.batchShape_eq] at reaches
    rw [rebuilt.represents.valueAt_stretched reaches isIndex, spread target reaches index isIndex,
      Layout.valueAt_even isMotor]
  isNew := rebuilt.isNew
  isMotor := rebuilt.layout_eq ▸ isMotor

/-- A motor with all blades is the motion that it is made of. -/
theorem Made.newMotor
    {shapes others : List (List Nat)}
    {even motion : List Nat → Even ℝ}
    (made : Made between .motor shapes (fun index => (even index).element) motor behind)
    (free : context.workspace.free ≤ between.workspace.free)
    (sameStretches :
      ∀ target,
        (∀ shape ∈ shapes, Tensor.Stretches shape target) ↔
          ∀ shape ∈ others, Tensor.Stretches shape target)
    (same :
      ∀ target, (∀ shape ∈ shapes, Tensor.Stretches shape target) →
        ∀ index, Tensor.IsIndex target index → even index = motion index) :
    NewMotor context others motion motor behind where
  isOperand := made.isOperand
  broadcast := Tensor.commonShape_of_stretches_iff sameStretches made.broadcast
  valueAt_eq target reaches index isIndex := by
    have shapesReach := (Tensor.stretches_iff_of_commonShape made.broadcast target).1 reaches
    rw [valueAt_even (made.layout_eq ▸ .motor), made.even_eq reaches isIndex,
      same target shapesReach index isIndex]
  isNew := made.isNew.of_le free
  isMotor := made.layout_eq ▸ .motor

end Compute

/-! ## Turns and shifts of given amounts -/

/-- Three coordinates of a direction or of a place. -/
structure Triple where
  x : Amount
  y : Amount
  z : Amount

namespace Triple

/-- The coordinates in their order. -/
def amounts
    (triple : Triple) :
    List Amount :=
  [triple.x, triple.y, triple.z]

/-- The coordinates as values for slots. -/
def values
    (triple : Triple) :
    List (SlotValue ℝ) :=
  triple.amounts.map Amount.value

/-- The batches of the coordinates. -/
def shapes
    (triple : Triple) :
    List (List Nat) :=
  triple.amounts.map Amount.shape

/-- The coordinates at an index. -/
def vectorAt
    (triple : Triple)
    (index : List Nat) :
    Fin 3 → ℝ :=
  ![triple.x.entryAt index, triple.y.entryAt index, triple.z.entryAt index]

end Triple

namespace Amount

/-- The turn by an angle about an axis through the origin. -/
def turn
    (angle : Amount)
    (axis : Triple)
    (index : List Nat) :
    Even ℝ :=
  .rotor (rotorSlots (row (angle :: axis.amounts) index))

/-- The shift by a distance along a direction. -/
def shift
    (distance : Amount)
    (direction : Triple)
    (index : List Nat) :
    Even ℝ :=
  .translator (row (distance :: direction.amounts) index)

variable
  (angle distance : Amount)
  (axis direction center : Triple)
  (index : List Nat)

theorem norm_turn :
    (angle.turn axis index).norm =
      Real.cos (angle.entryAt index / 2) ^ 2 +
        Real.sin (angle.entryAt index / 2) ^ 2 *
          (axis.vectorAt index ⬝ᵥ axis.vectorAt index) :=
  Even.norm_rotor _

/-- A turn scales its axis by its norm. -/
theorem rotation_turn_axis
    (factor : ℝ) :
    (angle.turn axis index).rotation *ᵥ (factor • axis.vectorAt index) =
      (angle.turn axis index).norm • factor • axis.vectorAt index := by
  have sameAxis :
      coordinates (rotorSlots (row (angle :: axis.amounts) index)) 2 = axis.vectorAt index :=
    rfl
  rw [turn, Even.rotation_rotor, sameAxis]
  simp [cross_self]

@[simp]
theorem shift_turn :
    (angle.turn axis index).shift = 0 :=
  Even.shift_rotor _

@[simp]
theorem norm_shift :
    (distance.shift direction index).norm = 1 :=
  Even.norm_translator _

@[simp]
theorem rotation_shift
    (place : Fin 3 → ℝ) :
    (distance.shift direction index).rotation *ᵥ place = place :=
  Even.rotation_translator _ place

@[simp]
theorem shift_shift :
    (distance.shift direction index).shift =
      distance.entryAt index • direction.vectorAt index :=
  Even.shift_translator _

/-- The turn about an axis through a center: shifting to the origin, turning and shifting back. -/
def turnAbout :
    Even ℝ :=
  (number 1).shift center index * (angle.turn axis index * (number (-1)).shift center index)

end Amount

/-! ## Motors of given amounts -/

namespace Compute

open Entity

section Motors

variable
  {certain : Prop}
  {context : Context ℝ}
  {batch : List Nat}
  (ready : context.IsReady limits)
  (room : certain → limits.HasRoomWithin batch)

include ready room

theorem ensures_turn
    (angle : Amount)
    (axis : Triple)
    (stretch : ∀ shape ∈ angle.shape :: axis.shapes, Tensor.Stretches shape batch) :
    (rotor angle.value axis.x.value axis.y.value axis.z.value).Ensures limits certain context
      (NewMotor context (angle.shape :: axis.shapes) (angle.turn axis)) := by
  rcases Tensor.exists_commonShape stretch with ⟨common, broadcast, reaches⟩
  have stretchCommon : ∀ shape ∈ (angle :: axis.amounts).map Amount.shape,
      Tensor.Stretches shape common :=
    Tensor.stretches_of_commonShape broadcast
  refine (ensures_rotor_amounts ready broadcast fun isCertain => room isCertain _ reaches).mono
    fun motor behind _ rebuilt => ?_
  refine rebuilt.newMotor .rotor broadcast fun target toTarget index isIndex => ?_
  exact congrArg rotorSlots (Amount.row_stretch stretchCommon toTarget isIndex)

theorem ensures_shift
    (distance : Amount)
    (direction : Triple)
    (stretch : ∀ shape ∈ distance.shape :: direction.shapes, Tensor.Stretches shape batch) :
    (translator distance.value direction.x.value direction.y.value direction.z.value).Ensures limits
      certain context
      (NewMotor context (distance.shape :: direction.shapes) (distance.shift direction)) := by
  rcases Tensor.exists_commonShape stretch with ⟨common, broadcast, reaches⟩
  have made :=
    ensures_ofValues ready Layout.IsMotor.translator.isProjective
      (List.cons_ne_nil distance direction.amounts) rfl broadcast
      fun isCertain : certain => room isCertain _ reaches
  exact made.mono fun motor behind _ rebuilt =>
    rebuilt.newMotor .translator broadcast fun target toTarget index isIndex =>
      Amount.row_stretch (Tensor.stretches_of_commonShape broadcast) toTarget isIndex

/-- The motor of a turn about an axis through a center. -/
def motorAbout
    (angle : Amount)
    (axis center : Triple) :
    Compute ℝ (Entity ℝ) := do
  let turn ← rotor angle.value axis.x.value axis.y.value axis.z.value
  let toOrigin ←
    translator (Amount.number (-1)).value center.x.value center.y.value center.z.value
  let fromOrigin ←
    translator (Amount.number 1).value center.x.value center.y.value center.z.value
  let product ← applyLibrary .tripleProduct [fromOrigin, turn, toOrigin]
  motorOf product

/-- The product of two shifts with a turn between them is the turn about a center. -/
theorem ensures_motorAbout
    (angle : Amount)
    (axis center : Triple)
    (stretch :
      ∀ shape ∈ angle.shape :: (axis.shapes ++ center.shapes), Tensor.Stretches shape batch) :
    (motorAbout angle axis center).Ensures limits certain context
      (NewMotor context (angle.shape :: (axis.shapes ++ center.shapes))
        (angle.turnAbout axis center)) := by
  rcases List.forall_mem_cons.1 stretch with ⟨angleStretches, others⟩
  rcases List.forall_mem_append.1 others with ⟨axisStretch, centerStretch⟩
  have turnStretch : ∀ shape ∈ angle.shape :: axis.shapes, Tensor.Stretches shape batch :=
    List.forall_mem_cons.2 ⟨angleStretches, axisStretch⟩
  have shiftStretch : ∀ shape ∈ [] :: center.shapes, Tensor.Stretches shape batch :=
    List.forall_mem_cons.2 ⟨.nil batch, centerStretch⟩
  refine (ensures_turn ready room angle axis turnStretch).bind
    fun turn first isReady toFirst turnIs => ?_
  refine (ensures_shift isReady room (.number (-1)) center shiftStretch).bind
    fun toOrigin second isReady toSecond toOriginIs => ?_
  refine (ensures_shift isReady room (.number 1) center shiftStretch).bind
    fun fromOrigin third isReady toThird fromOriginIs => ?_
  have operands : AreOperands third [fromOrigin, toOrigin, turn] :=
    ((AreOperands.singleton turnIs.isOperand).cons toSecond toOriginIs.isNew
      toOriginIs.isOperand).cons toThird fromOriginIs.isNew fromOriginIs.isOperand
  have areMotors : ∀ motor ∈ [fromOrigin, turn, toOrigin], motor.layout.IsMotor := by
    simp [fromOriginIs.isMotor, turnIs.isMotor, toOriginIs.isMotor]
  have turnReaches := Tensor.stretches_iff_of_commonShape turnIs.broadcast
  have toOriginReaches := Tensor.stretches_iff_of_commonShape toOriginIs.broadcast
  have fromOriginReaches := Tensor.stretches_iff_of_commonShape fromOriginIs.broadcast
  have sameStretches (target : List Nat) :
      (∀ shape ∈ [fromOrigin, turn, toOrigin].map Entity.batchShape,
          Tensor.Stretches shape target) ↔
        ∀ shape ∈ angle.shape :: (axis.shapes ++ center.shapes), Tensor.Stretches shape target := by
    simp only [List.map_cons, List.map_nil, List.forall_mem_cons, List.forall_mem_append,
      turnReaches, toOriginReaches, fromOriginReaches]
    have scalar (entry : ℝ) : Tensor.Stretches (Amount.number entry).shape target := .nil target
    simp only [scalar]
    tauto
  have roomForAll (isCertain : certain) :
      limits.HaveCommonRoom ([fromOrigin, turn, toOrigin].map Entity.batchShape) :=
    (room isCertain).common ((sameStretches batch).2 stretch)
  refine (ensures_tripleProduct isReady areMotors (operands.subset (by simp)) roomForAll).mono
    fun motor behind _ made => ?_
  refine made.newMotor (toFirst.trans (toSecond.trans toThird)) sameStretches
    fun target reaches index isIndex => ?_
  simp only [List.map_cons, List.map_nil, List.forall_mem_cons] at reaches
  simp [fromOriginIs.even_eq reaches.1 isIndex, turnIs.even_eq reaches.2.1 isIndex,
    toOriginIs.even_eq reaches.2.2.1 isIndex, Amount.turnAbout]

end Motors

/-! ## Moving by what is constructed -/

/-- A new image of an entity under a motion, over the batches of both. -/
structure MovedBy
    (context : Context ℝ)
    (batch : List Nat)
    (shapes : List (List Nat))
    (motion : List Nat → Even ℝ)
    (entity moved : Entity ℝ)
    (behind : Context ℝ) :
    Prop where
  isNew : moved.IsNew context behind
  isOperand : moved.IsOperand behind
  broadcast :
    ∀ target,
      Tensor.Stretches moved.batchShape target ↔
        ∀ shape ∈ entity.batchShape :: shapes, Tensor.Stretches shape target
  image : entity.IsImage motion batch moved

/-- An entity is moved by a motor that is constructed for it. -/
theorem ensures_movedBy
    {certain : Prop}
    {context : Context ℝ}
    {batch : List Nat}
    {shapes : List (List Nat)}
    {motion : List Nat → Even ℝ}
    {construct : Compute ℝ (Entity ℝ)}
    {entity : Entity ℝ}
    (room : certain → limits.HasRoomWithin batch)
    (constructs : construct.Ensures limits certain context (NewMotor context shapes motion))
    (isMoved : entity.layout.IsMoved)
    (isOperand : entity.IsOperand context)
    (stretch : ∀ shape ∈ entity.batchShape :: shapes, Tensor.Stretches shape batch)
    (nonzero : ∀ index, Tensor.IsIndex batch index → entity.layout.weight (motion index) ≠ 0) :
    (do
        let motor ← construct
        transform motor entity : Compute ℝ (Entity ℝ)).Ensures limits
      certain context (MovedBy context batch shapes motion entity) := by
  rcases List.forall_mem_cons.1 stretch with ⟨entityReaches, shapesReach⟩
  refine constructs.bind fun motor between isReady free newMotor => ?_
  have motorIff := Tensor.stretches_iff_of_commonShape newMotor.broadcast
  have motorReaches : Tensor.Stretches motor.batchShape batch := (motorIff batch).2 shapesReach
  have pair : AreOperands between [motor, entity] :=
    (AreOperands.singleton isOperand).cons free newMotor.isNew newMotor.isOperand
  have roomForBoth (isCertain : certain) :
      limits.HaveCommonRoom [motor.batchShape, entity.batchShape] :=
    (room isCertain).common (by simp [motorReaches, entityReaches])
  refine (ensures_transform isReady newMotor.isMotor isMoved pair roomForBoth).mono
    fun moved behind _ made => ?_
  have movedIff := Tensor.stretches_iff_of_commonShape made.broadcast
  have movedReaches : Tensor.Stretches moved.batchShape batch :=
    (movedIff batch).2 (by simp [motorReaches, entityReaches])
  have evenOf (index : List Nat) (isIndex : Tensor.IsIndex batch index) :
      motor.even index = motion index :=
    newMotor.even_eq motorReaches isIndex
  refine
    { isNew := made.isNew.of_le free
      isOperand := made.isOperand
      broadcast := fun target => ?_
      image := (made.isImage isMoved movedReaches fun index isIndex => ?_).congr evenOf }
  · rw [movedIff]
    simp [motorIff, and_comm]
  · rw [evenOf index isIndex]
    exact nonzero index isIndex

/-- Moving once more is moving by the product. -/
theorem MovedBy.trans
    {context between behind : Context ℝ}
    {batch : List Nat}
    {shapes others : List (List Nat)}
    {right left : List Nat → Even ℝ}
    {entity moved last : Entity ℝ}
    (first : MovedBy context batch shapes right entity moved between)
    (second : MovedBy between batch others left moved last behind) :
    MovedBy context batch (shapes ++ others) (fun index => left index * right index) entity last
      behind where
  isNew := second.isNew.of_le (first.isNew.free.trans first.isNew.taken.le)
  isOperand := second.isOperand
  broadcast target := by
    rw [second.broadcast]
    simp [first.broadcast, and_assoc, or_imp, forall_and]
  image := first.image.trans second.image

/-! ## Turning and shifting an entity -/

section Moving

variable
  {certain : Prop}
  {context : Context ℝ}
  {batch : List Nat}
  {entity : Entity ℝ}
  (ready : context.IsReady limits)
  (room : certain → limits.HasRoomWithin batch)
  (isMoved : entity.layout.IsMoved)
  (isOperand : entity.IsOperand context)

include ready room isMoved isOperand

theorem ensures_translate_amounts
    (distance : Amount)
    (direction : Triple)
    (stretch :
      ∀ shape ∈ entity.batchShape :: distance.shape :: direction.shapes,
        Tensor.Stretches shape batch) :
    (translate entity distance.value direction.values).Ensures limits certain context
      (MovedBy context batch (distance.shape :: direction.shapes) (distance.shift direction)
        entity) :=
  ensures_movedBy room
    (ensures_shift ready room distance direction fun shape member => stretch shape (.tail _ member))
    isMoved isOperand stretch fun _ _ => Layout.weight_ne_zero (Amount.norm_shift ..)

variable
  (angle : Amount)
  (axis center : Triple)
  (nonzero :
    entity.layout = .point → ∀ index, Tensor.IsIndex batch index →
      (angle.turn axis index).norm ≠ 0)

include nonzero

omit ready room isMoved isOperand in
theorem weight_turn_ne_zero
    (index : List Nat)
    (isIndex : Tensor.IsIndex batch index) :
    entity.layout.weight (angle.turn axis index) ≠ 0 := by
  rw [Layout.weight]
  split
  · next isPoint => exact nonzero isPoint index isIndex
  · exact one_ne_zero

omit ready room isMoved isOperand in
/-- A turn about a center divides points by what the turn about the origin does. -/
theorem weight_turnAbout_ne_zero
    (index : List Nat)
    (isIndex : Tensor.IsIndex batch index) :
    entity.layout.weight (angle.turnAbout axis center index) ≠ 0 := by
  rw [Amount.turnAbout, Layout.weight_mul, Layout.weight_mul,
    Layout.weight_of_norm (Amount.norm_shift ..), Layout.weight_of_norm (Amount.norm_shift ..),
    one_mul, mul_one]
  exact weight_turn_ne_zero angle axis nonzero index isIndex

theorem ensures_rotate_amounts
    (stretch :
      ∀ shape ∈ entity.batchShape :: angle.shape :: axis.shapes, Tensor.Stretches shape batch) :
    (rotate entity angle.value axis.values none).Ensures limits certain context
      (MovedBy context batch (angle.shape :: axis.shapes) (angle.turn axis) entity) :=
  ensures_movedBy room
    (ensures_turn ready room angle axis fun shape member => stretch shape (.tail _ member))
    isMoved isOperand stretch (weight_turn_ne_zero angle axis nonzero)

theorem ensures_rotate_center
    (stretch :
      ∀ shape ∈ entity.batchShape :: angle.shape :: (axis.shapes ++ center.shapes),
        Tensor.Stretches shape batch) :
    (rotate entity angle.value axis.values (some center.values)).Ensures limits certain context
      (MovedBy context batch (angle.shape :: (axis.shapes ++ center.shapes))
        (angle.turnAbout axis center) entity) := by
  have constructed :
      rotate entity angle.value axis.values (some center.values) =
        motorAbout angle axis center >>= fun motor => transform motor entity := by
    have minus : (RealArithmetic.ofInt (-1) : ℝ) = -1 := by
      change (((-1 : ℤ)) : ℝ) = -1
      norm_num
    have plus : (RealArithmetic.ofInt 1 : ℝ) = 1 := by
      change (((1 : ℤ)) : ℝ) = 1
      norm_num
    simp [rotate, motorAbout, Triple.values, Triple.amounts, Amount.number, minus, plus]
  rw [constructed]
  exact ensures_movedBy room
    (ensures_motorAbout ready room angle axis center fun shape member =>
      stretch shape (.tail _ member))
    isMoved isOperand stretch (weight_turnAbout_ne_zero angle axis center nonzero)

end Moving

/-! ## Both ways -/

/-- Turn about a center, and shift the center to the origin, turn there and shift back. -/
def turnBothWays
    (entity : Entity ℝ)
    (angle : Amount)
    (axis center : Triple) :
    Compute ℝ (Entity ℝ × Entity ℝ) := do
  let direct ← rotate entity angle.value axis.values (some center.values)
  let shifted ← translate entity (.number (-1)) center.values
  let turned ← rotate shifted angle.value axis.values none
  let back ← translate turned (.number 1) center.values
  return (direct, back)

/--
An entity that is turned about a center at once and in three steps, which is
the same, and which leaves points on the axis where they are.
-/
structure TurnedBothWays
    (batch : List Nat)
    (entity : Entity ℝ)
    (axis center : Triple)
    (direct back : Entity ℝ) :
    Prop where
  layout_eq : direct.layout = entity.layout
  directBatch : direct.batchShape = batch
  backBatch : back.batchShape = batch
  coincides : direct.Coincides batch back
  fixed :
    entity.layout = .point →
      ∀ index, Tensor.IsIndex batch index → ∀ factor : ℝ,
        coordinates (entity.entryAt index) 0 =
            center.vectorAt index + factor • axis.vectorAt index →
          coordinates (direct.entryAt index) 0 = coordinates (entity.entryAt index) 0

/-- Shifting to the origin, turning and shifting back leaves a point on the axis. -/
theorem position_of_onAxis
    {batch index : List Nat}
    {angle : Amount}
    {axis center : Triple}
    {point shifted turned back : Entity ℝ}
    (shiftedImage : point.IsImage ((Amount.number (-1)).shift center) batch shifted)
    (turnedImage : shifted.IsImage (angle.turn axis) batch turned)
    (backImage : turned.IsImage ((Amount.number 1).shift center) batch back)
    (isPoint : point.layout = .point)
    (isIndex : Tensor.IsIndex batch index)
    (nonzero : (angle.turn axis index).norm ≠ 0)
    {factor : ℝ}
    (onAxis :
      coordinates (point.entryAt index) 0 =
        center.vectorAt index + factor • axis.vectorAt index) :
    coordinates (back.entryAt index) 0 = coordinates (point.entryAt index) 0 := by
  have shiftedIsPoint := shiftedImage.layout_eq.trans isPoint
  have turnedIsPoint := turnedImage.layout_eq.trans shiftedIsPoint
  have shiftedAt : coordinates (shifted.entryAt index) 0 = factor • axis.vectorAt index := by
    have position := shiftedImage.position isPoint isIndex (Amount.norm_shift ..)
    rw [position, onAxis]
    simp
  have turnedAt : coordinates (turned.entryAt index) 0 = factor • axis.vectorAt index := by
    have position := turnedImage.norm_smul_position shiftedIsPoint isIndex
    rw [shiftedAt, Amount.rotation_turn_axis, Amount.shift_turn, add_zero] at position
    exact smul_right_injective _ nonzero position
  have position := backImage.position turnedIsPoint isIndex (Amount.norm_shift ..)
  rw [position, turnedAt, onAxis]
  simp [add_comm]

/-- Turning about a center does what shifting, turning and shifting back do. -/
theorem ensures_turnBothWays
    {certain : Prop}
    {context : Context ℝ}
    {batch : List Nat}
    {entity : Entity ℝ}
    {angle : Amount}
    {axis center : Triple}
    (ready : context.IsReady limits)
    (room : certain → limits.HasRoomWithin batch)
    (isMoved : entity.layout.IsMoved)
    (isOperand : entity.IsOperand context)
    (broadcast :
      Tensor.commonShape (entity.batchShape :: angle.shape :: (axis.shapes ++ center.shapes)) =
        .ok batch)
    (nonzero :
      entity.layout = .point → ∀ index, Tensor.IsIndex batch index →
        (angle.turn axis index).norm ≠ 0) :
    (turnBothWays entity angle axis center).Ensures limits certain context
      fun (direct, back) _ => TurnedBothWays batch entity axis center direct back := by
  have stretch := Tensor.stretches_of_commonShape broadcast
  have batchIff := Tensor.stretches_iff_of_commonShape broadcast
  refine (ensures_rotate_center ready room isMoved isOperand angle axis center nonzero
    stretch).bind fun direct first isReady toFirst directBy => ?_
  rcases List.forall_mem_cons.1 stretch with ⟨entityReaches, others⟩
  rcases List.forall_mem_cons.1 others with ⟨angleReaches, vectorsReach⟩
  rcases List.forall_mem_append.1 vectorsReach with ⟨axisReach, centerReach⟩
  have reach {shape : List Nat} {shapes : List (List Nat)}
      (reaches : Tensor.Stretches shape batch)
      (rest : ∀ other ∈ shapes, Tensor.Stretches other batch) :
      ∀ other ∈ shape :: shapes, Tensor.Stretches other batch :=
    List.forall_mem_cons.2 ⟨reaches, rest⟩
  have shiftReach := reach (.nil batch) centerReach
  have turnReach := reach angleReaches axisReach
  have toShifted := reach entityReaches shiftReach
  refine (ensures_translate_amounts isReady room isMoved (isOperand.later toFirst)
    (.number (-1)) center toShifted).bind fun shifted second isReady _ shiftedBy => ?_
  have shiftedLayout := shiftedBy.image.layout_eq
  have toTurned := reach ((shiftedBy.broadcast batch).2 toShifted) turnReach
  refine (ensures_rotate_amounts isReady room (shiftedLayout ▸ isMoved) shiftedBy.isOperand angle
    axis (shiftedLayout ▸ nonzero) toTurned).bind fun turned third isReady _ turnedBy => ?_
  have turnedLayout := turnedBy.image.layout_eq.trans shiftedLayout
  have toBack := reach ((turnedBy.broadcast batch).2 toTurned) shiftReach
  refine (ensures_translate_amounts isReady room (turnedLayout ▸ isMoved) turnedBy.isOperand
    (.number 1) center toBack).bind fun back behind isReady _ backBy => .pure isReady ?_
  have steps := (shiftedBy.trans turnedBy).trans backBy
  have coincides : direct.Coincides batch back :=
    directBy.image.coincides isMoved steps.image
      (weight_turnAbout_ne_zero angle axis center nonzero)
  refine
    { layout_eq := directBy.image.layout_eq
      directBatch := Tensor.eq_of_stretches_iff fun target => ?_
      backBatch := Tensor.eq_of_stretches_iff fun target => ?_
      coincides := coincides
      fixed := fun isPoint index isIndex factor onAxis => ?_ }
  · rw [directBy.broadcast, batchIff]
  · have scalarTo (entry : ℝ) : Tensor.Stretches (Amount.number entry).shape target := .nil target
    rw [steps.broadcast, batchIff]
    simp only [List.forall_mem_cons, List.forall_mem_append, scalarTo]
    tauto
  · rw [coincides.position (directBy.image.layout_eq.trans isPoint) isIndex]
    exact
      position_of_onAxis shiftedBy.image turnedBy.image backBy.image isPoint isIndex
        (nonzero isPoint index isIndex) onAxis

/--
Turning about a center gives what shifting the center to the origin, turning
there and shifting back give, and points on the axis through it stay.  The
axis need not be a unit vector, if no point is divided by zero.
-/
theorem rotate_about_center
    {context : Context ℝ}
    {batch : List Nat}
    {entity : Entity ℝ}
    {angle : Amount}
    {axis center : Triple}
    (reached : context.IsReached)
    (isPrimitive : entity.layout.IsPrimitive)
    (isOperand : entity.IsOperand context)
    (broadcast :
      Tensor.commonShape (entity.batchShape :: angle.shape :: (axis.shapes ++ center.shapes)) =
        .ok batch)
    (nonzero :
      entity.layout = .point → ∀ index, Tensor.IsIndex batch index →
        Real.cos (angle.entryAt index / 2) ^ 2 +
            Real.sin (angle.entryAt index / 2) ^ 2 *
              (axis.vectorAt index ⬝ᵥ axis.vectorAt index) ≠ 0) :
    (turnBothWays entity angle axis center).Gives (context.limits.HasRoomWithin batch) context
      fun (direct, back) => TurnedBothWays batch entity axis center direct back := by
  refine (ensures_turnBothWays reached.isReady id isPrimitive.isMoved isOperand broadcast
    fun isPoint index isIndex => ?_).gives fun _ _ held => held
  rw [Amount.norm_turn]
  exact nonzero isPoint index isIndex

/-! ## A turn about an axis that misses the origin -/

/-- A direction along the third axis that is no unit vector. -/
def longAxis : Triple :=
  ⟨.number 0, .number 0, .number 2⟩

/-- A place in the plane of the first two axes. -/
def offCenter : Triple :=
  ⟨.number 1, .number 2, .number 0⟩

/-- A point above the center stays. -/
theorem rotate_about_center_somePoint :
    (turnBothWays somePoint (.number 1) longAxis offCenter).Gives True (.start 3)
      fun (direct, back) =>
        direct.Coincides [] back ∧ coordinates (direct.entryAt []) 0 = ![1, 2, 3] := by
  have isPoint : somePoint.layout.IsPrimitive := .point
  have pointOperand : somePoint.IsOperand (.start 3) :=
    isOperand_ofRow Layout.IsMoved.point.isProjective rfl (by decide)
  have nonzero (index : List Nat) :
      Real.cos ((Amount.number 1).entryAt index / 2) ^ 2 +
          Real.sin ((Amount.number 1).entryAt index / 2) ^ 2 *
            (longAxis.vectorAt index ⬝ᵥ longAxis.vectorAt index) ≠ 0 := by
    have circle := Real.cos_sq_add_sin_sq (1 / 2)
    have length : longAxis.vectorAt index ⬝ᵥ longAxis.vectorAt index = 4 := by
      simp [longAxis, Triple.vectorAt, dotProduct, Fin.sum_univ_three]
      norm_num
    rw [length, Amount.entryAt_number]
    nlinarith [sq_nonneg (Real.sin (1 / 2))]
  have broadcast :
      Tensor.commonShape
          (somePoint.batchShape :: (Amount.number 1).shape ::
            (longAxis.shapes ++ offCenter.shapes)) =
        .ok [] :=
    rfl
  have turns :=
    rotate_about_center (Context.isReached_start 3) isPoint pointOperand broadcast
      fun _ index _ => nonzero index
  have place : coordinates (somePoint.entryAt []) 0 = ![1, 2, 3] := by
    simp [coordinates, somePoint, entryAt_ofRow]
  have onAxis :
      coordinates (somePoint.entryAt []) 0 =
        offCenter.vectorAt [] + (3 / 2 : ℝ) • longAxis.vectorAt [] := by
    rw [place]
    ext coordinate
    fin_cases coordinate <;> simp [Triple.vectorAt, longAxis, offCenter]
  refine turns.mono (fun _ => Limits.hasRoomWithin_usual (by decide)) ?_
  rintro ⟨direct, back⟩ held
  exact ⟨held.coincides, (held.fixed rfl [] .nil (3 / 2) onAxis).trans place⟩

end Compute

end Versor

end
