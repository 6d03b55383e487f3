import Versor.Proofs.Projective.MotorGroup
import Versor.Proofs.Projective.RigidMotion

/-!
# Moving motors

A motor that is moved by another one moves points as moving back, moving and
moving forth again does (`Compute.transform_conjugates`).  Translators and
motors are read back from the sandwich without loss.  A rotor is a turn about
an axis through the origin, and what is read back is the turn alone; so a point
misses what the turn does to the place to which the origin is moved.
-/

noncomputable section

namespace Versor

open Compute Matrix Reference

variable {limits : Limits}

/-! ## Conjugates -/

namespace Even

section Products

variable {Number : Type} [CommRing Number] {motor : Even Number}

theorem sandwichEven_eq
    (even : Even Number) :
    motor.sandwichEven even = motor * even * motor.reverse :=
  rfl

/-- A unit motor behind what it conjugates is in front of what is conjugated. -/
theorem sandwichEven_mul
    (isUnit : motor.norm = 1 ∧ motor.twist = 0)
    (even : Even Number) :
    motor.sandwichEven even * motor = motor * even := by
  have inverse : motor.reverse * motor = 1 := by
    rw [reverse_mul_self, mul_reverse, isUnit.1, isUnit.2]
    rfl
  rw [sandwichEven_eq, mul_assoc, inverse, mul_one]

theorem norm_sandwichEven
    (normalized : motor.norm = 1)
    (even : Even Number) :
    (motor.sandwichEven even).norm = even.norm := by
  rw [sandwichEven_eq, norm_mul, norm_mul, norm_reverse, normalized, one_mul, mul_one]

/-- The part that turns about the origin. -/
def turn
    (even : Even Number) :
    Even Number :=
  { even with e01 := 0, e02 := 0, e03 := 0, e0123 := 0 }

@[simp]
theorem norm_turn
    (even : Even Number) :
    even.turn.norm = even.norm :=
  rfl

theorem turn_reverse
    (even : Even Number) :
    even.reverse.turn = even.turn.reverse := by
  simp [turn, reverse]

theorem turn_mul
    (left right : Even Number) :
    (left * right).turn = left.turn * right.turn := by
  ext <;> simp [mul_def, mul, turn]

/-- An even element that shifts and does not turn. -/
structure IsShift
    (even : Even Number) :
    Prop where
  turn : even.turn = 1
  e0123 : even.e0123 = 0

/-- The conjugate of a shift by a unit motor is a shift. -/
theorem IsShift.sandwichEven
    (isUnit : motor.norm = 1 ∧ motor.twist = 0)
    {even : Even Number}
    (isShift : even.IsShift) :
    (motor.sandwichEven even).IsShift where
  turn := by
    rw [sandwichEven_eq, turn_mul, turn_mul, isShift.turn, mul_one, turn_reverse, mul_reverse,
      norm_turn, isUnit.1]
    ext <;> simp [twist, Even.turn]
    all_goals rfl
  e0123 := by
    have scalar : even.scalar = 1 := congrArg Even.scalar isShift.turn
    have e12 : even.e12 = 0 := congrArg Even.e12 isShift.turn
    have e13 : even.e13 = 0 := congrArg Even.e13 isShift.turn
    have e23 : even.e23 = 0 := congrArg Even.e23 isShift.turn
    rw [← isUnit.2]
    simp only [Even.sandwichEven, mul, reverse, twist, scalar, e12, e13, e23, isShift.e0123]
    ring

end Products

variable (left right : Even ℝ)

@[simp]
theorem rotation_turn :
    left.turn.rotation = left.rotation :=
  rfl

@[simp]
theorem shift_turn :
    left.turn.shift = 0 := by
  ext place
  fin_cases place <;> simp [shift, turn]

@[simp]
theorem shift_rotor
    (slots : Nat → ℝ) :
    (rotor slots).shift = 0 :=
  shift_turn (rotor slots)

/-- A product moves the origin by the right factor and then as the left one moves places. -/
theorem shift_mul :
    (left * right).shift = left.rotation *ᵥ right.shift + right.norm • left.shift := by
  rw [rotation_mulVec]
  ext place
  fin_cases place <;> simp [shift, mul_def, mul, norm] <;> ring

/-- Where the conjugate of a turn moves the origin. -/
theorem shift_sandwichEven
    {motor even : Even ℝ}
    (isUnit : motor.norm = 1 ∧ motor.twist = 0)
    (normalized : even.norm = 1)
    (turns : even.shift = 0) :
    (motor.sandwichEven even).shift =
      motor.shift - (motor.sandwichEven even).rotation *ᵥ motor.shift := by
  have moved := congrArg shift (sandwichEven_mul isUnit even)
  rw [shift_mul, shift_mul, turns, mulVec_zero, isUnit.1, normalized, one_smul, one_smul,
    zero_add] at moved
  exact eq_sub_of_add_eq' moved

end Even

namespace Layout

/-- What a motor type keeps of an even element: a rotor the turn, the others all of it. -/
def kept
    (layout : Layout)
    (even : Even ℝ) :
    Even ℝ :=
  if layout = .rotor then even.turn else even

@[simp]
theorem norm_kept
    (layout : Layout)
    (even : Even ℝ) :
    (layout.kept even).norm = even.norm := by
  rw [kept]
  split <;> rfl

theorem valueAt_read_rotor
    (even : Even ℝ) :
    rotor.valueAt (rotor.read even.element) = even.turn.element := by
  rw [valueAt_rotor, read_rotor]
  refine congrArg Even.element ?_
  ext <;> simp [Even.rotor, Even.turn]

theorem isShift_translator
    (slots : Nat → ℝ) :
    (Even.translator slots).IsShift :=
  ⟨rfl, rfl⟩

theorem valueAt_read_translator
    {even : Even ℝ}
    (isShift : even.IsShift) :
    translator.valueAt (translator.read even.element) = even.element := by
  have scalar : even.scalar = 1 := congrArg Even.scalar isShift.turn
  have e12 : even.e12 = 0 := congrArg Even.e12 isShift.turn
  have e13 : even.e13 = 0 := congrArg Even.e13 isShift.turn
  have e23 : even.e23 = 0 := congrArg Even.e23 isShift.turn
  rw [valueAt_translator, read_translator]
  refine congrArg Even.element ?_
  ext <;> simp [Even.translator, scalar, e12, e13, e23, isShift.e0123]

/-- A conjugate is read back as what its type keeps. -/
theorem valueAt_read_sandwichEven
    {layout : Layout}
    (isMotor : layout.IsMotor)
    {motor : Even ℝ}
    (isUnit : motor.norm = 1 ∧ motor.twist = 0)
    (slots : Nat → ℝ) :
    layout.valueAt (layout.read (motor.sandwichEven (layout.even slots)).element) =
      (layout.kept (motor.sandwichEven (layout.even slots))).element := by
  cases isMotor with
  | rotor => exact valueAt_read_rotor _
  | translator => exact valueAt_read_translator ((isShift_translator slots).sandwichEven isUnit)
  | motor => rw [valueAt_motor, motor_read]; rfl

end Layout

/-! ## Images of points -/

namespace Entity

/-- A translator is a unit motor, whatever its slots are. -/
theorem isUnit_of_translator
    {motor : Entity ℝ}
    (isTranslator : motor.layout = .translator) :
    motor.IsUnit :=
  isUnit_of_norm_twist (isTranslator ▸ .translator) fun index _ => by
    simp [even, isTranslator, Layout.even, Even.translator, Even.norm, Even.twist]

theorem isUnit_of_imp
    {motor : Entity ℝ}
    (isUnit : motor.layout ≠ .translator → motor.IsUnit) :
    motor.IsUnit := by
  by_cases isTranslator : motor.layout = .translator
  · exact isUnit_of_translator isTranslator
  · exact isUnit isTranslator

variable
  {motion : List Nat → Even ℝ}
  {target index : List Nat}
  {point moved other : Entity ℝ}

/-- The image of a point, which is divided by the norm of the motor. -/
theorem IsImage.norm_smul_position
    (image : point.IsImage motion target moved)
    (isPoint : point.layout = .point)
    (isIndex : Tensor.IsIndex target index) :
    (motion index).norm • coordinates (moved.entryAt index) 0 =
      (motion index).rotation *ᵥ coordinates (point.entryAt index) 0 + (motion index).shift := by
  have sandwiched := image.sandwich_eq index isIndex
  rw [isPoint, Layout.weight, if_pos rfl, valueAt_eq, valueAt_eq, image.layout_eq, isPoint,
    valueAt_point, valueAt_point, Even.sandwich_odd, ← Odd.element_scale,
    Odd.element_injective.eq_iff] at sandwiched
  exact (motion index).coordinates_point sandwiched

/-- The image of a point under a motor of norm one. -/
theorem IsImage.position
    (image : point.IsImage motion target moved)
    (isPoint : point.layout = .point)
    (isIndex : Tensor.IsIndex target index)
    (normalized : (motion index).norm = 1) :
    coordinates (moved.entryAt index) 0 =
      (motion index).rotation *ᵥ coordinates (point.entryAt index) 0 + (motion index).shift := by
  rw [← image.norm_smul_position isPoint isIndex, normalized, one_smul]

/-- Points with the same coordinates coincide. -/
theorem Coincides.of_coordinates
    (isPoint : moved.layout = .point)
    (otherIsPoint : other.layout = .point)
    (same :
      ∀ index, Tensor.IsIndex target index →
        coordinates (moved.entryAt index) 0 = coordinates (other.entryAt index) 0) :
    moved.Coincides target other where
  layout_eq := isPoint.trans otherIsPoint.symm
  entryAt_eq index isIndex slot below := by
    have places := same index isIndex
    rw [isPoint] at below
    change slot < 3 at below
    interval_cases slot
    · exact congrFun places 0
    · exact congrFun places 1
    · exact congrFun places 2

theorem Coincides.position
    (coincides : moved.Coincides target other)
    (isPoint : moved.layout = .point)
    (isIndex : Tensor.IsIndex target index) :
    coordinates (moved.entryAt index) 0 = coordinates (other.entryAt index) 0 := by
  have entries := coincides.entryAt_eq index isIndex
  rw [isPoint] at entries
  rw [coordinates, coordinates, entries 0 (by decide), entries (0 + 1) (by decide),
    entries (0 + 2) (by decide)]

end Entity

/-! ## Moving by what is moved -/

namespace Compute

open Entity

/-- Move a point by a moved motor, and move it back, by the motor itself and forth again. -/
def conjugateBothWays
    (motor other point : Entity ℝ) :
    Compute ℝ (Entity ℝ × Entity ℝ) := do
  let moved ← transform motor other
  let direct ← transform moved point
  let reversed ← reverse motor
  let back ← transform reversed point
  let turned ← transform other back
  let last ← transform motor turned
  return (direct, last)

/--
A point that is moved by a moved motor, and one that is moved back, by the
motor itself and forth again.  They differ if a rotor has been moved off its
axis, by where the origin goes less what the rotor makes of that place.
-/
structure Conjugated
    (batch : List Nat)
    (motor other direct last : Entity ℝ) :
    Prop where
  directLayout : direct.layout = .point
  lastLayout : last.layout = .point
  directBatch : direct.batchShape = batch
  lastBatch : last.batchShape = batch
  coincides : (other.layout = .rotor → motor.layout = .rotor) → direct.Coincides batch last
  misses :
    other.layout = .rotor →
      ∀ index, Tensor.IsIndex batch index →
        coordinates (last.entryAt index) 0 =
          coordinates (direct.entryAt index) 0 +
            ((motor.even index).shift -
              ((motor.even index).sandwichEven (other.even index)).rotation *ᵥ
                (motor.even index).shift)

section Conjugates

variable
  {motor other point moved direct last : Entity ℝ}
  {batch : List Nat}
  (isMotor : motor.layout.IsMotor)
  (otherIsMotor : other.layout.IsMotor)
  (isPoint : point.layout = .point)
  (isUnit : motor.IsUnit)
  (otherIsUnit : other.IsUnit)

include isMotor otherIsMotor isUnit

/-- A moved motor is what its type keeps of the conjugate. -/
theorem Made.even_eq_kept
    {context behind : Context ℝ}
    {shapes : List (List Nat)}
    (made :
      Made context other.layout shapes
        (fun index => sandwich (motor.even index).element (other.valueAt index)) moved behind)
    {target index : List Nat}
    (motorReaches : Tensor.Stretches motor.batchShape target)
    (reaches : Tensor.Stretches moved.batchShape target)
    (isIndex : Tensor.IsIndex target index) :
    moved.even index =
      other.layout.kept ((motor.even index).sandwichEven (other.even index)) := by
  refine Even.element_injective ?_
  rw [← valueAt_even (made.layout_eq ▸ otherIsMotor), made.valueAt_eq target reaches index isIndex,
    valueAt_even otherIsMotor, Even.sandwich_even]
  exact
    Layout.valueAt_read_sandwichEven otherIsMotor
      (isUnit.norm_twist isMotor motorReaches isIndex) _

include otherIsUnit in
theorem norm_sandwichEven_even
    {target index : List Nat}
    (motorReaches : Tensor.Stretches motor.batchShape target)
    (otherReaches : Tensor.Stretches other.batchShape target)
    (isIndex : Tensor.IsIndex target index) :
    ((motor.even index).sandwichEven (other.even index)).norm = 1 := by
  rw [Even.norm_sandwichEven (isUnit.norm_twist isMotor motorReaches isIndex).1,
    (otherIsUnit.norm_twist otherIsMotor otherReaches isIndex).1]

include isPoint otherIsUnit in
/-- Both images of a point, at the indices of any batch. -/
theorem conjugated_of_isImage
    (motorReaches : Tensor.Stretches motor.batchShape batch)
    (otherReaches : Tensor.Stretches other.batchShape batch)
    (directBatch : direct.batchShape = batch)
    (lastBatch : last.batchShape = batch)
    (directImage :
      point.IsImage
        (fun index => other.layout.kept ((motor.even index).sandwichEven (other.even index)))
        batch direct)
    (lastImage :
      point.IsImage (fun index => (motor.even index).sandwichEven (other.even index)) batch last) :
    Conjugated batch motor other direct last := by
  have unitAt {index : List Nat} (isIndex : Tensor.IsIndex batch index) :=
    isUnit.norm_twist isMotor motorReaches isIndex
  have normalized {index : List Nat} (isIndex : Tensor.IsIndex batch index) :=
    norm_sandwichEven_even isMotor otherIsMotor isUnit otherIsUnit motorReaches otherReaches isIndex
  have misses (isRotor : other.layout = .rotor) (index : List Nat)
      (isIndex : Tensor.IsIndex batch index) :
      coordinates (last.entryAt index) 0 =
        coordinates (direct.entryAt index) 0 +
          ((motor.even index).shift -
            ((motor.even index).sandwichEven (other.even index)).rotation *ᵥ
              (motor.even index).shift) := by
    have turns : (other.even index).shift = 0 := by
      rw [Entity.even, isRotor]
      exact Even.shift_rotor _
    have directAt := directImage.position isPoint isIndex
    simp only [Layout.kept, if_pos isRotor, Even.norm_turn, Even.rotation_turn, Even.shift_turn,
      add_zero] at directAt
    rw [lastImage.position isPoint isIndex (normalized isIndex), directAt (normalized isIndex),
      Even.shift_sandwichEven (unitAt isIndex)
        (otherIsUnit.norm_twist otherIsMotor otherReaches isIndex).1 turns]
  refine
    { directLayout := directImage.layout_eq.trans isPoint
      lastLayout := lastImage.layout_eq.trans isPoint
      directBatch := directBatch
      lastBatch := lastBatch
      coincides := fun keeps => ?_
      misses := misses }
  by_cases isRotor : other.layout = .rotor
  · refine .of_coordinates (directImage.layout_eq.trans isPoint)
      (lastImage.layout_eq.trans isPoint) fun index isIndex => ?_
    have still : (motor.even index).shift = 0 := by
      rw [Entity.even, keeps isRotor]
      exact Even.shift_rotor _
    rw [misses isRotor index isIndex, still, mulVec_zero, sub_zero, add_zero]
  · simp only [Layout.kept, if_neg isRotor] at directImage
    exact
      directImage.coincides (isPoint ▸ .point) lastImage fun index isIndex =>
        Layout.weight_ne_zero (normalized isIndex)

include isPoint otherIsUnit in
theorem ensures_conjugateBothWays
    {certain : Prop}
    {context : Context ℝ}
    (ready : context.IsReady limits)
    (operands : AreOperands context [motor, other, point])
    (broadcast :
      Tensor.commonShape [motor.batchShape, other.batchShape, point.batchShape] = .ok batch)
    (room : certain → limits.HasRoomWithin batch)
    (few :
      certain →
        other.layout = .motor ∨
          ∀ shape, Tensor.commonShape [motor.batchShape, other.batchShape] = .ok shape →
            shape.length < Tensor.maxGatheredDimensions)
    (motorFew :
      certain → motor.layout = .motor ∨ motor.batchShape.length < Tensor.maxGatheredDimensions) :
    (conjugateBothWays motor other point).Ensures limits certain context fun (direct, last) _ =>
      Conjugated batch motor other direct last := by
  have stretch := Tensor.stretches_of_commonShape broadcast
  have batchReaches := Tensor.stretches_iff_of_commonShape broadcast
  have motorReaches := stretch _ (.head _)
  have otherReaches := stretch _ (.tail _ (.head _))
  have pointReaches := stretch _ (.tail _ (.tail _ (.head _)))
  have unitAt {index : List Nat} (isIndex : Tensor.IsIndex batch index) :=
    isUnit.norm_twist isMotor motorReaches isIndex
  have isMoved : point.layout.IsMoved := isPoint ▸ .point
  have roomFor {shapes : List (List Nat)}
      (reach : ∀ shape ∈ shapes, Tensor.Stretches shape batch) (isCertain : certain) :
      limits.HaveCommonRoom shapes :=
    (room isCertain).common reach
  refine (ensures_transformAs ready isMotor (otherIsMotor.isTarget few)
    (operands.subset (by simp)) (roomFor (by simp [motorReaches, otherReaches]))).bind
      fun moved between isReady free movedMade => ?_
  have movedReaches := Tensor.stretches_iff_of_commonShape movedMade.broadcast
  have movedToBatch : Tensor.Stretches moved.batchShape batch :=
    (movedReaches batch).2 (by simp [motorReaches, otherReaches])
  have movedEven {index : List Nat} (isIndex : Tensor.IsIndex batch index) :=
    movedMade.even_eq_kept isMotor otherIsMotor isUnit motorReaches movedToBatch isIndex
  have movedPair : AreOperands between [moved, point] :=
    AreOperands.cons (.singleton (operands.each point (by simp))) free movedMade.isNew
      movedMade.isOperand
  refine (ensures_transform isReady (movedMade.layout_eq ▸ otherIsMotor) isMoved movedPair
    (roomFor (by simp [movedToBatch, pointReaches]))).bind
      fun direct middle isReady more directMade => ?_
  have directReaches := Tensor.stretches_iff_of_commonShape directMade.broadcast
  have directToBatch : Tensor.Stretches direct.batchShape batch :=
    (directReaches batch).2 (by simp [movedToBatch, pointReaches])
  have directImage :
      point.IsImage
        (fun index => other.layout.kept ((motor.even index).sandwichEven (other.even index)))
        batch direct := by
    refine (directMade.isImage isMoved directToBatch fun index isIndex => ?_).congr
      fun index isIndex => movedEven isIndex
    refine Layout.weight_ne_zero ?_
    rw [movedEven isIndex, Layout.norm_kept]
    exact
      norm_sandwichEven_even isMotor otherIsMotor isUnit otherIsUnit motorReaches otherReaches
        isIndex
  have later := (operands.later free).later more
  refine (ensures_reverse isReady (isMotor.isTarget motorFew)
    (later.each motor (.head _)) fun isCertain => room isCertain _ motorReaches).bind
      fun reversed fourth isReady toFourth reversedMade => ?_
  have reversedReaches := Tensor.stretches_iff_of_commonShape reversedMade.broadcast
  have reversedToBatch : Tensor.Stretches reversed.batchShape batch :=
    (reversedReaches batch).2 (by simp [motorReaches])
  have reverses {index : List Nat} (isIndex : Tensor.IsIndex batch index) :=
    reversedMade.even_eq_reverse reversedToBatch isIndex isMotor
  have areMotors : ∀ factor ∈ [motor, other, reversed], factor.layout.IsMotor := by
    simp [isMotor, otherIsMotor, reversedMade.layout_eq]
  have all : AreOperands fourth (point :: ([motor, other, reversed] ++ [])) :=
    (later.cons toFourth reversedMade.isNew reversedMade.isOperand).subset (by simp)
  have allReach :
      ∀ shape ∈ point.batchShape :: [motor, other, reversed].map Entity.batchShape,
        Tensor.Stretches shape batch := by
    simp [motorReaches, otherReaches, pointReaches, reversedToBatch]
  have stepwise :
      (do
          let back ← transform reversed point
          let turned ← transform other back
          let last ← transform motor turned
          return (direct, last) : Compute ℝ (Entity ℝ × Entity ℝ)) =
        [motor, other, reversed].foldrM transform point >>= fun last => pure (direct, last) := by
    simp [List.foldrM_cons]
  rw [stepwise]
  refine (ensures_foldr_transform room isMoved isReady areMotors all allReach ?_).bind
    fun last behind isReady _ lastMoved => .pure isReady ?_
  · have unit (factor : Entity ℝ) (member : factor ∈ [motor, other, reversed]) (index : List Nat)
        (isIndex : Tensor.IsIndex batch index) : (factor.even index).norm = 1 := by
      simp only [List.mem_cons, List.not_mem_nil, or_false] at member
      rcases member with rfl | rfl | rfl
      · exact (unitAt isIndex).1
      · exact (otherIsUnit.norm_twist otherIsMotor otherReaches isIndex).1
      · rw [reverses isIndex, Even.norm_reverse, (unitAt isIndex).1]
    exact fun factor member index isIndex =>
      Layout.weight_ne_zero (unit factor member index isIndex)
  · refine
      conjugated_of_isImage isMotor otherIsMotor isPoint isUnit otherIsUnit motorReaches
        otherReaches ?_ ?_ directImage (lastMoved.image.congr fun index isIndex => ?_)
    · refine Tensor.eq_of_stretches_iff fun target => ?_
      rw [directReaches, batchReaches]
      simp [movedReaches, and_assoc]
    · refine Tensor.eq_of_stretches_iff fun target => ?_
      rw [lastMoved.broadcast, batchReaches]
      simp [reversedReaches]
      tauto
    · simp [reverses isIndex, Even.sandwichEven_eq, mul_assoc]

end Conjugates

/--
Transforming a motor conjugates it: the moved motor moves points as moving
back, by the motor itself and forth again does.  Only a rotor that is moved off
the origin is not read back with all of it.
-/
theorem transform_conjugates
    {context : Context ℝ}
    {motor other point : Entity ℝ}
    {batch : List Nat}
    (reached : context.IsReached)
    (isMotor : motor.layout.IsMotor)
    (otherIsMotor : other.layout.IsMotor)
    (isPoint : point.layout = .point)
    (isUnit : motor.layout ≠ .translator → motor.IsUnit)
    (otherIsUnit : other.layout ≠ .translator → other.IsUnit)
    (operands : AreOperands context [motor, other, point])
    (broadcast :
      Tensor.commonShape [motor.batchShape, other.batchShape, point.batchShape] = .ok batch) :
    (conjugateBothWays motor other point).Gives
      (context.limits.HasRoomWithin batch ∧
        (other.layout = .motor ∨
          ∀ shape, Tensor.commonShape [motor.batchShape, other.batchShape] = .ok shape →
            shape.length < Tensor.maxGatheredDimensions) ∧
        (motor.layout = .motor ∨ motor.batchShape.length < Tensor.maxGatheredDimensions))
      context fun (direct, last) => Conjugated batch motor other direct last :=
    (ensures_conjugateBothWays isMotor otherIsMotor isPoint (isUnit_of_imp isUnit)
      (isUnit_of_imp otherIsUnit) reached.isReady operands broadcast And.left
      (fun isCertain => isCertain.2.1) fun isCertain => isCertain.2.2).gives fun _ _ held => held

/-! ## A screw and a half turn that are shifted -/

/-- A screw that is shifted moves a point as it does between shifting back and forth. -/
theorem transform_conjugates_screw :
    (conjugateBothWays firstShift screw somePoint).Gives True (.start 3) fun (direct, last) =>
      Conjugated [] firstShift screw direct last := by
  have areOperands : ∀ entity ∈ [firstShift, screw, somePoint], entity.IsOperand (.start 3) :=
    List.forall_mem_cons.2
      ⟨isOperand_ofRow Layout.IsMotor.translator.isProjective rfl (by decide),
        List.forall_mem_cons.2
          ⟨isOperand_ofRow Layout.IsMotor.motor.isProjective rfl (by decide),
            List.forall_mem_singleton.2
              (isOperand_ofRow Layout.IsMoved.point.isProjective rfl (by decide))⟩⟩
  have conjugates :=
    transform_conjugates (Context.isReached_start 3) (.translator : firstShift.layout.IsMotor)
      (.motor : screw.layout.IsMotor) (rfl : somePoint.layout = .point)
      (fun notTranslator => absurd rfl notTranslator) (fun _ => isUnit_screw)
      (.of_nodup (by decide) areOperands) rfl
  have room : Limits.usual.HasRoomWithin [] := Limits.hasRoomWithin_usual (by decide)
  exact
    ⟨fun _ => conjugates.succeeds ⟨room, .inl rfl, .inr (by decide)⟩, conjugates.holds⟩

theorem even_halfTurn
    (index : List Nat) :
    halfTurn.even index = ⟨0, 0, 0, 0, -1, 0, 0, 0⟩ := by
  rw [halfTurn, even_ofRow _ _ _ _ (Nat.zero_le _)]
  simp [Layout.even, Even.rotor]

theorem even_firstShift
    (index : List Nat) :
    firstShift.even index = ⟨1, -1, 0, 0, 0, 0, 0, 0⟩ := by
  rw [firstShift, even_ofRow _ _ _ _ (Nat.zero_le _)]
  simp [Layout.even, Even.translator]

theorem isUnit_halfTurn :
    halfTurn.IsUnit :=
  isUnit_of_norm_twist .rotor fun index _ => by
    simp [even_halfTurn, Even.norm, Even.twist]

/-- A rotor over too many dimensions is not moved. -/
theorem transform_rotor_of_many
    {context : Context ℝ}
    (ready : context.IsReady limits)
    {motor turn : Entity ℝ}
    (isRotor : turn.layout = .rotor)
    (operands : AreOperands context [motor, turn])
    (room : limits.HaveCommonRoom [motor.batchShape, turn.batchShape])
    (many : Tensor.maxGatheredDimensions ≤ turn.batchShape.length) :
    (outcome (transform motor turn) context).1 = .error .tooManyDimensions := by
  rw [transform, isRotor]
  refine (ensures_call ready operands (fun _ : True => room) .sandwich
    (LibraryFunction.isOver .sandwich)).bind_error fun source between isReady _ called => ?_
  have turnReaches : Tensor.Stretches turn.batchShape source.batchShape :=
    Tensor.stretches_of_commonShape called.broadcast _ (by simp)
  have roomForSource : limits.HasRoom source.batchShape := room.hasRoom called.broadcast
  refine (ensures_selectBlades isReady called.represents (fun _ => roomForSource)
    (by decide)).bind_error fun values middle _ _ selected => ?_
  exact
    rotorFrom_of_many (selected.1 called.isNew.floating) selected.2
      (many.trans turnReaches.length_le)

theorem isUnit_deepHalfTurn :
    deepHalfTurn.IsUnit := by
  refine isUnit_of_norm_twist .rotor fun index isIndex => ?_
  have many : 64 ≤ index.length := by
    rw [isIndex.length_eq, deepHalfTurn, batchShape_ofRow, List.length_replicate]
  have turn : deepHalfTurn.even index = ⟨0, 0, 0, 0, -1, 0, 0, 0⟩ := by
    rw [deepHalfTurn, even_ofRow _ _ _ _ many]
    simp [Layout.even, Even.rotor]
  simp [turn, Even.norm, Even.twist]

/--
A half turn about an axis through the origin is still one if it is shifted, and
not the half turn about the shifted axis.  Over many dimensions a moved rotor
cannot be computed.
-/
theorem transform_rotor_misses :
    (halfTurn.IsUnit ∧ AreOperands (.start 3) [firstShift, halfTurn, somePoint] ∧
      (conjugateBothWays firstShift halfTurn somePoint).Gives True (.start 3)
        fun (direct, last) => ¬ direct.Coincides [] last) ∧
      deepHalfTurn.IsUnit ∧ AreOperands (.start 3) [deepHalfTurn, deepHalfTurn, somePoint] ∧
        Limits.usual.HasRoomWithin deepHalfTurn.batchShape ∧
        (outcome (conjugateBothWays deepHalfTurn deepHalfTurn somePoint) (.start 3)).1 =
          .error .tooManyDimensions := by
  have ready := (Context.isReached_start 3 : (Context.start 3 : Context ℝ).IsReached).isReady
  have pointOperand : somePoint.IsOperand (.start 3) :=
    isOperand_ofRow Layout.IsMoved.point.isProjective rfl (by decide)
  have shifted : AreOperands (.start 3) [firstShift, halfTurn, somePoint] :=
    .of_nodup (by decide)
      (List.forall_mem_cons.2
        ⟨isOperand_ofRow Layout.IsMotor.translator.isProjective rfl (by decide),
          List.forall_mem_cons.2
            ⟨isOperand_ofRow Layout.IsMotor.rotor.isProjective rfl (by decide),
              List.forall_mem_singleton.2 pointOperand⟩⟩)
  have deep : AreOperands (.start 3) [deepHalfTurn, somePoint] :=
    .of_nodup (by decide)
      (List.forall_mem_cons.2
        ⟨isOperand_ofRow Layout.IsMotor.rotor.isProjective rfl (by decide),
          List.forall_mem_singleton.2 pointOperand⟩)
  have room : Limits.usual.HasRoomWithin [] := Limits.hasRoomWithin_usual (by decide)
  have batchShape : deepHalfTurn.batchShape = List.replicate 64 1 := batchShape_ofRow 0 .rotor 64 _
  have deepRoom : Limits.usual.HasRoomWithin deepHalfTurn.batchShape :=
    batchShape ▸ Limits.hasRoomWithin_usual (by decide)
  refine
    ⟨⟨isUnit_halfTurn, shifted, ?_⟩, isUnit_deepHalfTurn, deep.subset (by simp), deepRoom, ?_⟩
  · refine
      (ensures_conjugateBothWays .translator .rotor rfl (isUnit_of_translator rfl) isUnit_halfTurn
        ready shifted rfl (fun _ => room) (fun _ => .inr fun shape found => ?_)
        fun _ => .inr (by decide)).gives fun ⟨direct, last⟩ behind conjugated coincides => ?_
    · cases found
      decide
    · have missed := congrFun (conjugated.misses rfl [] .nil) 0
      have same : direct.entryAt [] 0 = last.entryAt [] 0 :=
        coincides.entryAt_eq [] .nil 0 (conjugated.directLayout ▸ by decide)
      rw [even_firstShift, even_halfTurn, Even.rotation_mulVec] at missed
      simp [coordinates, same, Even.shift, Even.sandwichEven, Even.mul, Even.reverse] at missed
  · exact
      outcome_bind_of_error
        (transform_rotor_of_many ready rfl (deep.subset (by simp))
          (deepRoom.common (by simp [Tensor.Stretches.refl]))
          (by rw [batchShape, List.length_replicate]; exact le_rfl))

end Compute

end Versor

end
