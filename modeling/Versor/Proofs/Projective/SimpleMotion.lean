import Versor.Proofs.Projective.Conjugation
import Versor.Proofs.Projective.Construction

/-!
# Turns and shifts

The slots of a rotor and of a translator say what it does.  A rotor whose axis is
a unit vector turns by the right-hand rule, by twice the angle whose cosine and
sine it stores (`turned`), and a translator shifts by its distance along its
direction, whatever their lengths are.  Points, directions, planes and lines are
moved by the one turn or shift (`Compute.transform_simple`), though each type has
an order and signs of its own for its coordinates.
-/

noncomputable section

namespace Versor

open Compute Matrix Reference

/--
A direction turned about an axis, by twice the angle with a cosine and a sine.
For a unit axis this is the formula of Rodrigues.
-/
def turned
    (cosine sine : ℝ)
    (axis direction : Fin 3 → ℝ) :
    Fin 3 → ℝ :=
  direction + (2 * cosine * sine) • axis ⨯₃ direction +
    (2 * sine ^ 2) • axis ⨯₃ (axis ⨯₃ direction)

/-! ## The motions of rotors and translators -/

namespace Even

variable (slots : Nat → ℝ)

theorem norm_rotor :
    (rotor slots).norm =
      slots 0 ^ 2 + slots 1 ^ 2 * (coordinates slots 2 ⬝ᵥ coordinates slots 2) := by
  simp [rotor, norm, coordinates, dotProduct, Fin.sum_univ_three]
  ring

/-- The matrix of a rotor turns what the norm scales. -/
theorem rotation_rotor
    (direction : Fin 3 → ℝ) :
    (rotor slots).rotation *ᵥ direction =
      (rotor slots).norm • direction +
        (2 * slots 0 * slots 1) • coordinates slots 2 ⨯₃ direction +
        (2 * slots 1 ^ 2) • coordinates slots 2 ⨯₃ (coordinates slots 2 ⨯₃ direction) := by
  rw [rotation_mulVec]
  ext place
  simp only [Pi.add_apply, Pi.smul_apply, smul_eq_mul]
  fin_cases place <;> simp [rotor, norm, coordinates, cross_apply] <;> ring

@[simp]
theorem norm_translator :
    (translator slots).norm = 1 := by
  simp [translator, norm]

@[simp]
theorem rotation_translator
    (direction : Fin 3 → ℝ) :
    (translator slots).rotation *ᵥ direction = direction := by
  rw [rotation_mulVec]
  ext place
  fin_cases place <;> simp [translator]

@[simp]
theorem shift_translator :
    (translator slots).shift = slots 0 • coordinates slots 1 := by
  ext place
  fin_cases place <;> simp [translator, shift, coordinates] <;> ring

variable {slots}

theorem norm_rotor_of_unit
    (angle : slots 0 ^ 2 + slots 1 ^ 2 = 1)
    (unit : coordinates slots 2 ⬝ᵥ coordinates slots 2 = 1) :
    (rotor slots).norm = 1 := by
  rw [norm_rotor, unit, mul_one, angle]

/-- A rotor with a unit axis turns about it. -/
theorem rotation_rotor_of_unit
    (angle : slots 0 ^ 2 + slots 1 ^ 2 = 1)
    (unit : coordinates slots 2 ⬝ᵥ coordinates slots 2 = 1)
    (direction : Fin 3 → ℝ) :
    (rotor slots).rotation *ᵥ direction =
      turned (slots 0) (slots 1) (coordinates slots 2) direction := by
  rw [rotation_rotor, norm_rotor_of_unit angle unit, one_smul, turned]

end Even

/-! ## What becomes of the slots -/

namespace Layout

/-- What a turn of directions makes of the slots of a primitive. -/
inductive IsTurned
    (turn : (Fin 3 → ℝ) → Fin 3 → ℝ)
    (slots moved : Nat → ℝ) :
    Layout → Prop
  | point
    (position : coordinates moved 0 = turn (coordinates slots 0)) :
    IsTurned turn slots moved .point
  | vector
    (direction : coordinates moved 0 = turn (coordinates slots 0)) :
    IsTurned turn slots moved .vector
  | plane
    (distance : moved 0 = slots 0)
    (normal : coordinates moved 1 = turn (coordinates slots 1)) :
    IsTurned turn slots moved .plane
  | line
    (direction : coordinates moved 0 = turn (coordinates slots 0))
    (moment : coordinates moved 3 = turn (coordinates slots 3)) :
    IsTurned turn slots moved .line

/-- What a shift of places makes of the slots of a primitive. -/
inductive IsShifted
    (shift : Fin 3 → ℝ)
    (slots moved : Nat → ℝ) :
    Layout → Prop
  | point
    (position : coordinates moved 0 = coordinates slots 0 + shift) :
    IsShifted shift slots moved .point
  | vector
    (direction : coordinates moved 0 = coordinates slots 0) :
    IsShifted shift slots moved .vector
  | plane
    (distance : moved 0 = slots 0 - coordinates slots 1 ⬝ᵥ shift)
    (normal : coordinates moved 1 = coordinates slots 1) :
    IsShifted shift slots moved .plane
  | line
    (direction : coordinates moved 0 = coordinates slots 0)
    (moment :
      coordinates moved 3 = coordinates slots 3 + shift ⨯₃ coordinates slots 0) :
    IsShifted shift slots moved .line

variable
  {motion : RigidMotion}
  {slots moved : Nat → ℝ}
  {layout : Layout}

/-- A motion that leaves the origin turns. -/
theorem isTurned_of_moves
    {turn : (Fin 3 → ℝ) → Fin 3 → ℝ}
    (rotation : ∀ direction, motion.rotation *ᵥ direction = turn direction)
    (stays : motion.shift = 0)
    (moves : motion.Moves slots moved layout) :
    layout.IsTurned turn slots moved := by
  cases moves with
  | point position => exact .point (by rw [position, rotation, stays, add_zero])
  | vector direction => exact .vector (by rw [direction, rotation])
  | plane normal distance =>
      refine .plane ?_ (by rw [normal, rotation])
      rw [distance, stays, dotProduct_zero, sub_zero]
  | line direction moment =>
      refine .line (by rw [direction, rotation]) ?_
      rw [moment, rotation, stays, map_zero, LinearMap.zero_apply, add_zero]

/-- A motion that leaves directions as they are shifts. -/
theorem isShifted_of_moves
    (rotation : ∀ direction, motion.rotation *ᵥ direction = direction)
    (moves : motion.Moves slots moved layout) :
    layout.IsShifted motion.shift slots moved := by
  cases moves with
  | point position => exact .point (by rw [position, rotation])
  | vector direction => exact .vector (by rw [direction, rotation])
  | plane normal distance =>
      exact .plane (by rw [distance, rotation]) (by rw [normal, rotation])
  | line direction moment =>
      exact .line (by rw [direction, rotation]) (by rw [moment, rotation, rotation])

end Layout

/-! ## Transforming by rotors and translators -/

namespace Compute

open Entity

variable
  {context : Context ℝ}
  {motor entity : Entity ℝ}
  {batch : List Nat}

/-- A rotor or a translator moves a primitive where its norm is one. -/
theorem transform_moves_simple
    (reached : context.IsReached)
    (isSimple : motor.layout.IsSimpleMotor)
    (isPrimitive : entity.layout.IsPrimitive)
    (operands : AreOperands context [motor, entity])
    (broadcast : Tensor.commonShape [motor.batchShape, entity.batchShape] = .ok batch) :
    (transform motor entity).Gives (context.limits.HasRoom batch) context fun moved =>
      moved.layout = entity.layout ∧ moved.batchShape = batch ∧
        ∀ index, Tensor.IsIndex batch index →
          ∀ normalized : (motor.even index).norm = 1,
            (Even.motion normalized).Moves (entity.entryAt index) (moved.entryAt index)
              entity.layout := by
  refine (ensures_transform reached.isReady isSimple.isMotor isPrimitive.isMoved operands
    fun room => ⟨batch, broadcast, room⟩).gives fun moved behind made => ?_
  have sameBatch := made.batchShape_eq broadcast
  refine ⟨made.layout_eq, sameBatch, fun index isIndex normalized => ?_⟩
  exact
    made.moves isPrimitive (sameBatch ▸ .refl _) isIndex normalized
      (isSimple.twist_even (motor.entryAt index)) (valueAt_eq entity index)

/--
Rotors turn primitives about their axis, and translators shift them by their
distance along their direction.
-/
theorem transform_simple
    (reached : context.IsReached)
    (isPrimitive : entity.layout.IsPrimitive)
    (operands : AreOperands context [motor, entity])
    (broadcast : Tensor.commonShape [motor.batchShape, entity.batchShape] = .ok batch) :
    (motor.layout = .rotor →
        (transform motor entity).Gives (context.limits.HasRoom batch) context fun moved =>
          moved.layout = entity.layout ∧ moved.batchShape = batch ∧
            ∀ index, Tensor.IsIndex batch index →
              motor.entryAt index 0 ^ 2 + motor.entryAt index 1 ^ 2 = 1 →
              coordinates (motor.entryAt index) 2 ⬝ᵥ coordinates (motor.entryAt index) 2 = 1 →
              entity.layout.IsTurned
                (turned (motor.entryAt index 0) (motor.entryAt index 1)
                  (coordinates (motor.entryAt index) 2))
                (entity.entryAt index) (moved.entryAt index)) ∧
      (motor.layout = .translator →
        (transform motor entity).Gives (context.limits.HasRoom batch) context fun moved =>
          moved.layout = entity.layout ∧ moved.batchShape = batch ∧
            ∀ index, Tensor.IsIndex batch index →
              entity.layout.IsShifted
                (motor.entryAt index 0 • coordinates (motor.entryAt index) 1)
                (entity.entryAt index) (moved.entryAt index)) := by
  have moves (isSimple : motor.layout.IsSimpleMotor) :=
    transform_moves_simple reached isSimple isPrimitive operands broadcast
  constructor
  · intro isRotor
    refine (moves (isRotor ▸ .rotor)).mono id fun moved held => ?_
    rcases held with ⟨sameLayout, sameBatch, movesAt⟩
    refine ⟨sameLayout, sameBatch, ?_⟩
    intro index isIndex angle unit
    have evenAt : motor.even index = .rotor (motor.entryAt index) := by
      rw [Entity.even, isRotor, Layout.even]
    have normalized : (motor.even index).norm = 1 := by
      rw [evenAt, Even.norm_rotor_of_unit angle unit]
    refine Layout.isTurned_of_moves ?_ ?_ (movesAt index isIndex normalized)
    · intro direction
      rw [Even.motion_rotation, evenAt, Even.rotation_rotor_of_unit angle unit]
    · rw [Even.motion_shift, evenAt, Even.shift_rotor]
  · intro isTranslator
    refine (moves (isTranslator ▸ .translator)).mono id fun moved held => ?_
    rcases held with ⟨sameLayout, sameBatch, movesAt⟩
    refine ⟨sameLayout, sameBatch, ?_⟩
    intro index isIndex
    have evenAt : motor.even index = .translator (motor.entryAt index) := by
      rw [Entity.even, isTranslator, Layout.even]
    have normalized : (motor.even index).norm = 1 := by
      rw [evenAt, Even.norm_translator]
    have shift : (Even.motion normalized).shift =
        motor.entryAt index 0 • coordinates (motor.entryAt index) 1 := by
      rw [Even.motion_shift, evenAt, Even.shift_translator]
    rw [← shift]
    refine Layout.isShifted_of_moves ?_ (movesAt index isIndex normalized)
    intro direction
    rw [Even.motion_rotation, evenAt, Even.rotation_translator]

/-! ## A turn and a shift of a point -/

/-- A turn about the third axis, by twice the angle with the cosine 5/13. -/
def obliqueTurn : Entity ℝ :=
  .ofRow 0 .rotor 0 [5 / 13, 12 / 13, 0, 0, 1]

/-- A point is turned from the first axis towards the second one, then shifted along the first. -/
theorem transform_simple_somePoint :
    (transform obliqueTurn somePoint).Gives True (.start 3) (fun moved =>
      coordinates (moved.entryAt []) 0 = ![-359 / 169, -118 / 169, 3]) ∧
      (transform firstShift somePoint).Gives True (.start 3) fun moved =>
        coordinates (moved.entryAt []) 0 = ![3, 2, 3] := by
  have isPoint : somePoint.layout.IsPrimitive := .point
  have operands : AreOperands (.start 3) [obliqueTurn, firstShift, somePoint] :=
    .of_nodup (by decide) (by decide)
  have turn :=
    (transform_simple (Context.isReached_start 3) isPoint (operands.subset (by simp)) rfl).1
      (rfl : obliqueTurn.layout = .rotor)
  have shift :=
    (transform_simple (Context.isReached_start 3) isPoint (operands.subset (by simp)) rfl).2
      (rfl : firstShift.layout = .translator)
  constructor
  · refine turn.mono (fun _ => Limits.hasRoom_usual (by decide)) fun moved held => ?_
    rcases held with ⟨_, _, turnedAt⟩
    have angle : obliqueTurn.entryAt [] 0 ^ 2 + obliqueTurn.entryAt [] 1 ^ 2 = 1 := by
      simp [obliqueTurn, entryAt_ofRow]
      norm_num
    have unit :
        coordinates (obliqueTurn.entryAt []) 2 ⬝ᵥ coordinates (obliqueTurn.entryAt []) 2 = 1 := by
      simp [coordinates, obliqueTurn, entryAt_ofRow]
    cases turnedAt [] .nil angle unit with | point position =>
    rw [position]
    ext place
    fin_cases place <;>
      simp [turned, coordinates, obliqueTurn, somePoint, entryAt_ofRow, cross_apply] <;> norm_num
  · refine shift.mono (fun _ => Limits.hasRoom_usual (by decide)) fun moved held => ?_
    rcases held with ⟨_, _, shiftedAt⟩
    cases shiftedAt [] .nil with | point position =>
    rw [position]
    ext place
    fin_cases place <;> simp [coordinates, firstShift, somePoint, entryAt_ofRow]
    norm_num

end Compute

end Versor

end
