import Versor.Proofs.Projective.Incidence
import Versor.Proofs.Projective.Restriction

/-!
# Nothing is lost in a transformation

An entity that is transformed is read back as an entity of its own type.  The
sandwich with a motor has no part outside the blades of that type, whether the
motor is normalized or not (`Layout.partOn_sandwich`), so nothing of it is lost
(`Compute.transform_sandwich`); a point is divided by the norm of the motor,
which is the weight that the sandwich gives it.
-/

noncomputable section

namespace Versor

open Compute Entity Reference

/-! ## The sandwich of a type -/

namespace Odd

/-- A place has no part outside the blades of a point. -/
theorem partOn_ofPlace
    (weight : ℝ)
    (position : Fin 3 → ℝ) :
    partOn Layout.point.elements (ofPlace weight position).element =
      (ofPlace weight position).element := by
  rw [element_eq]
  simp (disch := decide) [ofPlace, Layout.elements, partOn_cons]
  abel

end Odd

namespace Layout

variable
  (motor : Even ℝ)
  (slots : Nat → ℝ)

/-- The sandwich of a point is a place of which the weight is the norm of the motor. -/
theorem exists_moved_place :
    ∃ position, motor.sandwichOdd (.point slots) = .ofPlace motor.norm position := by
  let image := motor.sandwichOdd (.point slots)
  refine ⟨image.position, ?_⟩
  ext <;> simp [image, Odd.ofPlace, Odd.position]
  all_goals
    simp only [Even.sandwichOdd, Even.act, Odd.mul, Even.reverse, Odd.point, Even.norm]
    ring

variable {layout : Layout}

/-- The sandwich of a type has no part outside the blades of the type. -/
theorem partOn_sandwich
    (isMoved : layout.IsMoved) :
    partOn layout.elements (sandwich motor.element (layout.valueAt slots)) =
      sandwich motor.element (layout.valueAt slots) := by
  by_cases isPoint : layout = .point
  · subst isPoint
    obtain ⟨position, image⟩ := exists_moved_place motor slots
    rw [valueAt_point, Even.sandwich_odd, image, Odd.partOn_ofPlace]
  · have weightless : layout.weight motor = 1 := if_neg isPoint
    obtain ⟨moved, image⟩ := exists_moved slots isMoved (weightless ▸ one_ne_zero)
    rw [image, weightless, one_smul, partOn_valueAt]

/-- What a type reads off the sandwich is the sandwich, divided by the weight. -/
theorem valueAt_read_sandwich
    (isMoved : layout.IsMoved)
    (nonzero : layout.weight motor ≠ 0) :
    layout.valueAt (layout.read (sandwich motor.element (layout.valueAt slots))) =
      (layout.weight motor)⁻¹ • sandwich motor.element (layout.valueAt slots) := by
  nth_rewrite 2 [sandwich_eq_smul slots isMoved nonzero]
  rw [inv_smul_smul₀ nonzero]

end Layout

/-! ## Transforming -/

namespace Compute

/--
Transforming gives the whole sandwich with the motor, which may be any: the
sandwich has no part outside the blades of the entity's type, and only a point
is divided, by the norm of the motor.
-/
theorem transform_sandwich
    {context : Context ℝ}
    {motor entity : Entity ℝ}
    {batch : List Nat}
    (reached : context.IsReached)
    (isMotor : motor.layout.IsMotor)
    (isMoved : entity.layout.IsMoved)
    (operands : AreOperands context [motor, entity])
    (broadcast : Tensor.commonShape [motor.batchShape, entity.batchShape] = .ok batch) :
    (transform motor entity).Gives (context.limits.HasRoom batch) context fun moved =>
      moved.layout = entity.layout ∧ moved.batchShape = batch ∧
        ∀ index, Tensor.IsIndex batch index →
          partOn entity.layout.elements (sandwich (motor.valueAt index) (entity.valueAt index)) =
              sandwich (motor.valueAt index) (entity.valueAt index) ∧
            (entity.layout ≠ .point →
              moved.valueAt index = sandwich (motor.valueAt index) (entity.valueAt index)) ∧
            (entity.layout = .point → (motor.even index).norm ≠ 0 →
              moved.valueAt index =
                (motor.even index).norm⁻¹ •
                  sandwich (motor.valueAt index) (entity.valueAt index)) := by
  refine (ensures_transform reached.isReady isMotor isMoved operands
    fun room => ⟨batch, broadcast, room⟩).gives fun moved behind made => ?_
  have sameBatch := made.batchShape_eq broadcast
  refine ⟨made.layout_eq, sameBatch, ?_⟩
  intro index isIndex
  have read := made.valueAt_eq batch (sameBatch ▸ .refl _) index isIndex
  rw [valueAt_eq entity] at read
  rw [valueAt_even isMotor, valueAt_eq entity]
  have whole := Layout.valueAt_read_sandwich (motor.even index) (entity.entryAt index) isMoved
  refine ⟨Layout.partOn_sandwich _ _ isMoved, ?_, ?_⟩
  · intro notPoint
    have weightless : entity.layout.weight (motor.even index) = 1 := if_neg notPoint
    rw [read, whole (weightless ▸ one_ne_zero), weightless, inv_one, one_smul]
  · intro isPoint nonzero
    have weighed : entity.layout.weight (motor.even index) = (motor.even index).norm :=
      if_pos isPoint
    rw [read, whole (weighed ▸ nonzero), weighed]

/-! ## A motor that is not normalized -/

/-- A motor of the norm seven, with a twist. -/
def looseMotor : Entity ℝ :=
  .ofRow 0 .motor 0 [1, 2, 1, 1, 0, 1, 2, 2]

theorem norm_looseMotor
    (index : List Nat) :
    (looseMotor.even index).norm = 7 := by
  rw [looseMotor, even_ofRow _ _ _ _ (Nat.zero_le _)]
  simp [Layout.even, Even.motor, Even.norm]
  norm_num

/-- A line keeps the whole sandwich, and a point a part of it that is divided by the norm. -/
theorem transform_sandwich_looseMotor :
    (transform looseMotor someLine).Gives True (.start 3) (fun moved =>
      moved.valueAt [] = sandwich (looseMotor.valueAt []) (someLine.valueAt [])) ∧
      (transform looseMotor somePoint).Gives True (.start 3) fun moved =>
        moved.valueAt [] =
          (7 : ℝ)⁻¹ • sandwich (looseMotor.valueAt []) (somePoint.valueAt []) := by
  have isMotor : looseMotor.layout.IsMotor := .motor
  have operands : AreOperands (.start 3) [looseMotor, someLine, somePoint] :=
    .of_nodup (by decide) (by decide)
  have isLine : someLine.layout.IsMoved := .line
  have isPoint : somePoint.layout.IsMoved := .point
  have lineMoved :=
    transform_sandwich (Context.isReached_start 3) isMotor isLine (operands.subset (by simp)) rfl
  have pointMoved :=
    transform_sandwich (Context.isReached_start 3) isMotor isPoint (operands.subset (by simp)) rfl
  have nonzero : (looseMotor.even []).norm ≠ 0 := by
    rw [norm_looseMotor]
    norm_num
  have room : Limits.usual.HasRoom [] := Limits.hasRoom_usual (by decide)
  constructor
  · refine ⟨fun _ => lineMoved.succeeds room, fun moved computed => ?_⟩
    rcases lineMoved.holds moved computed with ⟨_, _, each⟩
    exact (each [] .nil).2.1 (by decide)
  · refine ⟨fun _ => pointMoved.succeeds room, fun moved computed => ?_⟩
    rcases pointMoved.holds moved computed with ⟨_, _, each⟩
    rw [← norm_looseMotor []]
    exact (each [] .nil).2.2 rfl nonzero

end Compute

end Versor

end
