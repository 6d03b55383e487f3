import Versor.Proofs.Projective.MotorGroup
import Versor.Proofs.Projective.Projection

/-!
# The foot of the perpendicular

A point is projected onto the foot of its perpendicular (`Compute.project_point`),
also if the plane or the line is not normalized: the weight by which the point is
divided is the square of the length of the normal, or that of the direction with the
opposite sign.  A line whose moment is not orthogonal to its direction has no points,
but the perpendicular onto it has the same formula.
-/

noncomputable section

namespace Versor

open Compute Matrix Reference

namespace Layout

/-- Where the perpendicular from a position meets a plane or a line. -/
inductive IsFoot
    (target : Nat → ℝ)
    (position foot : Fin 3 → ℝ) :
    Layout → Prop
  | plane
    (incident : coordinates target 1 ⬝ᵥ foot + target 0 = 0)
    (height : ℝ)
    (across : position = foot + height • coordinates target 1) :
    IsFoot target position foot .plane
  | line
    (incident :
      coordinates target 0 ⬝ᵥ coordinates target 3 = 0 →
        foot ⨯₃ coordinates target 0 = coordinates target 3)
    (across : coordinates target 0 ⬝ᵥ (position - foot) = 0) :
    IsFoot target position foot .line

variable
  {target slots : Nat → ℝ}

/-- The projection of a point onto a plane is the foot of the perpendicular. -/
theorem isFoot_plane
    (proper : coordinates target 1 ≠ 0) :
    IsFoot target (coordinates slots 0)
      (coordinates (Layout.point.projection .plane target slots) 0) .plane := by
  have positive : coordinates target 1 ⬝ᵥ coordinates target 1 ≠ 0 :=
    mt dotProduct_self_eq_zero.1 proper
  rw [projection_point_plane_of_ne slots proper]
  refine .plane ?_ _ (sub_add_cancel _ _).symm
  rw [dotProduct_sub, dotProduct_smul, smul_eq_mul, div_mul_cancel₀ _ positive]
  ring

/-- The projection of a point onto a line is the foot of the perpendicular. -/
theorem isFoot_line
    (proper : coordinates target 0 ≠ 0) :
    IsFoot target (coordinates slots 0)
      (coordinates (Layout.point.projection .line target slots) 0) .line := by
  have positive : coordinates target 0 ⬝ᵥ coordinates target 0 ≠ 0 :=
    mt dotProduct_self_eq_zero.1 proper
  rw [projection_point_line_eq]
  constructor
  · -- Only a line whose moment is orthogonal to its direction has points.
    intro euclidean
    rw [map_smul, LinearMap.smul_apply, map_add, LinearMap.add_apply, map_smul,
      LinearMap.smul_apply, cross_self, smul_zero, add_zero, cross_cross_eq_smul_sub_smul,
      dotProduct_comm (coordinates target 3), euclidean, zero_smul, sub_zero,
      inv_smul_smul₀ positive]
  · have along :
        coordinates target 0 ⬝ᵥ
            ((coordinates target 0 ⬝ᵥ coordinates target 0)⁻¹ •
              (coordinates target 0 ⨯₃ coordinates target 3 +
                (coordinates slots 0 ⬝ᵥ coordinates target 0) • coordinates target 0)) =
          coordinates slots 0 ⬝ᵥ coordinates target 0 := by
      rw [dotProduct_smul, dotProduct_add, dot_self_cross, zero_add, dotProduct_smul, smul_eq_mul,
        smul_eq_mul, mul_comm, mul_inv_cancel_right₀ positive]
    rw [dotProduct_sub, along, dotProduct_comm, sub_self]

end Layout

namespace Compute

open Entity

variable
  {context : Context ℝ}
  {entity target : Entity ℝ}
  {batch : List Nat}

/--
Projecting a point onto a plane or a line gives the foot of its perpendicular, whatever
the lengths of the normal and the direction are.
-/
theorem project_point
    (reached : context.IsReached)
    (isPoint : entity.layout = .point)
    (operands : AreOperands context [entity, target])
    (broadcast : Tensor.commonShape [entity.batchShape, target.batchShape] = .ok batch) :
    (project entity target).Gives (context.limits.HasRoom batch) context fun foot =>
      foot.layout = .point ∧ foot.batchShape = batch ∧
        ∀ index, Tensor.IsIndex batch index →
          (target.layout = .plane → target.normalAt index ≠ 0 →
            foot.positionAt index =
                entity.positionAt index -
                  ((target.normalAt index ⬝ᵥ entity.positionAt index + target.distanceAt index) /
                    (target.normalAt index ⬝ᵥ target.normalAt index)) • target.normalAt index ∧
              Layout.IsFoot (target.entryAt index) (entity.positionAt index)
                (foot.positionAt index) .plane) ∧
          (target.layout = .line → target.directionAt index ≠ 0 →
            foot.positionAt index =
                (target.directionAt index ⬝ᵥ target.directionAt index)⁻¹ •
                  (target.directionAt index ⨯₃ target.momentAt index +
                    (entity.positionAt index ⬝ᵥ target.directionAt index) •
                      target.directionAt index) ∧
              Layout.IsFoot (target.entryAt index) (entity.positionAt index)
                (foot.positionAt index) .line) := by
  have isMoved : entity.layout.IsMoved := isPoint ▸ .point
  refine (ensures_project reached.isReady isMoved operands
    fun room => ⟨batch, broadcast, room⟩).gives fun foot behind made => ?_
  have sameBatch := made.batchShape_eq broadcast
  refine ⟨made.layout_eq.trans isPoint, sameBatch, fun index isIndex => ?_⟩
  have inside : 0 + 2 < entity.layout.width := by
    rw [isPoint]
    decide
  have projected :
      foot.positionAt index =
        coordinates
          (Layout.point.projection target.layout (target.entryAt index) (entity.entryAt index))
          0 := by
    have read := made.coordinates_eq isMoved (sameBatch ▸ isIndex) inside
    rw [valueAt_eq entity, valueAt_eq target, isPoint] at read
    exact read
  constructor
  · intro isPlane proper
    rw [isPlane] at projected
    rw [projected]
    exact ⟨Layout.projection_point_plane_of_ne _ proper, Layout.isFoot_plane proper⟩
  · intro isLine proper
    rw [isLine] at projected
    rw [projected]
    exact ⟨Layout.projection_point_line_eq _, Layout.isFoot_line proper⟩

/-! ## A plane and a line that are not normalized -/

/-- A plane with a normal of the length `√2`. -/
def slantedPlane : Entity ℝ :=
  .ofRow 0 .plane 0 [-1, 1, 1, 0]

/-- A line with a direction of the length two, above the first axis. -/
def longRail : Entity ℝ :=
  .ofRow 1 .line 0 [2, 0, 0, 0, 2, 0]

/-- The feet of the perpendiculars from a point to the plane and to the line. -/
theorem project_somePoint :
    (project somePoint slantedPlane).Gives True (.start 3) (fun foot =>
      foot.positionAt [] = ![0, 1, 3]) ∧
      (project somePoint longRail).Gives True (.start 3) fun foot =>
        foot.positionAt [] = ![1, 0, 1] := by
  have operands : AreOperands (.start 3) [somePoint, slantedPlane, longRail] :=
    .of_nodup (by decide) (by decide)
  have onPlane :=
    project_point (Context.isReached_start 3) (rfl : somePoint.layout = .point)
      (operands.subset (by simp) : AreOperands (.start 3) [somePoint, slantedPlane]) rfl
  have onLine :=
    project_point (Context.isReached_start 3) (rfl : somePoint.layout = .point)
      (operands.subset (by simp) : AreOperands (.start 3) [somePoint, longRail]) rfl
  constructor
  · refine onPlane.mono (fun _ => Limits.hasRoom_usual (by decide)) fun foot held => ?_
    rcases held with ⟨_, _, footAt⟩
    have normal : slantedPlane.normalAt [] = ![1, 1, 0] := by
      simp [normalAt, coordinates, slantedPlane, entryAt_ofRow]
    have proper : slantedPlane.normalAt [] ≠ 0 := by
      rw [normal]
      simp
    rw [((footAt [] .nil).1 rfl proper).1, normal]
    ext place
    fin_cases place <;>
      simp [positionAt, distanceAt, coordinates, slantedPlane, somePoint, entryAt_ofRow,
        dotProduct, Fin.sum_univ_three] <;>
      norm_num
  · refine onLine.mono (fun _ => Limits.hasRoom_usual (by decide)) fun foot held => ?_
    rcases held with ⟨_, _, footAt⟩
    have direction : longRail.directionAt [] = ![2, 0, 0] := by
      simp [directionAt, coordinates, longRail, entryAt_ofRow]
    have proper : longRail.directionAt [] ≠ 0 := by
      rw [direction]
      simp
    rw [((footAt [] .nil).2 rfl proper).1, direction]
    ext place
    fin_cases place <;>
      simp [positionAt, momentAt, coordinates, longRail, somePoint, entryAt_ofRow, cross_apply,
        dotProduct, Fin.sum_univ_three] <;>
      norm_num

end Compute

end Versor

end
