import Versor.Proofs.Projective.Equivariance
import Versor.Proofs.Projective.MotorGroup

/-!
# Pluecker coordinates of what is joined and met

What points, lines and planes join to and meet in is written out by dot and cross
products of their coordinates (`Compute.pluecker`).  A plane and a line meet in a
place with a weight, the product of the normal and the direction.  It is this
weight at all indices of the batch together that makes the place a point or a
direction, so among points one without a weight stays a point, and over more
dimensions than weights can be tested on nothing is made.
-/

noncomputable section

namespace Versor

open Matrix Reference

variable {limits : Limits}

/-! ## Results over a batch -/

namespace Entity

variable (batch : List Nat)

/-- A line over a batch, by its directions and moments. -/
structure IsLineOver
    (direction moment : List Nat → Fin 3 → ℝ)
    (line : Entity ℝ) :
    Prop where
  layout_eq : line.layout = .line
  batchShape_eq : line.batchShape = batch
  direction_eq : ∀ index, Tensor.IsIndex batch index → line.directionAt index = direction index
  moment_eq : ∀ index, Tensor.IsIndex batch index → line.momentAt index = moment index

/-- A plane over a batch, by its distances and normals. -/
structure IsPlaneOver
    (distance : List Nat → ℝ)
    (normal : List Nat → Fin 3 → ℝ)
    (plane : Entity ℝ) :
    Prop where
  layout_eq : plane.layout = .plane
  batchShape_eq : plane.batchShape = batch
  distance_eq : ∀ index, Tensor.IsIndex batch index → plane.distanceAt index = distance index
  normal_eq : ∀ index, Tensor.IsIndex batch index → plane.normalAt index = normal index

/-- Directions over a batch if there is no weight at all, otherwise points where there is one. -/
inductive IsPlaceOver
    (weight : List Nat → ℝ)
    (position : List Nat → Fin 3 → ℝ)
    (place : Entity ℝ) :
    Prop
  | vector
    (layout_eq : place.layout = .vector)
    (batchShape_eq : place.batchShape = batch)
    (weightless : ∀ index, Tensor.IsIndex batch index → weight index = 0)
    (direction_eq :
      ∀ index, Tensor.IsIndex batch index → place.positionAt index = position index)
  | point
    (layout_eq : place.layout = .point)
    (batchShape_eq : place.batchShape = batch)
    (weighted : ∃ index, Tensor.IsIndex batch index ∧ weight index ≠ 0)
    (position_eq :
      ∀ index, Tensor.IsIndex batch index → weight index ≠ 0 →
        place.positionAt index = (weight index)⁻¹ • position index)

end Entity

namespace Compute

open Entity

/-! ## Reading what is combined -/

namespace Combined

variable
  {context behind : Context ℝ}
  {incidence : Incidence}
  {first second result : Entity ℝ}
  {batch : List Nat}
  (broadcast : Tensor.commonShape [first.batchShape, second.batchShape] = .ok batch)

include broadcast

/-- An element of grade two that is a line at each index is read as this line. -/
theorem isLineOver
    (combined : Combined context incidence 2 first second result behind)
    {direction moment : List Nat → Fin 3 → ℝ}
    (stands :
      ∀ index,
        combinedAt incidence first second index =
          (Even.ofLine (direction index) (moment index)).element) :
    result.IsLineOver batch direction moment := by
  have isLine : result.layout = .line := (Option.some.inj combined.recognized).symm
  have sameBatch := combined.made.batchShape_eq broadcast
  have made := combined.made
  rw [isLine] at made
  refine ⟨isLine, sameBatch, ?_, ?_⟩
  · intro index isIndex
    rw [directionAt, made.coordinates_eq .line (sameBatch ▸ isIndex) (by decide), stands,
      (Layout.coordinates_read_line _).1, Even.direction_ofLine]
  · intro index isIndex
    rw [momentAt, made.coordinates_eq .line (sameBatch ▸ isIndex) (by decide), stands,
      (Layout.coordinates_read_line _).2, Even.moment_ofLine]

/-- An element of grade one that is a plane at each index is read as this plane. -/
theorem isPlaneOver
    (combined : Combined context incidence 1 first second result behind)
    {distance : List Nat → ℝ}
    {normal : List Nat → Fin 3 → ℝ}
    (stands :
      ∀ index,
        combinedAt incidence first second index =
          (Odd.ofPlane (distance index) (normal index)).element) :
    result.IsPlaneOver batch distance normal := by
  have isPlane : result.layout = .plane := (Option.some.inj combined.recognized).symm
  have sameBatch := combined.made.batchShape_eq broadcast
  have made := combined.made
  rw [isPlane] at made
  refine ⟨isPlane, sameBatch, ?_, ?_⟩
  · intro index isIndex
    rw [distanceAt, made.entryAt_eq .plane (.refl _) (sameBatch ▸ isIndex) (by decide), stands,
      Layout.read_plane]
    rfl
  · intro index isIndex
    rw [normalAt, made.coordinates_eq .plane (sameBatch ▸ isIndex) (by decide), stands,
      Layout.coordinates_read_plane, Odd.normal_ofPlane]

/-- An element of grade three that is a place at each index is read by the weights of all. -/
theorem isPlaceOver
    (combined : Combined context incidence 3 first second result behind)
    {weight : List Nat → ℝ}
    {position : List Nat → Fin 3 → ℝ}
    (stands :
      ∀ index,
        combinedAt incidence first second index =
          (Odd.ofPlace (weight index) (position index)).element) :
    result.IsPlaceOver batch weight position := by
  have sameBatch := combined.made.batchShape_eq broadcast
  have made := combined.made
  have weightAt (index : List Nat) :
      combinedAt incidence first second index (Blade.vectors .e123) = weight index := by
    rw [stands, Odd.element_apply _ (by decide)]
    rfl
  have recognized := combined.recognized
  rw [sameBatch] at recognized
  by_cases ideal : IsIdeal batch (combinedAt incidence first second)
  · rw [primitiveLayout?, if_pos ideal] at recognized
    have isVector : result.layout = .vector := (Option.some.inj recognized).symm
    rw [isVector] at made
    refine .vector isVector sameBatch ?_ ?_
    · intro index isIndex
      rw [← weightAt, ideal index isIndex]
    · intro index isIndex
      rw [positionAt, made.coordinates_eq .vector (sameBatch ▸ isIndex) (by decide), stands,
        Layout.coordinates_read_vector, Odd.position_ofPlace]
  · rw [primitiveLayout?, if_neg ideal] at recognized
    have isPoint : result.layout = .point := (Option.some.inj recognized).symm
    rw [isPoint] at made
    refine .point isPoint sameBatch ?_ ?_
    · simpa [IsIdeal, weightAt] using ideal
    · intro index isIndex _
      rw [positionAt, made.coordinates_eq .point (sameBatch ▸ isIndex) (by decide), stands,
        Layout.coordinates_read_point, Odd.position_ofPlace]
      rfl

end Combined

/-! ## Planes that meet lines -/

/-- A computation that meets planes and lines, unless there are too many dimensions for it. -/
structure Crosses
    (context : Context ℝ)
    (batch : List Nat)
    (plane line : Entity ℝ)
    (computation : Compute ℝ (Entity ℝ)) :
    Prop where
  gives :
    computation.Gives
      (context.limits.HasRoom batch ∧ batch.length ≤ Tensor.maxGatheredDimensions) context
      (IsPlaceOver batch
        (fun index => plane.normalAt index ⬝ᵥ line.directionAt index)
        (fun index =>
          plane.normalAt index ⨯₃ line.momentAt index -
            plane.distanceAt index • line.directionAt index))
  refused :
    context.limits.HasRoom batch → Tensor.maxGatheredDimensions < batch.length →
      (outcome computation context).1 = .error .tooManyDimensions

/-- What a plane and a line make is the place in which they cross. -/
theorem combinedAt_plane_line
    {plane line : Entity ℝ}
    (isPlane : plane.layout = .plane)
    (isLine : line.layout = .line)
    (index : List Nat) :
    combinedAt .meet plane line index =
      (Odd.ofPlace (plane.normalAt index ⬝ᵥ line.directionAt index)
        (plane.normalAt index ⨯₃ line.momentAt index -
          plane.distanceAt index • line.directionAt index)).element := by
  rw [combinedAt, Incidence.combine_meet, valueAt_of_plane isPlane, valueAt_of_line isLine,
    plane_wedge_line]

section Formulas

variable
  {context : Context ℝ}
  {first second : Entity ℝ}
  {batch : List Nat}
  (ready : context.IsReady context.limits)
  (operands : AreOperands context [first, second])
  (broadcast : Tensor.commonShape [first.batchShape, second.batchShape] = .ok batch)

include ready operands broadcast

/-- Entities that make the place of a plane and a line at each index cross as these do. -/
theorem crosses_of_combinedAt
    {leftGrade rightGrade : Nat}
    (makes : Incidence.meet.Makes leftGrade rightGrade 3)
    (firstHasGrade : first.layout.HasGrade leftGrade)
    (secondHasGrade : second.layout.HasGrade rightGrade)
    {plane line : Entity ℝ}
    (stands :
      ∀ index,
        combinedAt .meet first second index =
          (Odd.ofPlace (plane.normalAt index ⬝ᵥ line.directionAt index)
            (plane.normalAt index ⨯₃ line.momentAt index -
              plane.distanceAt index • line.directionAt index)).element) :
    Crosses context batch plane line (meet first second) where
  gives :=
    (ensures_combined ready makes firstHasGrade secondHasGrade operands
      (fun isCertain => ⟨batch, broadcast, isCertain.1⟩)
      fun isCertain _ _ found =>
        Except.ok.inj (broadcast.symm.trans found) ▸ isCertain.2).gives
          fun _ _ combined => combined.isPlaceOver broadcast stands
  refused room many :=
    compute_of_many ready makes firstHasGrade secondHasGrade operands broadcast room many

/-- Entities that make a line at each index make these lines. -/
theorem gives_line
    {incidence : Incidence}
    {leftGrade rightGrade : Nat}
    (makes : incidence.Makes leftGrade rightGrade 2)
    (firstHasGrade : first.layout.HasGrade leftGrade)
    (secondHasGrade : second.layout.HasGrade rightGrade)
    {direction moment : List Nat → Fin 3 → ℝ}
    (stands :
      ∀ index,
        combinedAt incidence first second index =
          (Even.ofLine (direction index) (moment index)).element) :
    (incidence.compute first second).Gives (context.limits.HasRoom batch) context
      (IsLineOver batch direction moment) :=
  (ensures_combined ready makes firstHasGrade secondHasGrade operands
    (fun room => ⟨batch, broadcast, room⟩) fun _ isThree => absurd isThree (by decide)).gives
      fun _ _ combined => combined.isLineOver broadcast stands

/-- Entities that make a plane at each index make these planes. -/
theorem gives_plane
    {incidence : Incidence}
    {leftGrade rightGrade : Nat}
    (makes : incidence.Makes leftGrade rightGrade 1)
    (firstHasGrade : first.layout.HasGrade leftGrade)
    (secondHasGrade : second.layout.HasGrade rightGrade)
    {distance : List Nat → ℝ}
    {normal : List Nat → Fin 3 → ℝ}
    (stands :
      ∀ index,
        combinedAt incidence first second index =
          (Odd.ofPlane (distance index) (normal index)).element) :
    (incidence.compute first second).Gives (context.limits.HasRoom batch) context
      (IsPlaneOver batch distance normal) :=
  (ensures_combined ready makes firstHasGrade secondHasGrade operands
    (fun room => ⟨batch, broadcast, room⟩) fun _ isThree => absurd isThree (by decide)).gives
      fun _ _ combined => combined.isPlaneOver broadcast stands

omit ready in
/--
Two points are joined by the line along their difference whose moment is their cross
product, a point and a line by the plane through both.  Two planes meet in the line
along the cross product of their normals, and a plane and a line in the point or the
direction in which they cross.
-/
theorem pluecker
    (reached : context.IsReached) :
    (first.layout = .point → second.layout = .point →
        (join first second).Gives (context.limits.HasRoom batch) context
          (IsLineOver batch (fun index => second.positionAt index - first.positionAt index)
            fun index => first.positionAt index ⨯₃ second.positionAt index)) ∧
      (first.layout = .point → second.layout = .line →
        (join first second).Gives (context.limits.HasRoom batch) context
          (IsPlaneOver batch (fun index => -(second.momentAt index ⬝ᵥ first.positionAt index))
            fun index =>
              second.momentAt index - first.positionAt index ⨯₃ second.directionAt index)) ∧
      (first.layout = .plane → second.layout = .plane →
        (meet first second).Gives (context.limits.HasRoom batch) context
          (IsLineOver batch (fun index => first.normalAt index ⨯₃ second.normalAt index)
            fun index =>
              first.distanceAt index • second.normalAt index -
                second.distanceAt index • first.normalAt index)) ∧
      (first.layout = .plane → second.layout = .line →
        Crosses context batch first second (meet first second)) ∧
      (first.layout = .line → second.layout = .plane →
        Crosses context batch second first (meet first second)) := by
  have ready := reached.isReady
  refine ⟨?_, ?_, ?_, ?_, ?_⟩ <;> intro isFirst isSecond
  · refine gives_line ready operands broadcast .places (isFirst ▸ .place .point)
      (isSecond ▸ .place .point) fun index => ?_
    rw [combinedAt, Incidence.combine_join, valueAt_of_point isFirst, valueAt_of_point isSecond,
      place_vee_place, one_smul, one_smul]
  · refine gives_plane ready operands broadcast .placeLine (isFirst ▸ .place .point)
      (isSecond ▸ .line) fun index => ?_
    rw [combinedAt, Incidence.combine_join, valueAt_of_point isFirst, valueAt_of_line isSecond,
      place_vee_line, one_smul, dotProduct_comm]
  · refine gives_line ready operands broadcast .planes (isFirst ▸ .plane)
      (isSecond ▸ .plane) fun index => ?_
    rw [combinedAt, Incidence.combine_meet, valueAt_of_plane isFirst, valueAt_of_plane isSecond,
      plane_wedge_plane]
  · exact
      crosses_of_combinedAt ready operands broadcast .planeLine (isFirst ▸ .plane)
        (isSecond ▸ .line) (combinedAt_plane_line isFirst isSecond)
  · refine crosses_of_combinedAt ready operands broadcast .linePlane (isFirst ▸ .line)
      (isSecond ▸ .plane) fun index => ?_
    rw [combinedAt, Incidence.combine_meet, valueAt_of_line isFirst, valueAt_of_plane isSecond,
      line_wedge_plane]

end Formulas

/-! ## Two points, and a line across the ground -/

/-- A point on the first axis. -/
def axisPoint : Entity ℝ :=
  .ofRow 1 .point 0 [2, 0, 0]

/-- A line along the third axis, through the place with the coordinates 1 and 1. -/
def pole : Entity ℝ :=
  .ofRow 1 .line 0 [0, 0, 2, 2, -2, 0]

/-- The line through two points, and the foot of the pole. -/
theorem pluecker_pole :
    (join somePoint axisPoint).Gives True (.start 3) (fun line =>
      line.directionAt [] = ![1, -2, -3] ∧ line.momentAt [] = ![0, 6, -4]) ∧
      (meet ground pole).Gives True (.start 3) fun foot =>
        foot.layout = .point ∧ foot.positionAt [] = ![1, 1, 0] := by
  have points : AreOperands (.start 3) [somePoint, axisPoint] :=
    .of_nodup (by decide) (by decide)
  have crossing : AreOperands (.start 3) [ground, pole] := .of_nodup (by decide) (by decide)
  have joined :=
    (pluecker points rfl (Context.isReached_start 3)).1 (rfl : somePoint.layout = .point)
      (rfl : axisPoint.layout = .point)
  have crossed :=
    (pluecker crossing rfl (Context.isReached_start 3)).2.2.2.1 (rfl : ground.layout = .plane)
      (rfl : pole.layout = .line)
  constructor
  · refine joined.mono (fun _ => Limits.hasRoom_usual (by decide)) fun line isLine => ?_
    rw [isLine.direction_eq [] .nil, isLine.moment_eq [] .nil]
    constructor <;> ext place <;> fin_cases place <;>
      simp [positionAt, coordinates, somePoint, axisPoint, entryAt_ofRow, cross_apply] <;> norm_num
  · have room : Limits.usual.HasRoom [] := Limits.hasRoom_usual (by decide)
    refine crossed.gives.mono (fun _ => ⟨room, by decide⟩) fun foot isFoot => ?_
    have weight : ground.normalAt [] ⬝ᵥ pole.directionAt [] = 2 := by
      simp [normalAt, directionAt, coordinates, ground, pole, entryAt_ofRow]
    cases isFoot with
    | vector _ _ weightless _ =>
        have zero := weightless [] .nil
        rw [weight] at zero
        exact absurd zero two_ne_zero
    | point isPoint _ _ positions =>
        refine ⟨isPoint, ?_⟩
        rw [positions [] .nil (by rw [weight]; exact two_ne_zero), weight]
        ext place
        fin_cases place <;>
          simp [normalAt, directionAt, momentAt, distanceAt, coordinates, ground, pole,
            entryAt_ofRow, cross_apply]

/-! ## Weights of a whole batch -/

/-- The plane of the first two axes, over many dimensions. -/
def deepGround : Entity ℝ :=
  .ofRow 0 .plane 65 [0, 0, 0, 1]

theorem areOperands_deepGround :
    AreOperands (.start 3) [deepGround, post] :=
  .of_nodup (by decide) (by decide)

/--
Over many dimensions a plane and a line do not meet in a point, though they cross at
each index, and beside a point they meet in a point where they are parallel.
-/
theorem meet_over_batches :
    (AreOperands (.start 3) [deepGround, post] ∧ Limits.usual.HasRoom deepGround.batchShape ∧
      (∀ index, Tensor.IsIndex deepGround.batchShape index →
        deepGround.normalAt index ⬝ᵥ post.directionAt index = 1) ∧
      (outcome (meet deepGround post) (.start 3)).1 = .error .tooManyDimensions) ∧
      ground.normalAt [1] ⬝ᵥ postAndRail.directionAt [1] = 0 ∧
        (meet ground postAndRail).Gives True (.start 3) fun place => place.layout = .point := by
  have ready := (Context.isReached_start 3 : (Context.start 3 : Context ℝ).IsReached).isReady
  have makes : Incidence.meet.Makes 1 2 3 := .planeLine
  constructor
  · have batchShape : deepGround.batchShape = List.replicate 65 1 := batchShape_ofRow 0 .plane 65 _
    have room : Limits.usual.HasRoom deepGround.batchShape :=
      batchShape ▸ Limits.hasRoom_usual (by decide)
    have groundHasGrade : deepGround.layout.HasGrade 1 := .plane
    have postHasGrade : post.layout.HasGrade 2 := .line
    have broadcast :
        Tensor.commonShape [deepGround.batchShape, post.batchShape] = .ok deepGround.batchShape :=
      rfl
    refine ⟨areOperands_deepGround, room, ?_, ?_⟩
    · intro index isIndex
      have many : 65 ≤ index.length := by
        rw [isIndex.length_eq, batchShape, List.length_replicate]
      simp [normalAt, directionAt, coordinates, deepGround, post, entryAt_ofRow, many]
    · refine
        compute_of_many ready makes groundHasGrade postHasGrade areOperands_deepGround broadcast
          room ?_
      rw [batchShape, List.length_replicate]
      decide
  · have weights := weight_postAndRail
    rw [weight_meet rfl rfl, weight_meet rfl rfl] at weights
    have groundHasGrade : ground.layout.HasGrade 1 := .plane
    have linesHaveGrade : postAndRail.layout.HasGrade 2 := .line
    have crossed :=
      crosses_of_combinedAt ready (areOperands_postAndRail.subset (by simp)) rfl makes
        groundHasGrade linesHaveGrade (combinedAt_plane_line rfl rfl)
    have room : Limits.usual.HasRoom [2] := Limits.hasRoom_usual (by decide)
    refine ⟨weights.2, crossed.gives.mono (fun _ => ⟨room, by decide⟩) fun place isPlace => ?_⟩
    cases isPlace with
    | vector _ _ weightless _ =>
        exact absurd (weights.1.symm.trans (weightless [0] (.cons (by decide) .nil))) one_ne_zero
    | point isPoint _ _ _ => exact isPoint

end Compute

end Versor

end
