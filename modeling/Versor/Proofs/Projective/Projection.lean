import Versor.Proofs.Projective.Incidence

/-!
# Projection onto planes and lines

The contraction with a plane or a line followed by the product with it sends
points and planes to their orthogonal projections, and lines to theirs with
the opposite orientation.  So a second projection changes nothing but the
orientation of lines, and what lies in the plane or the line comes back with
this change only (`Compute.project_project`).
-/

noncomputable section

namespace Versor

open Compute Matrix Reference

variable {limits : Limits}

namespace Layout

/-! ## Slots by coordinates -/

section Slots

variable
  {slots others : Nat → ℝ}
  {factor : ℝ}

theorem slot_eq_of_coordinates
    {start : Nat}
    (same : coordinates slots start = factor • coordinates others start)
    {place : Nat}
    (below : place < 3) :
    slots (start + place) = factor * others (start + place) := by
  interval_cases place
  · exact congrFun same 0
  · exact congrFun same 1
  · exact congrFun same 2

theorem slots_eq_of_position
    (position : coordinates slots 0 = factor • coordinates others 0) :
    ∀ slot < Layout.point.width, slots slot = factor * others slot := by
  intro slot below
  rw [← Nat.zero_add slot]
  exact slot_eq_of_coordinates position below

theorem slots_eq_of_distance_normal
    (distance : slots 0 = factor * others 0)
    (normal : coordinates slots 1 = factor • coordinates others 1) :
    ∀ slot < Layout.plane.width, slots slot = factor * others slot
  | 0, _ => distance
  | place + 1, below => by
      rw [Nat.add_comm]
      exact slot_eq_of_coordinates normal (Nat.lt_of_succ_lt_succ below)

theorem slots_eq_of_direction_moment
    (direction : coordinates slots 0 = factor • coordinates others 0)
    (moment : coordinates slots 3 = factor • coordinates others 3) :
    ∀ slot < Layout.line.width, slots slot = factor * others slot := by
  intro slot below
  change slot < 6 at below
  rcases Nat.lt_or_ge slot 3 with early | late
  · rw [← Nat.zero_add slot]
    exact slot_eq_of_coordinates direction early
  · rw [← Nat.add_sub_of_le late]
    exact slot_eq_of_coordinates moment (by omega)

end Slots

/-! ## The projections of the types -/

/-- The slots of the projection of a type onto another one. -/
def projection
    (layout target : Layout)
    (targetSlots slots : Nat → ℝ) :
    Nat → ℝ :=
  layout.read
    (LibraryFunction.project.body.meaning Algebra.projective.metric
      [layout.valueAt slots, target.valueAt targetSlots])

theorem projection_eq
    (layout target : Layout)
    (targetSlots slots : Nat → ℝ) :
    layout.projection target targetSlots slots =
      layout.read
        (product Algebra.projective.metric .geometric
          (product Algebra.projective.metric .leftContraction (target.valueAt targetSlots)
            (layout.valueAt slots))
          (target.valueAt targetSlots)) :=
  rfl

section Formulas

variable (target slots : Nat → ℝ)

theorem projection_plane_plane :
    Layout.plane.projection .plane target slots 0 =
        (coordinates target 1 ⬝ᵥ coordinates slots 1) * target 0 ∧
      coordinates (Layout.plane.projection .plane target slots) 1 =
        (coordinates target 1 ⬝ᵥ coordinates slots 1) • coordinates target 1 := by
  rw [projection_eq, valueAt_plane, valueAt_plane, Odd.plane_eq, Odd.plane_eq,
    plane_contract_plane, Even.element_act, coordinates_read_plane, read_plane]
  refine ⟨by simp [Even.act, Even.ofNumber, Odd.ofPlane], ?_⟩
  ext place
  fin_cases place <;> simp [Even.act, Even.ofNumber, Odd.ofPlane, Odd.normal]

theorem projection_plane_line :
    Layout.plane.projection .line target slots 0 = 0 ∧
      coordinates (Layout.plane.projection .line target slots) 1 = 0 := by
  rw [projection_eq, valueAt_plane, valueAt_line, Odd.plane_eq, Even.line_eq,
    line_contract_plane, Odd.element_mul, coordinates_read_plane, read_plane]
  refine ⟨by simp [Odd.mul, Odd.ofPlane], ?_⟩
  ext place
  fin_cases place <;> simp [Odd.mul, Odd.ofPlane, Odd.normal]

theorem projection_line_line :
    coordinates (Layout.line.projection .line target slots) 0 =
        -(coordinates target 0 ⬝ᵥ coordinates slots 0) • coordinates target 0 ∧
      coordinates (Layout.line.projection .line target slots) 3 =
        -(coordinates target 0 ⬝ᵥ coordinates slots 0) • coordinates target 3 := by
  rw [projection_eq, valueAt_line, valueAt_line, Even.line_eq, Even.line_eq,
    line_contract_line, Even.element_mul, (coordinates_read_line _).1,
    (coordinates_read_line _).2]
  constructor <;> ext place <;> fin_cases place <;>
    simp [Even.mul, Even.ofNumber, Even.ofLine, Even.direction, Even.moment]

variable {target}

/-- The projection of a point onto any plane with a normal. -/
theorem projection_point_plane_of_ne
    (proper : coordinates target 1 ≠ 0) :
    coordinates (Layout.point.projection .plane target slots) 0 =
      coordinates slots 0 -
        ((coordinates target 1 ⬝ᵥ coordinates slots 0 + target 0) /
          (coordinates target 1 ⬝ᵥ coordinates target 1)) • coordinates target 1 := by
  have positive : coordinates target 1 ⬝ᵥ coordinates target 1 ≠ 0 :=
    mt dotProduct_self_eq_zero.1 proper
  rw [projection_eq, valueAt_point, valueAt_plane, Odd.point_eq, Odd.plane_eq,
    plane_contract_place, Even.element_act, coordinates_read_point, (line_act_plane ..).1,
    (line_act_plane ..).2, one_smul, cross_cross_eq_smul_sub_smul',
    dotProduct_comm (coordinates slots 0), smul_sub, smul_sub, inv_smul_smul₀ positive]
  module

/-- The projection of a point onto any line; the weight it is divided by is negative. -/
theorem projection_point_line_eq :
    coordinates (Layout.point.projection .line target slots) 0 =
      (coordinates target 0 ⬝ᵥ coordinates target 0)⁻¹ •
        (coordinates target 0 ⨯₃ coordinates target 3 +
          (coordinates slots 0 ⬝ᵥ coordinates target 0) • coordinates target 0) := by
  rw [projection_eq, valueAt_point, valueAt_line, Odd.point_eq, Even.line_eq,
    line_contract_place, Odd.element_mul, coordinates_read_point, (plane_mul_line ..).1,
    (plane_mul_line ..).2, neg_smul, one_smul, neg_dotProduct, inv_neg, map_neg,
    LinearMap.neg_apply]
  module

/-- The projection of a point onto a plane is the foot of its perpendicular. -/
theorem projection_point_plane
    (unit : coordinates target 1 ⬝ᵥ coordinates target 1 = 1) :
    coordinates (Layout.point.projection .plane target slots) 0 =
      coordinates slots 0 -
        (coordinates target 1 ⬝ᵥ coordinates slots 0 + target 0) • coordinates target 1 := by
  have proper : coordinates target 1 ≠ 0 := fun zero => by simp [zero] at unit
  rw [projection_point_plane_of_ne slots proper, unit, div_one]

/-- The projection of a point onto a line is the foot of its perpendicular. -/
theorem projection_point_line
    (unit : coordinates target 0 ⬝ᵥ coordinates target 0 = 1) :
    coordinates (Layout.point.projection .line target slots) 0 =
      (coordinates target 0 ⬝ᵥ coordinates slots 0) • coordinates target 0 +
        coordinates target 0 ⨯₃ coordinates target 3 := by
  rw [projection_point_line_eq, unit, inv_one, one_smul, dotProduct_comm, add_comm]

/-- The projection of a line onto a plane comes back with the opposite orientation. -/
theorem projection_line_plane
    (unit : coordinates target 1 ⬝ᵥ coordinates target 1 = 1) :
    coordinates (Layout.line.projection .plane target slots) 0 =
        (coordinates target 1 ⬝ᵥ coordinates slots 0) • coordinates target 1 -
          coordinates slots 0 ∧
      coordinates (Layout.line.projection .plane target slots) 3 =
        -(coordinates target 1 ⬝ᵥ coordinates slots 3) • coordinates target 1 -
          target 0 • coordinates slots 0 ⨯₃ coordinates target 1 := by
  rcases
    plane_mul_plane (-(coordinates target 1 ⬝ᵥ coordinates slots 3)) (target 0)
      (coordinates slots 0 ⨯₃ coordinates target 1) (coordinates target 1)
    with ⟨even, multiplied, direction, moment⟩
  rw [projection_eq, valueAt_line, valueAt_plane, Even.line_eq, Odd.plane_eq,
    plane_contract_line, multiplied, (coordinates_read_line _).1, (coordinates_read_line _).2,
    direction, moment, cross_cross_eq_smul_sub_smul, unit, one_smul, dotProduct_comm]
  exact ⟨rfl, rfl⟩

end Formulas

/-! ## Lying in planes and on lines -/

/-- The types that are projected. -/
inductive IsProjected : Layout → Prop
  | point : IsProjected .point
  | line : IsProjected .line
  | plane : IsProjected .plane

theorem IsProjected.isMoved
    {layout : Layout}
    (isProjected : layout.IsProjected) :
    layout.IsMoved := by
  cases isProjected with
  | point => exact .point
  | line => exact .line
  | plane => exact .plane

/-- Planes with a unit normal, and lines with a unit direction across their moment. -/
inductive IsNormalized
    (slots : Nat → ℝ) :
    Layout → Prop
  | plane
    (unit : coordinates slots 1 ⬝ᵥ coordinates slots 1 = 1) :
    IsNormalized slots .plane
  | line
    (unit : coordinates slots 0 ⬝ᵥ coordinates slots 0 = 1)
    (euclidean : coordinates slots 0 ⬝ᵥ coordinates slots 3 = 0) :
    IsNormalized slots .line

/-- Points and lines in planes and on lines. -/
inductive LiesIn
    (target slots : Nat → ℝ) :
    Layout → Layout → Prop
  | pointInPlane
    (incident : coordinates target 1 ⬝ᵥ coordinates slots 0 + target 0 = 0) :
    LiesIn target slots .point .plane
  | pointOnLine
    (incident : coordinates slots 0 ⨯₃ coordinates target 0 = coordinates target 3) :
    LiesIn target slots .point .line
  | lineInPlane
    (parallel : coordinates target 1 ⬝ᵥ coordinates slots 0 = 0)
    (incident : coordinates target 1 ⨯₃ coordinates slots 3 = target 0 • coordinates slots 0) :
    LiesIn target slots .line .plane
  | lineOnLine
    (factor : ℝ)
    (direction : coordinates slots 0 = factor • coordinates target 0)
    (moment : coordinates slots 3 = factor • coordinates target 3) :
    LiesIn target slots .line .line

/-- A Euclidean line has a point. -/
theorem exists_moment_eq
    {direction moment : Fin 3 → ℝ}
    (proper : direction ≠ 0)
    (euclidean : direction ⬝ᵥ moment = 0) :
    ∃ position : Fin 3 → ℝ, position ⨯₃ direction = moment := by
  have positive : direction ⬝ᵥ direction ≠ 0 := fun zero =>
    proper (dotProduct_self_eq_zero.1 zero)
  refine ⟨(direction ⬝ᵥ direction)⁻¹ • direction ⨯₃ moment, ?_⟩
  rw [map_smul, LinearMap.smul_apply, cross_cross_eq_smul_sub_smul, dotProduct_comm moment,
    euclidean, zero_smul, sub_zero, inv_smul_smul₀ positive]

/-- Slots that start with given coordinates. -/
def slotsAt
    (position : Fin 3 → ℝ) :
    Nat → ℝ
  | 0 => position 0
  | 1 => position 1
  | _ => position 2

@[simp]
theorem coordinates_slotsAt
    (position : Fin 3 → ℝ) :
    coordinates (slotsAt position) 0 = position := by
  ext place
  fin_cases place <;> rfl

/-- A Euclidean line lies where all of its points do. -/
theorem liesIn_iff_points
    {target : Layout}
    {targetSlots slots : Nat → ℝ}
    (normalized : target.IsNormalized targetSlots)
    (proper : coordinates slots 0 ≠ 0)
    (euclidean : coordinates slots 0 ⬝ᵥ coordinates slots 3 = 0) :
    LiesIn targetSlots slots .line target ↔
      ∀ position, LiesIn slots position .point .line →
        LiesIn targetSlots position .point target := by
  constructor
  · rintro liesIn position ⟨⟩
    next onLine =>
    cases liesIn with
    | lineInPlane parallel incident =>
        rw [← onLine, cross_cross_eq_smul_sub_smul', parallel, zero_smul, zero_sub, ← neg_smul]
          at incident
        have distance := smul_left_injective ℝ proper incident
        exact .pointInPlane (by rw [dotProduct_comm, ← distance, add_neg_cancel])
    | lineOnLine factor direction moment =>
        rw [direction, moment, map_smul] at onLine
        have nonzero : factor ≠ 0 := by
          rintro rfl
          exact proper (direction.trans (zero_smul ℝ _))
        exact .pointOnLine (smul_right_injective _ nonzero onLine)
  · intro pointsIn
    rcases exists_moment_eq proper euclidean with ⟨foot, onLine⟩
    have footIn := pointsIn (slotsAt foot) (.pointOnLine (by simpa using onLine))
    have nextIn :=
      pointsIn (slotsAt (foot + coordinates slots 0)) (.pointOnLine (by simpa using onLine))
    cases normalized with
    | plane unit =>
        cases footIn with | pointInPlane footIn =>
        cases nextIn with | pointInPlane nextIn =>
        rw [coordinates_slotsAt] at footIn nextIn
        have parallel : coordinates targetSlots 1 ⬝ᵥ coordinates slots 0 = 0 := by
          rw [dotProduct_add] at nextIn
          linarith
        refine .lineInPlane parallel ?_
        rw [← onLine, cross_cross_eq_smul_sub_smul', parallel, zero_smul, zero_sub, ← neg_smul,
          dotProduct_comm, eq_neg_of_add_eq_zero_right footIn]
    | line unit _ =>
        cases footIn with | pointOnLine footIn =>
        cases nextIn with | pointOnLine nextIn =>
        rw [coordinates_slotsAt] at footIn nextIn
        have parallel : coordinates slots 0 ⨯₃ coordinates targetSlots 0 = 0 := by
          rw [map_add, LinearMap.add_apply, footIn] at nextIn
          exact add_eq_left.1 nextIn
        have direction :
            coordinates slots 0 =
              (coordinates slots 0 ⬝ᵥ coordinates targetSlots 0) • coordinates targetSlots 0 := by
          have expanded :=
            cross_cross_eq_smul_sub_smul' (coordinates targetSlots 0) (coordinates slots 0)
              (coordinates targetSlots 0)
          rw [parallel, map_zero, unit, one_smul] at expanded
          exact (sub_eq_zero.1 expanded.symm)
        refine .lineOnLine _ direction ?_
        rw [← onLine, direction, map_smul, footIn, ← direction]

/-! ## A second projection -/

/-- The sign of the orientation in which a type comes back from its projection. -/
def orientation : Layout → ℝ
  | .line => -1
  | _ => 1

theorem orientation_point :
    Layout.point.orientation = 1 :=
  rfl

theorem orientation_line :
    Layout.line.orientation = -1 :=
  rfl

theorem orientation_plane :
    Layout.plane.orientation = 1 :=
  rfl

section Twice

variable
  {layout target : Layout}
  {targetSlots : Nat → ℝ}
  (normalized : target.IsNormalized targetSlots)
  (slots : Nat → ℝ)

include normalized

/-- A second projection changes nothing but the orientation of lines. -/
theorem projection_projection
    (isProjected : layout.IsProjected) :
    ∀ slot < layout.width,
      layout.projection target targetSlots (layout.projection target targetSlots slots) slot =
        layout.orientation * layout.projection target targetSlots slots slot := by
  cases normalized with
  | plane unit =>
      cases isProjected with
      | point =>
          refine slots_eq_of_position ?_
          rw [projection_point_plane _ unit, projection_point_plane _ unit, dotProduct_sub,
            dotProduct_smul, unit, orientation_point]
          module
      | line =>
          have once := projection_line_plane slots unit
          have twice := projection_line_plane (Layout.line.projection .plane targetSlots slots) unit
          refine slots_eq_of_direction_moment ?_ ?_
          · rw [twice.1, once.1, dotProduct_sub, dotProduct_smul, unit, orientation_line]
            module
          · rw [twice.2, once.1, once.2, dotProduct_sub, dotProduct_smul, dotProduct_smul,
              dot_cross_self, unit, orientation_line, map_sub, LinearMap.sub_apply, map_smul,
              LinearMap.smul_apply, cross_self]
            module
      | plane =>
          have once := projection_plane_plane targetSlots slots
          have twice :=
            projection_plane_plane targetSlots (Layout.plane.projection .plane targetSlots slots)
          refine slots_eq_of_distance_normal ?_ ?_
          · rw [twice.1, once.1, once.2, dotProduct_smul, unit, orientation_plane, smul_eq_mul,
              mul_one, one_mul]
          · rw [twice.2, once.2, dotProduct_smul, unit, orientation_plane]
            module
  | line unit euclidean =>
      cases isProjected with
      | point =>
          refine slots_eq_of_position ?_
          rw [projection_point_line _ unit, projection_point_line _ unit, dotProduct_add,
            dotProduct_smul, unit, dot_self_cross, orientation_point]
          module
      | line =>
          have once := projection_line_line targetSlots slots
          have twice :=
            projection_line_line targetSlots (Layout.line.projection .line targetSlots slots)
          refine slots_eq_of_direction_moment ?_ ?_
          · rw [twice.1, once.1, dotProduct_smul, unit, orientation_line]
            module
          · rw [twice.2, once.1, once.2, dotProduct_smul, unit, orientation_line]
            module
      | plane =>
          have none (others : Nat → ℝ) := projection_plane_line targetSlots others
          refine slots_eq_of_distance_normal ?_ ?_
          · rw [(none _).1, (none _).1, mul_zero]
          · rw [(none _).2, (none _).2, smul_zero]

variable {slots}

/-- What lies in the plane or on the line comes back, lines with the opposite orientation. -/
theorem projection_of_liesIn
    (liesIn : LiesIn targetSlots slots layout target) :
    ∀ slot < layout.width,
      layout.projection target targetSlots slots slot = layout.orientation * slots slot := by
  cases liesIn with
  | pointInPlane incident =>
      cases normalized with
      | plane unit =>
          refine slots_eq_of_position ?_
          rw [projection_point_plane _ unit, incident, orientation_point]
          module
  | pointOnLine incident =>
      cases normalized with
      | line unit euclidean =>
          refine slots_eq_of_position ?_
          rw [projection_point_line _ unit, ← incident, cross_cross_eq_smul_sub_smul', unit,
            orientation_point, dotProduct_comm]
          module
  | lineInPlane parallel incident =>
      cases normalized with
      | plane unit =>
          refine slots_eq_of_direction_moment ?_ ?_
          · rw [(projection_line_plane _ unit).1, parallel, orientation_line]
            module
          · rw [(projection_line_plane _ unit).2, ← LinearMap.smul_apply, ← map_smul, ← incident,
              cross_cross_eq_smul_sub_smul, unit, orientation_line,
              dotProduct_comm (coordinates slots 3)]
            module
  | lineOnLine factor direction moment =>
      cases normalized with
      | line unit euclidean =>
          refine slots_eq_of_direction_moment ?_ ?_
          · rw [(projection_line_line ..).1, direction, dotProduct_smul, unit, orientation_line]
            module
          · rw [(projection_line_line ..).2, direction, moment, dotProduct_smul, unit,
              orientation_line]
            module

end Twice

end Layout

/-! ## Projecting entities -/

namespace Compute

open Entity

variable
  {certain : Prop}
  {context : Context ℝ}
  {entity target : Entity ℝ}

/-- Projecting an entity reads it off the projection of what it stands for. -/
theorem ensures_project
    (ready : context.IsReady limits)
    (isMoved : entity.layout.IsMoved)
    (operands : AreOperands context [entity, target])
    (room : certain → limits.HaveCommonRoom [entity.batchShape, target.batchShape]) :
    (project entity target).Ensures limits certain context
      (Made context entity.layout [entity.batchShape, target.batchShape] fun index =>
        LibraryFunction.project.body.meaning Algebra.projective.metric
          [entity.valueAt index, target.valueAt index]) :=
  ensures_callAs ready operands room (.inl isMoved) .project (LibraryFunction.isOver .project)

/-- What is projected twice is made by one projection after the other. -/
theorem ensures_project_twice
    {batch : List Nat}
    (ready : context.IsReady limits)
    (isMoved : entity.layout.IsMoved)
    (operands : AreOperands context [entity, target])
    (broadcast : Tensor.commonShape [entity.batchShape, target.batchShape] = .ok batch)
    (room : certain → limits.HasRoom batch) :
    (do
        let once ← project entity target
        let twice ← project once target
        return (once, twice) : Compute ℝ (Entity ℝ × Entity ℝ)).Ensures limits
      certain context fun (once, twice) _ =>
        (once.layout = entity.layout ∧ once.batchShape = batch) ∧
          (twice.layout = entity.layout ∧ twice.batchShape = batch) ∧
            ∀ index, Tensor.IsIndex batch index → ∀ slot < entity.layout.width,
              once.entryAt index slot =
                  entity.layout.projection target.layout (target.entryAt index)
                    (entity.entryAt index) slot ∧
                twice.entryAt index slot =
                  entity.layout.projection target.layout (target.entryAt index)
                    (entity.layout.projection target.layout (target.entryAt index)
                      (entity.entryAt index)) slot := by
  have targetReaches := Tensor.stretches_of_commonShape broadcast _ (.tail _ (.head _))
  refine (ensures_project ready isMoved operands fun isCertain =>
    ⟨batch, broadcast, room isCertain⟩).bind fun once between isReady free onceMade => ?_
  have onceBatch := onceMade.batchShape_eq broadcast
  have again : Tensor.commonShape [once.batchShape, target.batchShape] = .ok batch := by
    rw [onceBatch]
    exact Tensor.commonShape_eq (by simp [targetReaches, Tensor.Stretches.refl]) (.head _)
  have pair : AreOperands between [once, target] :=
    (operands.subset (List.subset_cons_self _ _)).cons free onceMade.isNew onceMade.isOperand
  have onceMoved : once.layout.IsMoved := onceMade.layout_eq ▸ isMoved
  refine (ensures_project isReady onceMoved pair fun isCertain =>
    ⟨batch, again, room isCertain⟩).bind fun twice behind isReady _ twiceMade => ?_
  have twiceBatch := twiceMade.batchShape_eq again
  refine .pure isReady
    ⟨⟨onceMade.layout_eq, onceBatch⟩, ⟨twiceMade.layout_eq.trans onceMade.layout_eq, twiceBatch⟩,
      fun index isIndex slot below => ⟨?_, ?_⟩⟩
  · exact onceMade.entryAt_eq isMoved (onceBatch ▸ .refl _) isIndex below
  · have read :=
      twiceMade.entryAt_eq onceMoved (twiceBatch ▸ .refl _) isIndex (onceMade.layout_eq ▸ below)
    rw [onceMade.valueAt_eq batch (onceBatch ▸ .refl _) index isIndex, onceMade.layout_eq] at read
    exact read

/--
Projecting points, planes and lines onto a normalized plane or line a second
time changes nothing but the orientation of lines, and so does projecting what
lies in the plane or on the line.
-/
theorem project_project
    {batch : List Nat}
    (reached : context.IsReached)
    (isProjected : entity.layout.IsProjected)
    (normalized :
      ∀ index, Tensor.IsIndex target.batchShape index →
        target.layout.IsNormalized (target.entryAt index))
    (operands : AreOperands context [entity, target])
    (broadcast : Tensor.commonShape [entity.batchShape, target.batchShape] = .ok batch) :
    (do
        let once ← project entity target
        let twice ← project once target
        return (once, twice)).Gives
      (context.limits.HasRoom batch) context fun (once, twice) =>
        (once.layout = entity.layout ∧ once.batchShape = batch) ∧
          (twice.layout = entity.layout ∧ twice.batchShape = batch) ∧
            ∀ index, Tensor.IsIndex batch index → ∀ slot < entity.layout.width,
              twice.entryAt index slot =
                  entity.layout.orientation * once.entryAt index slot ∧
                (entity.layout.LiesIn (target.entryAt index) (entity.entryAt index)
                    target.layout →
                  once.entryAt index slot =
                    entity.layout.orientation * entity.entryAt index slot) := by
  refine (ensures_project_twice reached.isReady isProjected.isMoved operands broadcast id).gives
    fun _ _ ⟨onceIs, twiceIs, entries⟩ => ⟨onceIs, twiceIs, fun index isIndex slot below => ?_⟩
  have targetReaches := Tensor.stretches_of_commonShape broadcast _ (.tail _ (.head _))
  have normalizedAt := normalized _ (Tensor.isIndex_stretchIndex targetReaches isIndex)
  rw [entryAt_stretch (.refl _) targetReaches isIndex] at normalizedAt
  rcases entries index isIndex slot below with ⟨once, twice⟩
  rw [once, twice]
  exact
    ⟨Layout.projection_projection normalizedAt _ isProjected slot below,
      fun liesIn => Layout.projection_of_liesIn normalizedAt liesIn slot below⟩

/-! ## A line in a plane -/

/-- The plane of the first two axes. -/
def ground : Entity ℝ :=
  .ofRow 2 .plane 0 [0, 0, 0, 1]

theorem areOperands_ground :
    AreOperands (.start 3) [someLine, ground] :=
  .of_nodup (by decide) (by decide)

theorem isNormalized_ground
    (index : List Nat) :
    Layout.IsNormalized (ground.entryAt index) .plane := by
  refine .plane ?_
  simp [coordinates, ground, entryAt_ofRow]

theorem someLine_liesIn_ground
    (index : List Nat) :
    Layout.LiesIn (ground.entryAt index) (someLine.entryAt index) .line .plane := by
  refine .lineInPlane ?_ ?_ <;>
    simp [coordinates, ground, someLine, entryAt_ofRow, cross_apply]

/-- A line in a plane is projected onto the plane twice. -/
theorem project_project_ground :
    (do
        let once ← project someLine ground
        let twice ← project once ground
        return (once, twice)).Gives
      True (.start 3) fun (once, twice) =>
        (once.layout = Layout.line ∧ once.batchShape = []) ∧
          (twice.layout = Layout.line ∧ twice.batchShape = []) ∧
            ∀ slot < 6,
              twice.entryAt [] slot = -1 * once.entryAt [] slot ∧
                once.entryAt [] slot = -1 * someLine.entryAt [] slot := by
  have isProjected : someLine.layout.IsProjected := .line
  have projected :=
    project_project (Context.isReached_start 3) isProjected
      (fun index _ => isNormalized_ground index) areOperands_ground rfl
  have room : Limits.usual.HasRoom [] := Limits.hasRoom_usual (by decide)
  refine ⟨fun _ => projected.succeeds room, fun results computed => ?_⟩
  rcases projected.holds results computed with ⟨onceIs, twiceIs, entries⟩
  exact
    ⟨onceIs, twiceIs, fun slot below =>
      (entries [] .nil slot below).imp_right fun back => back (someLine_liesIn_ground [])⟩

/-- A line in a plane is not its own projection, and that is not projected to itself. -/
theorem project_reverses :
    Layout.IsNormalized (ground.entryAt []) .plane ∧
      Layout.LiesIn (ground.entryAt []) (someLine.entryAt []) .line .plane ∧
        (do
            let once ← project someLine ground
            let twice ← project once ground
            return (once, twice)).Gives
          True (.start 3) fun (once, twice) =>
            once.entryAt [] 0 ≠ someLine.entryAt [] 0 ∧
              twice.entryAt [] 0 ≠ once.entryAt [] 0 := by
  refine ⟨isNormalized_ground [], someLine_liesIn_ground [], ?_⟩
  have ready : (Context.start 3 : Context ℝ).IsReady .usual := (Context.isReached_start 3).isReady
  have isMoved : someLine.layout.IsMoved := .line
  have room : Limits.usual.HasRoom [] := Limits.hasRoom_usual (by decide)
  refine (ensures_project_twice ready isMoved areOperands_ground rfl
    fun _ : True => room).gives fun ⟨once, twice⟩ _ ⟨_, _, entries⟩ => ?_
  rcases entries [] .nil 0 (by decide) with ⟨onceAt, twiceAt⟩
  have reversed :=
    Layout.projection_of_liesIn (isNormalized_ground []) (someLine_liesIn_ground []) 0 (by decide)
  have again :=
    Layout.projection_projection (isNormalized_ground []) (someLine.entryAt []) .line 0 (by decide)
  have start : someLine.entryAt [] 0 = 1 := by simp [someLine, entryAt_ofRow]
  rw [reversed] at again
  have onceReversed : once.entryAt [] 0 = -1 :=
    onceAt.trans (reversed.trans (by rw [start, Layout.orientation_line, mul_one]))
  have twiceReversed : twice.entryAt [] 0 = 1 :=
    twiceAt.trans
      (again.trans (by rw [start, Layout.orientation_line, mul_one, neg_mul_neg, mul_one]))
  constructor
  · rw [onceReversed, start]
    norm_num
  · rw [twiceReversed, onceReversed]
    norm_num

end Compute

end Versor

end
