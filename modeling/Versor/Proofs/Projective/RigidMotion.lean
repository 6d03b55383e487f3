import Versor.Proofs.Projective.Transform

/-!
# Rigid motions

A motor of norm one without a pseudoscalar part in its square is a rotation
about the origin followed by a shift (`Even.motion`).  Transforming by it moves
points, directions, planes and lines by this one motion, whatever the order and
the signs in which a type stores its coordinates (`Compute.transform_moves`).
-/

noncomputable section

namespace Versor

open Compute Matrix Reference

/-- A rotation about the origin and a shift. -/
structure RigidMotion where
  rotation : Matrix (Fin 3) (Fin 3) ℝ
  shift : Fin 3 → ℝ
  orthogonal : rotation * rotationᵀ = 1
  special : rotation.det = 1

/-- Three slots in a row. -/
def coordinates
    (slots : Nat → ℝ)
    (start : Nat) :
    Fin 3 → ℝ :=
  ![slots start, slots (start + 1), slots (start + 2)]

/-- What a rigid motion does to the slots of a primitive. -/
inductive RigidMotion.Moves
    (motion : RigidMotion)
    (slots moved : Nat → ℝ) :
    Layout → Prop
  | point
    (position :
      coordinates moved 0 = motion.rotation *ᵥ coordinates slots 0 + motion.shift) :
    Moves motion slots moved .point
  | vector
    (direction : coordinates moved 0 = motion.rotation *ᵥ coordinates slots 0) :
    Moves motion slots moved .vector
  | plane
    (normal : coordinates moved 1 = motion.rotation *ᵥ coordinates slots 1)
    (distance :
      moved 0 = slots 0 - (motion.rotation *ᵥ coordinates slots 1) ⬝ᵥ motion.shift) :
    Moves motion slots moved .plane
  | line
    (direction : coordinates moved 0 = motion.rotation *ᵥ coordinates slots 0)
    (moment :
      coordinates moved 3 =
        motion.rotation *ᵥ coordinates slots 3 +
          motion.shift ⨯₃ (motion.rotation *ᵥ coordinates slots 0)) :
    Moves motion slots moved .line

namespace RigidMotion

/-- The motion that moves nothing. -/
def rest : RigidMotion where
  rotation := 1
  shift := 0
  orthogonal := by rw [transpose_one, mul_one]
  special := det_one

theorem moves_rest
    {layout : Layout}
    (isPrimitive : layout.IsPrimitive)
    (slots : Nat → ℝ) :
    rest.Moves slots slots layout := by
  cases isPrimitive with
  | plane => constructor <;> simp [rest]
  | point => constructor; simp [rest]
  | vector => constructor; simp [rest]
  | line => constructor <;> simp [rest]

variable
  (motion : RigidMotion)
  (left right : Fin 3 → ℝ)

/-- A rotation keeps dot products. -/
theorem dotProduct_mulVec_mulVec :
    (motion.rotation *ᵥ left) ⬝ᵥ (motion.rotation *ᵥ right) = left ⬝ᵥ right := by
  rw [dotProduct_mulVec, vecMul_mulVec, mul_eq_one_comm.1 motion.orthogonal, vecMul_one]

/-- A rotation moves a cross product as it moves the factors. -/
theorem mulVec_cross :
    motion.rotation *ᵥ (left ⨯₃ right) =
      (motion.rotation *ᵥ left) ⨯₃ (motion.rotation *ᵥ right) := by
  have cofactors : motion.rotation = (motion.rotation.adjugate)ᵀ := by
    have inverse : motion.rotation * motion.rotation.adjugate = 1 := by
      rw [mul_adjugate, motion.special, one_smul]
    rw [← left_inv_eq_right_inv (mul_eq_one_comm.1 motion.orthogonal) inverse,
      transpose_transpose]
  nth_rewrite 1 [cofactors]
  rw [adjugate_fin_three]
  ext place
  fin_cases place <;>
    simp [cross_apply, mulVec, dotProduct, Fin.sum_univ_three] <;> ring

end RigidMotion

namespace Even

variable (motor : Even ℝ)

/-! ## The motion of a motor -/

/-- The matrix of a motor, a rotation if the norm is one. -/
def rotation :
    Matrix (Fin 3) (Fin 3) ℝ :=
  !![motor.scalar ^ 2 + motor.e23 ^ 2 - motor.e12 ^ 2 - motor.e13 ^ 2,
      2 * (motor.e12 * motor.scalar - motor.e13 * motor.e23),
      2 * (motor.e13 * motor.scalar + motor.e12 * motor.e23);
    -2 * (motor.e12 * motor.scalar + motor.e13 * motor.e23),
      motor.scalar ^ 2 + motor.e13 ^ 2 - motor.e12 ^ 2 - motor.e23 ^ 2,
      2 * (motor.e23 * motor.scalar - motor.e12 * motor.e13);
    2 * (motor.e12 * motor.e23 - motor.e13 * motor.scalar),
      -2 * (motor.e23 * motor.scalar + motor.e12 * motor.e13),
      motor.scalar ^ 2 + motor.e12 ^ 2 - motor.e13 ^ 2 - motor.e23 ^ 2]

/-- Where a motor moves the origin, if the norm is one. -/
def shift :
    Fin 3 → ℝ :=
  ![-2 * (motor.e01 * motor.scalar + motor.e02 * motor.e12 + motor.e03 * motor.e13 +
        motor.e23 * motor.e0123),
    2 * (motor.e01 * motor.e12 - motor.e02 * motor.scalar - motor.e03 * motor.e23 +
        motor.e13 * motor.e0123),
    2 * (motor.e01 * motor.e13 + motor.e02 * motor.e23 - motor.e03 * motor.scalar -
        motor.e12 * motor.e0123)]

theorem rotation_mul_transpose :
    motor.rotation * motor.rotationᵀ = motor.norm ^ 2 • (1 : Matrix (Fin 3) (Fin 3) ℝ) := by
  ext row column
  fin_cases row <;> fin_cases column <;>
    simp [rotation, norm, Matrix.mul_apply, Fin.sum_univ_three] <;> ring

theorem det_rotation :
    motor.rotation.det = motor.norm ^ 3 := by
  rw [det_fin_three]
  simp [rotation, norm]
  ring

theorem rotation_mulVec
    (direction : Fin 3 → ℝ) :
    motor.rotation *ᵥ direction =
      ![(motor.scalar ^ 2 + motor.e23 ^ 2 - motor.e12 ^ 2 - motor.e13 ^ 2) * direction 0 +
          2 * (motor.e12 * motor.scalar - motor.e13 * motor.e23) * direction 1 +
          2 * (motor.e13 * motor.scalar + motor.e12 * motor.e23) * direction 2,
        -2 * (motor.e12 * motor.scalar + motor.e13 * motor.e23) * direction 0 +
          (motor.scalar ^ 2 + motor.e13 ^ 2 - motor.e12 ^ 2 - motor.e23 ^ 2) * direction 1 +
          2 * (motor.e23 * motor.scalar - motor.e12 * motor.e13) * direction 2,
        2 * (motor.e12 * motor.e23 - motor.e13 * motor.scalar) * direction 0 -
          2 * (motor.e23 * motor.scalar + motor.e12 * motor.e13) * direction 1 +
          (motor.scalar ^ 2 + motor.e12 ^ 2 - motor.e13 ^ 2 - motor.e23 ^ 2) * direction 2] := by
  ext row
  fin_cases row <;> simp [rotation, mulVec, dotProduct, Fin.sum_univ_three]
  ring

/-! ## The sandwich by rotation and shift -/

variable {slots moved : Nat → ℝ}

theorem coordinates_point
    (image : motor.sandwichOdd (.point slots) = (Odd.point moved).scale motor.norm) :
    motor.norm • coordinates moved 0 =
      motor.rotation *ᵥ coordinates slots 0 + motor.shift := by
  have x := congrArg Odd.e023 image
  have y := congrArg Odd.e013 image
  have z := congrArg Odd.e012 image
  simp only [sandwichOdd, act, Odd.mul, reverse, Odd.point, Odd.scale] at x y z
  ext place
  fin_cases place <;> simp [rotation_mulVec, coordinates, shift]
  · linear_combination x
  · linear_combination -y
  · linear_combination z

theorem coordinates_vector
    (image : motor.sandwichOdd (.vector slots) = .vector moved) :
    coordinates moved 0 = motor.rotation *ᵥ coordinates slots 0 := by
  have x := congrArg Odd.e023 image
  have y := congrArg Odd.e013 image
  have z := congrArg Odd.e012 image
  simp only [sandwichOdd, act, Odd.mul, reverse, Odd.vector] at x y z
  ext place
  fin_cases place <;> simp [rotation_mulVec, coordinates]
  · linear_combination x
  · linear_combination -y
  · linear_combination z

theorem normal_plane
    (image : motor.sandwichOdd (.plane slots) = .plane moved) :
    coordinates moved 1 = motor.rotation *ᵥ coordinates slots 1 := by
  have x := congrArg Odd.e1 image
  have y := congrArg Odd.e2 image
  have z := congrArg Odd.e3 image
  simp only [sandwichOdd, act, Odd.mul, reverse, Odd.plane] at x y z
  ext place
  fin_cases place <;> simp [rotation_mulVec, coordinates]
  · linear_combination -x
  · linear_combination -y
  · linear_combination -z

theorem distance_plane
    (image : motor.sandwichOdd (.plane slots) = .plane moved) :
    motor.norm * moved 0 =
      motor.norm ^ 2 * slots 0 - (motor.rotation *ᵥ coordinates slots 1) ⬝ᵥ motor.shift := by
  have distance := congrArg Odd.e0 image
  simp only [sandwichOdd, act, Odd.mul, reverse, Odd.plane] at distance
  rw [← distance]
  simp [rotation_mulVec, coordinates, shift, norm, dotProduct, Fin.sum_univ_three]
  ring

theorem direction_line
    (image : motor.sandwichEven (.line slots) = .line moved) :
    coordinates moved 0 = motor.rotation *ᵥ coordinates slots 0 := by
  have x := congrArg Even.e23 image
  have y := congrArg Even.e13 image
  have z := congrArg Even.e12 image
  simp only [sandwichEven, mul, reverse, line] at x y z
  ext place
  fin_cases place <;> simp [rotation_mulVec, coordinates]
  · linear_combination -x
  · linear_combination y
  · linear_combination -z

/-- The twist of a motor, if it has one, adds a multiple of the direction to the moment. -/
theorem moment_line
    (image : motor.sandwichEven (.line slots) = .line moved) :
    motor.norm • coordinates moved 3 =
      motor.norm • motor.rotation *ᵥ coordinates slots 3 +
        motor.shift ⨯₃ (motor.rotation *ᵥ coordinates slots 0) -
        motor.twist • motor.rotation *ᵥ coordinates slots 0 := by
  have x := congrArg Even.e01 image
  have y := congrArg Even.e02 image
  have z := congrArg Even.e03 image
  simp only [sandwichEven, mul, reverse, line] at x y z
  ext place
  fin_cases place <;>
    simp [rotation_mulVec, coordinates, shift, norm, twist, cross_apply, ← x, ← y, ← z] <;>
    ring

variable {motor}

/-! ## One motion for all primitives -/

/-- The rigid motion of a motor of norm one. -/
def motion
    (normalized : motor.norm = 1) :
    RigidMotion where
  rotation := motor.rotation
  shift := motor.shift
  orthogonal := by rw [rotation_mul_transpose, normalized, one_pow, one_smul]
  special := by rw [det_rotation, normalized, one_pow]

@[simp]
theorem motion_rotation
    (normalized : motor.norm = 1) :
    (motion normalized).rotation = motor.rotation :=
  rfl

@[simp]
theorem motion_shift
    (normalized : motor.norm = 1) :
    (motion normalized).shift = motor.shift :=
  rfl

/-- The sandwich with a unit motor moves every primitive by the motion of the motor. -/
theorem moves
    (normalized : motor.norm = 1)
    (untwisted : motor.twist = 0)
    {layout : Layout}
    (isPrimitive : layout.IsPrimitive)
    (image : sandwich motor.element (layout.valueAt slots) = layout.valueAt moved) :
    (motion normalized).Moves slots moved layout := by
  cases isPrimitive with
  | plane =>
      rw [valueAt_plane, valueAt_plane, sandwich_odd, Odd.element_injective.eq_iff] at image
      refine .plane (normal_plane motor image) ?_
      simpa [normalized] using distance_plane motor image
  | point =>
      rw [valueAt_point, valueAt_point, sandwich_odd, Odd.element_injective.eq_iff] at image
      have scaled : motor.sandwichOdd (.point slots) = (Odd.point moved).scale motor.norm := by
        rw [image, normalized, Odd.scale_one]
      refine .point ?_
      simpa [normalized] using coordinates_point motor scaled
  | vector =>
      rw [valueAt_vector, valueAt_vector, sandwich_odd, Odd.element_injective.eq_iff] at image
      exact .vector (coordinates_vector motor image)
  | line =>
      rw [valueAt_line, valueAt_line, sandwich_even, element_injective.eq_iff] at image
      refine .line (direction_line motor image) ?_
      simpa [normalized, untwisted] using moment_line motor image

end Even

/-! ## Transforming by unit motors -/

namespace Compute

open Entity

/-- Coordinates of an entity that is made are those that its type reads. -/
theorem Made.coordinates_eq
    {context behind : Context ℝ}
    {layout : Layout}
    {shapes : List (List Nat)}
    {value : List Nat → Element ℝ}
    {result : Entity ℝ}
    (made : Made context layout shapes value result behind)
    (isMoved : layout.IsMoved)
    {index : List Nat}
    (isIndex : Tensor.IsIndex result.batchShape index)
    {start : Nat}
    (inside : start + 2 < layout.width) :
    coordinates (result.entryAt index) start =
      coordinates (layout.read (value index)) start := by
  have entries {place : Nat} (below : place ≤ 2) :
      result.entryAt index (start + place) = layout.read (value index) (start + place) :=
    made.entryAt_eq isMoved (.refl _) isIndex (by omega)
  ext place
  fin_cases place
  · exact entries (Nat.zero_le 2)
  · exact entries one_le_two
  · exact entries le_rfl

/-- What is read off the sandwich with a unit motor is moved by its motion. -/
theorem Made.moves
    {context behind : Context ℝ}
    {shapes : List (List Nat)}
    {motor entity moved : Entity ℝ}
    (made :
      Made context entity.layout shapes
        (fun index => sandwich (motor.even index).element (entity.valueAt index)) moved behind)
    (isPrimitive : entity.layout.IsPrimitive)
    {target index : List Nat}
    (reaches : Tensor.Stretches moved.batchShape target)
    (isIndex : Tensor.IsIndex target index)
    (normalized : (motor.even index).norm = 1)
    (untwisted : (motor.even index).twist = 0)
    {slots : Nat → ℝ}
    (stands : entity.valueAt index = entity.layout.valueAt slots) :
    (Even.motion normalized).Moves slots (moved.entryAt index) entity.layout := by
  have weight : entity.layout.weight (motor.even index) = 1 := Layout.weight_of_norm normalized
  have image :=
    Layout.sandwich_eq_smul slots isPrimitive.isMoved (weight ▸ one_ne_zero)
  rw [weight, one_smul] at image
  have values := made.valueAt_eq target reaches index isIndex
  rw [Entity.valueAt_eq moved, made.layout_eq, stands] at values
  refine Even.moves normalized untwisted isPrimitive ?_
  rw [image, values]

/-- A unit motor is one rigid motion, at each of its indices, of all primitives. -/
theorem transform_moves
    {motor : Entity ℝ}
    (isMotor : motor.layout.IsMotor)
    (isUnit : motor.IsUnit) :
    ∃ motion : List Nat → RigidMotion,
      ∀ (context : Context ℝ) entity batch, context.IsReached → entity.layout.IsPrimitive →
        AreOperands context [motor, entity] →
        Tensor.commonShape [motor.batchShape, entity.batchShape] = .ok batch →
        (transform motor entity).Gives (context.limits.HasRoom batch) context fun moved =>
          moved.layout = entity.layout ∧ moved.batchShape = batch ∧
            ∀ index, Tensor.IsIndex batch index →
              (motion (Tensor.stretchIndex motor.batchShape index)).Moves
                (entity.entryAt index) (moved.entryAt index) entity.layout := by
  have motions (place : List Nat) :
      ∃ motion : RigidMotion, ∀ normalized : (motor.even place).norm = 1,
        motion = Even.motion normalized := by
    by_cases normalized : (motor.even place).norm = 1
    · exact ⟨Even.motion normalized, fun _ => rfl⟩
    · exact ⟨.rest, fun isOne => absurd isOne normalized⟩
  choose motion motion_eq using motions
  refine ⟨motion, fun context entity batch reached isPrimitive operands broadcast => ?_⟩
  refine (ensures_transform reached.isReady isMotor isPrimitive.isMoved operands
    fun room => ⟨batch, broadcast, room⟩).gives fun moved behind made => ?_
  have sameBatch : moved.batchShape = batch :=
    Except.ok.inj (made.broadcast.symm.trans broadcast)
  refine ⟨made.layout_eq, sameBatch, fun index isIndex => ?_⟩
  have motorReaches := Tensor.stretches_of_commonShape broadcast _ (.head _)
  have unitAt := isUnit.norm_twist isMotor motorReaches isIndex
  have moves :=
    made.moves isPrimitive (sameBatch ▸ .refl _) isIndex unitAt.1 unitAt.2
      (valueAt_eq entity index)
  have sameEven := even_stretch (.refl _) motorReaches isIndex
  have sameMotion := motion_eq _ ((congrArg Even.norm sameEven).trans unitAt.1)
  rw [sameMotion]
  simpa only [sameEven] using moves

/-- A line is moved by the motion of a screw. -/
theorem transform_moves_screw :
    ∃ motion : RigidMotion,
      (transform screw someLine).Gives True (.start 2) fun moved =>
        moved.layout = .line ∧ moved.batchShape = [] ∧
          motion.Moves (someLine.entryAt []) (moved.entryAt []) .line := by
  have isMotor : screw.layout.IsMotor := .motor
  rcases transform_moves isMotor isUnit_screw with ⟨motion, moves⟩
  refine ⟨motion [], ?_⟩
  have moved :=
    moves (.start 2) someLine [] (Context.isReached_start 2) .line areOperands_screw rfl
  exact
    ⟨fun _ => moved.succeeds (Limits.hasRoom_usual (by decide)), fun result computed =>
      (moved.holds result computed).imp_right (And.imp_right fun movesAt => movesAt [] .nil)⟩

end Compute

end Versor

end
