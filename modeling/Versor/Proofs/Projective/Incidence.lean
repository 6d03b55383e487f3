import Versor.Proofs.Projective.RigidMotion

/-!
# Incidence in coordinates

Planes, places and lines are given by numbers and vectors of three coordinates
each; a place is a point of some weight, and a direction if the weight is zero.
The exterior product that intersects, the regressive product that spans and
the contraction that projects are written out by dot and cross products of
these vectors (`plane_wedge_plane` and its siblings).
-/

noncomputable section

namespace Versor

open Matrix Reference

/-! ## Planes, places and lines -/

namespace Odd

/-- The plane with a distance and a normal. -/
def ofPlane
    (distance : ℝ)
    (normal : Fin 3 → ℝ) :
    Odd ℝ :=
  ⟨distance, normal 0, normal 1, normal 2, 0, 0, 0, 0⟩

/-- The point of some weight, or the direction if that is zero, with given coordinates. -/
def ofPlace
    (weight : ℝ)
    (position : Fin 3 → ℝ) :
    Odd ℝ :=
  ⟨0, 0, 0, 0, -position 2, position 1, -position 0, weight⟩

theorem plane_eq
    (slots : Nat → ℝ) :
    plane slots = ofPlane (slots 0) (coordinates slots 1) :=
  rfl

theorem point_eq
    (slots : Nat → ℝ) :
    point slots = ofPlace 1 (coordinates slots 0) :=
  rfl

theorem vector_eq
    (slots : Nat → ℝ) :
    vector slots = ofPlace 0 (coordinates slots 0) :=
  rfl

/-- The normal of the plane in an odd element. -/
def normal
    (odd : Odd ℝ) :
    Fin 3 → ℝ :=
  ![odd.e1, odd.e2, odd.e3]

/-- The coordinates of the place in an odd element, without its weight. -/
def position
    (odd : Odd ℝ) :
    Fin 3 → ℝ :=
  ![-odd.e023, odd.e013, -odd.e012]

@[simp]
theorem normal_ofPlane
    (distance : ℝ)
    (normal : Fin 3 → ℝ) :
    (ofPlane distance normal).normal = normal := by
  ext place
  fin_cases place <;> rfl

@[simp]
theorem position_ofPlace
    (weight : ℝ)
    (position : Fin 3 → ℝ) :
    (ofPlace weight position).position = position := by
  ext place
  fin_cases place <;> simp [Odd.position, ofPlace]

end Odd

namespace Even

/-- The line with a direction and a moment. -/
def ofLine
    (direction moment : Fin 3 → ℝ) :
    Even ℝ :=
  ⟨0, moment 0, moment 1, moment 2, direction 2, -direction 1, direction 0, 0⟩

/-- A number. -/
def ofNumber
    (number : ℝ) :
    Even ℝ :=
  ⟨number, 0, 0, 0, 0, 0, 0, 0⟩

theorem line_eq
    (slots : Nat → ℝ) :
    line slots = ofLine (coordinates slots 0) (coordinates slots 3) :=
  rfl

/-- The direction of the line in an even element. -/
def direction
    (even : Even ℝ) :
    Fin 3 → ℝ :=
  ![even.e23, -even.e13, even.e12]

/-- The moment of the line in an even element. -/
def moment
    (even : Even ℝ) :
    Fin 3 → ℝ :=
  ![even.e01, even.e02, even.e03]

@[simp]
theorem direction_ofLine
    (direction moment : Fin 3 → ℝ) :
    (ofLine direction moment).direction = direction := by
  ext place
  fin_cases place <;> simp [Even.direction, ofLine]

@[simp]
theorem moment_ofLine
    (direction moment : Fin 3 → ℝ) :
    (ofLine direction moment).moment = moment := by
  ext place
  fin_cases place <;> rfl

end Even

/-! ## The coordinates of entities -/

namespace Entity

/-- The coordinates of a point or a direction at an index. -/
def positionAt
    (place : Entity ℝ)
    (index : List Nat) :
    Fin 3 → ℝ :=
  coordinates (place.entryAt index) 0

/-- The direction of a line at an index. -/
def directionAt
    (line : Entity ℝ)
    (index : List Nat) :
    Fin 3 → ℝ :=
  coordinates (line.entryAt index) 0

/-- The moment of a line at an index. -/
def momentAt
    (line : Entity ℝ)
    (index : List Nat) :
    Fin 3 → ℝ :=
  coordinates (line.entryAt index) 3

/-- The distance of a plane at an index. -/
def distanceAt
    (plane : Entity ℝ)
    (index : List Nat) :
    ℝ :=
  plane.entryAt index 0

/-- The normal of a plane at an index. -/
def normalAt
    (plane : Entity ℝ)
    (index : List Nat) :
    Fin 3 → ℝ :=
  coordinates (plane.entryAt index) 1

variable {entity : Entity ℝ}

theorem valueAt_of_plane
    (isPlane : entity.layout = .plane)
    (index : List Nat) :
    entity.valueAt index =
      (Odd.ofPlane (entity.distanceAt index) (entity.normalAt index)).element := by
  rw [valueAt_eq, isPlane, valueAt_plane, Odd.plane_eq]
  rfl

theorem valueAt_of_point
    (isPoint : entity.layout = .point)
    (index : List Nat) :
    entity.valueAt index = (Odd.ofPlace 1 (entity.positionAt index)).element := by
  rw [valueAt_eq, isPoint, valueAt_point, Odd.point_eq]
  rfl

theorem valueAt_of_line
    (isLine : entity.layout = .line)
    (index : List Nat) :
    entity.valueAt index =
      (Even.ofLine (entity.directionAt index) (entity.momentAt index)).element := by
  rw [valueAt_eq, isLine, valueAt_line, Even.line_eq]
  rfl

end Entity

/-! ## Places -/

/-- The types of points and directions. -/
inductive Layout.IsPlace : Layout → Prop
  | point : IsPlace .point
  | vector : IsPlace .vector

namespace Layout.IsPlace

variable
  {layout : Layout}
  (isPlace : layout.IsPlace)

include isPlace

theorem isPrimitive :
    layout.IsPrimitive := by
  cases isPlace with
  | point => exact .point
  | vector => exact .vector

theorem width :
    layout.width = 3 := by
  cases isPlace <;> rfl

/-- Places of one type have one weight. -/
theorem exists_weight :
    ∃ weight, ∀ slots : Nat → ℝ,
      layout.valueAt slots = (Odd.ofPlace weight (coordinates slots 0)).element := by
  cases isPlace with
  | point => exact ⟨1, fun slots => (valueAt_point slots).trans (congrArg _ (Odd.point_eq slots))⟩
  | vector =>
      exact ⟨0, fun slots => (valueAt_vector slots).trans (congrArg _ (Odd.vector_eq slots))⟩

end Layout.IsPlace

/-! ## What the types read -/

namespace Layout

theorem coordinates_read_plane
    (odd : Odd ℝ) :
    coordinates (Layout.plane.read odd.element) 1 = odd.normal := by
  rw [read_plane]
  rfl

theorem coordinates_read_point
    (odd : Odd ℝ) :
    coordinates (Layout.point.read odd.element) 0 = odd.e123⁻¹ • odd.position := by
  rw [read_point]
  ext place
  fin_cases place <;> simp [coordinates, Odd.position, div_eq_inv_mul]

theorem coordinates_read_vector
    (odd : Odd ℝ) :
    coordinates (Layout.vector.read odd.element) 0 = odd.position := by
  rw [read_vector]
  rfl

theorem coordinates_read_line
    (even : Even ℝ) :
    coordinates (Layout.line.read even.element) 0 = even.direction ∧
      coordinates (Layout.line.read even.element) 3 = even.moment := by
  rw [read_line]
  exact ⟨rfl, rfl⟩

end Layout

/-! ## Products blade by blade -/

/-- A product in the projective algebra has on every blade the sum of what it keeps there. -/
theorem product_eq_of_coefficient
    {kind : ProductKind}
    {first second result : Blade → ℝ}
    (same :
      ∀ target < 16,
        (∑ blade ∈ Finset.range 16,
          if kind.keeps blade (blade ^^^ target) then
            (Algebra.projective.productSign blade (blade ^^^ target) : ℝ) *
              (first blade * second (blade ^^^ target))
          else 0) =
          result target) :
    product Algebra.projective.metric kind (ofCoefficients .projective first)
        (ofCoefficients .projective second) =
      ofCoefficients .projective result := by
  rw [product_ofCoefficients]
  refine ofCoefficients_congr fun target below => ?_
  rw [Algebra.bladeCount_projective] at below ⊢
  exact same target below

variable
  (distance otherDistance weight otherWeight : ℝ)
  (normal otherNormal position otherPosition direction otherDirection moment otherMoment :
    Fin 3 → ℝ)

/-! ### Intersections -/

/-- Two planes meet in a line. -/
theorem plane_wedge_plane :
    product Algebra.projective.metric .exterior (Odd.ofPlane distance normal).element
        (Odd.ofPlane otherDistance otherNormal).element =
      (Even.ofLine (normal ⨯₃ otherNormal)
        (distance • otherNormal - otherDistance • normal)).element := by
  refine product_eq_of_coefficient fun target below => ?_
  rw [sum_range_sixteen]
  interval_cases target <;>
    simp only [Odd.coefficient, Odd.ofPlane, Nat.reduceXor, mul_zero, zero_mul, ite_self,
      add_zero, zero_add] <;>
    simp [Algebra.productSign_projective, Even.coefficient, Even.ofLine, ProductKind.keeps,
      Nat.testBit, cross_apply] <;>
    ring

/-- A plane and a line meet in a place. -/
theorem plane_wedge_line :
    product Algebra.projective.metric .exterior (Odd.ofPlane distance normal).element
        (Even.ofLine direction moment).element =
      (Odd.ofPlace (normal ⬝ᵥ direction) (normal ⨯₃ moment - distance • direction)).element := by
  refine product_eq_of_coefficient fun target below => ?_
  rw [sum_range_sixteen]
  interval_cases target <;>
    simp only [Odd.coefficient, Odd.ofPlane, Even.coefficient, Even.ofLine, Nat.reduceXor,
      mul_zero, zero_mul, ite_self, add_zero, zero_add] <;>
    simp [Algebra.productSign_projective, Odd.ofPlace, ProductKind.keeps, Nat.testBit,
      cross_apply, dotProduct, Fin.sum_univ_three] <;>
    ring

/-- A line and a plane meet where they meet in the other order. -/
theorem line_wedge_plane :
    product Algebra.projective.metric .exterior (Even.ofLine direction moment).element
        (Odd.ofPlane distance normal).element =
      (Odd.ofPlace (normal ⬝ᵥ direction) (normal ⨯₃ moment - distance • direction)).element := by
  refine product_eq_of_coefficient fun target below => ?_
  rw [sum_range_sixteen]
  interval_cases target <;>
    simp only [Odd.coefficient, Odd.ofPlane, Even.coefficient, Even.ofLine, Nat.reduceXor,
      mul_zero, zero_mul, ite_self, add_zero, zero_add] <;>
    simp [Algebra.productSign_projective, Odd.ofPlace, ProductKind.keeps, Nat.testBit,
      cross_apply, dotProduct, Fin.sum_univ_three] <;>
    ring

/-! ### Contractions -/

/-- A plane contracted with a plane is a number. -/
theorem plane_contract_plane :
    product Algebra.projective.metric .leftContraction (Odd.ofPlane distance normal).element
        (Odd.ofPlane otherDistance otherNormal).element =
      (Even.ofNumber (normal ⬝ᵥ otherNormal)).element := by
  refine product_eq_of_coefficient fun target below => ?_
  rw [sum_range_sixteen]
  interval_cases target <;>
    simp only [Odd.coefficient, Odd.ofPlane, Nat.reduceXor, mul_zero, zero_mul, ite_self,
      add_zero, zero_add] <;>
    simp [Algebra.productSign_projective, Even.coefficient, Even.ofNumber, ProductKind.keeps,
      Nat.testBit, dotProduct, Fin.sum_univ_three]

/-- A plane contracted with a place is the line through the place in the direction of the normal. -/
theorem plane_contract_place :
    product Algebra.projective.metric .leftContraction (Odd.ofPlane distance normal).element
        (Odd.ofPlace weight position).element =
      (Even.ofLine (weight • normal) (position ⨯₃ normal)).element := by
  refine product_eq_of_coefficient fun target below => ?_
  rw [sum_range_sixteen]
  interval_cases target <;>
    simp only [Odd.coefficient, Odd.ofPlane, Odd.ofPlace, Nat.reduceXor, mul_zero, zero_mul,
      ite_self, add_zero, zero_add] <;>
    simp [Algebra.productSign_projective, Even.coefficient, Even.ofLine, ProductKind.keeps,
      Nat.testBit, cross_apply] <;>
    ring

/-- A plane contracted with a line is a plane. -/
theorem plane_contract_line :
    product Algebra.projective.metric .leftContraction (Odd.ofPlane distance normal).element
        (Even.ofLine direction moment).element =
      (Odd.ofPlane (-(normal ⬝ᵥ moment)) (direction ⨯₃ normal)).element := by
  refine product_eq_of_coefficient fun target below => ?_
  rw [sum_range_sixteen]
  interval_cases target <;>
    simp only [Odd.coefficient, Odd.ofPlane, Even.coefficient, Even.ofLine, Nat.reduceXor,
      mul_zero, zero_mul, ite_self, add_zero, zero_add] <;>
    simp [Algebra.productSign_projective, ProductKind.keeps, Nat.testBit, cross_apply,
      dotProduct, Fin.sum_univ_three] <;>
    ring

/-- A line contracted with a place is the plane through the place across the line. -/
theorem line_contract_place :
    product Algebra.projective.metric .leftContraction (Even.ofLine direction moment).element
        (Odd.ofPlace weight position).element =
      (Odd.ofPlane (position ⬝ᵥ direction) (-weight • direction)).element := by
  refine product_eq_of_coefficient fun target below => ?_
  rw [sum_range_sixteen]
  interval_cases target <;>
    simp only [Even.coefficient, Even.ofLine, Odd.coefficient, Odd.ofPlace, Nat.reduceXor,
      mul_zero, zero_mul, ite_self, add_zero, zero_add] <;>
    simp [Algebra.productSign_projective, Odd.ofPlane, ProductKind.keeps, Nat.testBit,
      dotProduct, Fin.sum_univ_three] <;>
    ring

/-- A line contracted with a line is a number, which is negative for the line itself. -/
theorem line_contract_line :
    product Algebra.projective.metric .leftContraction (Even.ofLine direction moment).element
        (Even.ofLine otherDirection otherMoment).element =
      (Even.ofNumber (-(direction ⬝ᵥ otherDirection))).element := by
  refine product_eq_of_coefficient fun target below => ?_
  rw [sum_range_sixteen]
  interval_cases target <;>
    simp only [Even.coefficient, Even.ofLine, Nat.reduceXor, mul_zero, zero_mul, ite_self,
      add_zero, zero_add] <;>
    simp [Algebra.productSign_projective, Even.ofNumber, ProductKind.keeps, Nat.testBit,
      dotProduct, Fin.sum_univ_three]
  ring

/-- Nothing is left of a line contracted with a plane. -/
theorem line_contract_plane :
    product Algebra.projective.metric .leftContraction (Even.ofLine direction moment).element
        (Odd.ofPlane distance normal).element =
      (Odd.ofPlane 0 0).element := by
  refine product_eq_of_coefficient fun target below => ?_
  rw [sum_range_sixteen]
  interval_cases target <;>
    simp only [Even.coefficient, Even.ofLine, Odd.coefficient, Odd.ofPlane, Nat.reduceXor,
      mul_zero, zero_mul, ite_self, add_zero, zero_add] <;>
    simp [ProductKind.keeps]

/-! ### Geometric products -/

/-- The product of planes has the line in which they meet. -/
theorem plane_mul_plane :
    ∃ even : Even ℝ,
      product Algebra.projective.metric .geometric (Odd.ofPlane distance normal).element
          (Odd.ofPlane otherDistance otherNormal).element = even.element ∧
        even.direction = normal ⨯₃ otherNormal ∧
        even.moment = distance • otherNormal - otherDistance • normal := by
  refine
    ⟨{ Even.ofLine (normal ⨯₃ otherNormal)
          (distance • otherNormal - otherDistance • normal) with
        scalar := normal ⬝ᵥ otherNormal }, ?_, ?_, ?_⟩
  · refine product_eq_of_coefficient fun target below => ?_
    rw [sum_range_sixteen]
    interval_cases target <;>
      simp only [Odd.coefficient, Odd.ofPlane, Nat.reduceXor, mul_zero, zero_mul, ite_self,
        add_zero, zero_add] <;>
      simp [Algebra.productSign_projective, Even.coefficient, Even.ofLine, ProductKind.keeps,
        Nat.testBit, cross_apply, dotProduct, Fin.sum_univ_three] <;>
      ring
  · ext place
    fin_cases place <;> simp [Even.direction, Even.ofLine]
  · ext place
    fin_cases place <;> simp [Even.moment, Even.ofLine]

/-- The product of a line and a plane has the place in which they meet. -/
theorem line_act_plane :
    ((Even.ofLine direction moment).act (Odd.ofPlane distance normal)).e123 =
        normal ⬝ᵥ direction ∧
      ((Even.ofLine direction moment).act (Odd.ofPlane distance normal)).position =
        normal ⨯₃ moment - distance • direction := by
  constructor
  · simp [Even.act, Even.ofLine, Odd.ofPlane, dotProduct, Fin.sum_univ_three]
    ring
  · ext place
    fin_cases place <;>
      simp [Even.act, Even.ofLine, Odd.ofPlane, Odd.position, cross_apply] <;> ring

/-- So has the product in the other order. -/
theorem plane_mul_line :
    ((Odd.ofPlane distance normal).mul (Even.ofLine direction moment)).e123 =
        normal ⬝ᵥ direction ∧
      ((Odd.ofPlane distance normal).mul (Even.ofLine direction moment)).position =
        normal ⨯₃ moment - distance • direction := by
  constructor
  · simp [Odd.mul, Even.ofLine, Odd.ofPlane, dotProduct, Fin.sum_univ_three]
  · ext place
    fin_cases place <;>
      simp [Odd.mul, Even.ofLine, Odd.ofPlane, Odd.position, cross_apply] <;> ring

/-! ### Spans -/

theorem complement_projective :
    ∀ blade < 16,
      (Algebra.projective.complement blade).2 = if Nat.testBit 0x4D24 blade then -1 else 1 := by
  decide

theorem leftComplement_projective :
    ∀ blade < 16,
      (Algebra.projective.leftComplement blade).2 =
        if Nat.testBit 0x24B2 blade then -1 else 1 := by
  decide

theorem pseudoscalar_projective :
    Algebra.projective.pseudoscalar = 15 := by
  decide

/-- The dual of a place is a plane. -/
theorem dual_place :
    dual Algebra.projective.metric (Odd.ofPlace weight position).element =
      (Odd.ofPlane (-weight) (-position)).element := by
  rw [Odd.element, dual_ofCoefficients]
  refine ofCoefficients_congr fun target below => ?_
  rw [Algebra.bladeCount_projective] at below
  rw [pseudoscalar_projective]
  interval_cases target <;>
    simp [complement_projective, Odd.coefficient, Odd.ofPlace, Odd.ofPlane, Nat.testBit]

/-- The dual of a line exchanges the direction and the moment. -/
theorem dual_line :
    dual Algebra.projective.metric (Even.ofLine direction moment).element =
      (Even.ofLine moment direction).element := by
  rw [Even.element, dual_ofCoefficients]
  refine ofCoefficients_congr fun target below => ?_
  rw [Algebra.bladeCount_projective] at below
  rw [pseudoscalar_projective]
  interval_cases target <;>
    simp [complement_projective, Even.coefficient, Even.ofLine, Nat.testBit]

theorem undual_line :
    undual Algebra.projective.metric (Even.ofLine direction moment).element =
      (Even.ofLine moment direction).element := by
  rw [Even.element, undual_ofCoefficients]
  refine ofCoefficients_congr fun target below => ?_
  rw [Algebra.bladeCount_projective] at below
  rw [pseudoscalar_projective]
  interval_cases target <;>
    simp [leftComplement_projective, Even.coefficient, Even.ofLine, Nat.testBit]

theorem undual_place :
    undual Algebra.projective.metric (Odd.ofPlace weight position).element =
      (Odd.ofPlane weight position).element := by
  rw [Odd.element, undual_ofCoefficients]
  refine ofCoefficients_congr fun target below => ?_
  rw [Algebra.bladeCount_projective] at below
  rw [pseudoscalar_projective]
  interval_cases target <;>
    simp [leftComplement_projective, Odd.coefficient, Odd.ofPlace, Odd.ofPlane, Nat.testBit]

/-- Two places span the line from the first one to the second. -/
theorem place_vee_place :
    regressive Algebra.projective.metric (Odd.ofPlace weight position).element
        (Odd.ofPlace otherWeight otherPosition).element =
      (Even.ofLine (weight • otherPosition - otherWeight • position)
        (position ⨯₃ otherPosition)).element := by
  rw [regressive, dual_place, dual_place, plane_wedge_plane, undual_line]
  congr 2
  · module
  · simp

/-- A place and a line span a plane. -/
theorem place_vee_line :
    regressive Algebra.projective.metric (Odd.ofPlace weight position).element
        (Even.ofLine direction moment).element =
      (Odd.ofPlane (-(position ⬝ᵥ moment)) (weight • moment - position ⨯₃ direction)).element := by
  rw [regressive, dual_place, dual_line, plane_wedge_line, undual_place]
  congr 2
  · simp
  · rw [map_neg, LinearMap.neg_apply]
    module

/-- A line and a place span what they span in the other order. -/
theorem line_vee_place :
    regressive Algebra.projective.metric (Even.ofLine direction moment).element
        (Odd.ofPlace weight position).element =
      (Odd.ofPlane (-(position ⬝ᵥ moment)) (weight • moment - position ⨯₃ direction)).element := by
  rw [← place_vee_line, regressive, regressive, dual_place, dual_line, plane_wedge_line,
    line_wedge_plane]

end Versor

end
