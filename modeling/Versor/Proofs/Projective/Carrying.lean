import Versor.Proofs.Projective.Projection
import Versor.Proofs.Projective.Recognition

/-!
# What motions carry

A rigid motion carries the planes, the lines and the places among the elements
of a grade (`RigidMotion.Carries`).  Where two of them are carried, the one in
which they meet or which joins them is carried by the same motion
(`Incidence.Makes.carries`), and its weight stays.  The motion at rest shows
that what is made has one grade, and so it is a primitive
(`Incidence.Makes.singleGrade?_eq`).
-/

noncomputable section

namespace Versor

open Compute Matrix Reference

/-! ## Grades of types -/

namespace Layout

/-- Planes have the grade one, lines the grade two, points and directions the grade three. -/
inductive HasGrade : Layout → Nat → Prop
  | plane : HasGrade .plane 1
  | line : HasGrade .line 2
  | place
    {layout : Layout}
    (isPlace : layout.IsPlace) :
    HasGrade layout 3

variable
  {layout : Layout}
  {grade : Nat}

theorem HasGrade.isPrimitive
    (hasGrade : layout.HasGrade grade) :
    layout.IsPrimitive := by
  cases hasGrade with
  | plane => exact .plane
  | line => exact .line
  | place isPlace => exact isPlace.isPrimitive

/-- Only for elements of grade three it matters if they are ideal. -/
theorem primitiveLayout?_congr
    {ideal idealToo : Prop}
    (same : grade = 3 → (ideal ↔ idealToo)) :
    primitiveLayout? (some grade) ideal = primitiveLayout? (some grade) idealToo := by
  by_cases isThree : grade = 3
  · rw [propext (same isThree)]
  · unfold primitiveLayout?
    split <;> simp_all

/-- Elements of a grade are recognized as primitives of this grade. -/
theorem hasGrade_of_primitiveLayout?
    {ideal : Prop}
    (recognized : primitiveLayout? (some grade) ideal = some layout) :
    layout.HasGrade grade := by
  unfold primitiveLayout? at recognized
  split at recognized
  · next isOne =>
    cases isOne
    cases recognized
    exact .plane
  · next isTwo =>
    cases isTwo
    cases recognized
    exact .line
  · next isThree =>
    cases isThree
    cases recognized
    split
    · exact .place .vector
    · exact .place .point
  · cases recognized

end Layout

/-! ## What motions carry -/

namespace RigidMotion

variable (motion : RigidMotion)

/-- What a motion does to the planes, the lines and the places among the elements of a grade. -/
inductive Carries : Nat → Element ℝ → Element ℝ → Prop
  | plane
    (distance : ℝ)
    (normal : Fin 3 → ℝ) :
    Carries 1 (Odd.ofPlane distance normal).element
      (Odd.ofPlane (distance - (motion.rotation *ᵥ normal) ⬝ᵥ motion.shift)
        (motion.rotation *ᵥ normal)).element
  | line
    (direction moment : Fin 3 → ℝ) :
    Carries 2 (Even.ofLine direction moment).element
      (Even.ofLine (motion.rotation *ᵥ direction)
        (motion.rotation *ᵥ moment + motion.shift ⨯₃ (motion.rotation *ᵥ direction))).element
  | place
    (weight : ℝ)
    (position : Fin 3 → ℝ) :
    Carries 3 (Odd.ofPlace weight position).element
      (Odd.ofPlace weight (motion.rotation *ᵥ position + weight • motion.shift)).element

namespace Carries

variable
  {motion : RigidMotion}
  {grade : Nat}
  {layout : Layout}
  {first firstMoved second secondMoved : Element ℝ}

theorem congr
    {other : Element ℝ}
    (carried : motion.Carries grade first firstMoved)
    (same : firstMoved = other) :
    motion.Carries grade first other :=
  same ▸ carried

/-- A motion that moves the slots of a type carries what these stand for. -/
theorem of_moves
    {slots moved : Nat → ℝ}
    (hasGrade : layout.HasGrade grade)
    (moves : motion.Moves slots moved layout) :
    motion.Carries grade (layout.valueAt slots) (layout.valueAt moved) := by
  cases moves with
  | plane normal distance =>
      cases hasGrade with
      | plane =>
          rw [valueAt_plane, valueAt_plane, Odd.plane_eq, Odd.plane_eq, normal, distance]
          exact .plane _ _
      | place isPlace => cases isPlace
  | line direction moment =>
      cases hasGrade with
      | line =>
          rw [valueAt_line, valueAt_line, Even.line_eq, Even.line_eq, direction, moment]
          exact .line _ _
      | place isPlace => cases isPlace
  | point position =>
      cases hasGrade
      rw [valueAt_point, valueAt_point, Odd.point_eq, Odd.point_eq, position]
      refine (Carries.place _ _).congr ?_
      rw [one_smul]
  | vector direction =>
      cases hasGrade
      rw [valueAt_vector, valueAt_vector, Odd.vector_eq, Odd.vector_eq, direction]
      refine (Carries.place _ _).congr ?_
      rw [zero_smul, add_zero]

/-- What is carried has words of one length only. -/
theorem length_eq
    (carried : motion.Carries grade first firstMoved)
    {word : Word}
    (nonzero : first word ≠ 0) :
    word.length = grade := by
  cases carried <;>
    rcases exists_of_ofCoefficients_ne_zero nonzero with ⟨blade, below, rfl, present⟩ <;>
    rw [Algebra.bladeCount_projective] at below <;>
    interval_cases blade <;>
    first
      | rfl
      | exact absurd rfl present

/-- A motion does not change weights. -/
theorem weight_eq
    (carried : motion.Carries grade first firstMoved) :
    firstMoved (Blade.vectors .e123) = first (Blade.vectors .e123) := by
  have below : Blade.e123 < 16 := by decide
  cases carried with
  | plane distance normal =>
      rw [Odd.element_apply _ below, Odd.element_apply _ below]
      rfl
  | line direction moment =>
      rw [Even.element_apply _ below, Even.element_apply _ below]
      rfl
  | place weight position =>
      rw [Odd.element_apply _ below, Odd.element_apply _ below]
      rfl

/-- The slots that a type reads are moved as the element is carried. -/
theorem moves_read
    (carried : motion.Carries grade first firstMoved)
    (recognized :
      primitiveLayout? (some grade) (first (Blade.vectors .e123) = 0) = some layout) :
    motion.Moves (layout.read first) (layout.read firstMoved) layout := by
  cases carried with
  | plane distance normal =>
      cases recognized
      refine .plane ?_ ?_
      · simp [Layout.coordinates_read_plane]
      · rw [Layout.coordinates_read_plane, Odd.normal_ofPlane, Layout.read_plane,
          Layout.read_plane]
        rfl
  | line direction moment =>
      cases recognized
      refine .line ?_ ?_ <;>
        simp [(Layout.coordinates_read_line _).1, (Layout.coordinates_read_line _).2]
  | place weight position =>
      have hasWeight : (Odd.ofPlace weight position).element (Blade.vectors .e123) = weight :=
        Odd.element_apply _ (by decide)
      rw [hasWeight] at recognized
      by_cases zero : weight = 0
      · simp only [primitiveLayout?, if_pos zero] at recognized
        cases recognized
        refine .vector ?_
        simp [Layout.coordinates_read_vector, zero]
      · simp only [primitiveLayout?, if_neg zero] at recognized
        cases recognized
        refine .point ?_
        rw [Layout.coordinates_read_point, Layout.coordinates_read_point, Odd.position_ofPlace,
          Odd.position_ofPlace, smul_add, mulVec_smul]
        congr 1
        exact inv_smul_smul₀ zero motion.shift

/-! ### Intersections and spans -/

theorem plane_wedge_plane
    (firstCarried : motion.Carries 1 first firstMoved)
    (secondCarried : motion.Carries 1 second secondMoved) :
    motion.Carries 2 (product Algebra.projective.metric .exterior first second)
      (product Algebra.projective.metric .exterior firstMoved secondMoved) := by
  cases firstCarried with | plane distance normal =>
  cases secondCarried with | plane otherDistance otherNormal =>
  rw [Versor.plane_wedge_plane, Versor.plane_wedge_plane]
  refine (Carries.line _ _).congr ?_
  rw [mulVec_cross, mulVec_sub, mulVec_smul, mulVec_smul, cross_cross_eq_smul_sub_smul',
    dotProduct_comm motion.shift]
  congr 2
  module

theorem plane_wedge_line
    (firstCarried : motion.Carries 1 first firstMoved)
    (secondCarried : motion.Carries 2 second secondMoved) :
    motion.Carries 3 (product Algebra.projective.metric .exterior first second)
      (product Algebra.projective.metric .exterior firstMoved secondMoved) := by
  cases firstCarried with | plane distance normal =>
  cases secondCarried with | line direction moment =>
  rw [Versor.plane_wedge_line, Versor.plane_wedge_line]
  refine (Carries.place _ _).congr ?_
  rw [dotProduct_mulVec_mulVec, mulVec_sub, mulVec_smul, mulVec_cross, map_add,
    cross_cross_eq_smul_sub_smul', dotProduct_mulVec_mulVec, dotProduct_comm motion.shift]
  congr 2
  module

theorem line_wedge_plane
    (firstCarried : motion.Carries 2 first firstMoved)
    (secondCarried : motion.Carries 1 second secondMoved) :
    motion.Carries 3 (product Algebra.projective.metric .exterior first second)
      (product Algebra.projective.metric .exterior firstMoved secondMoved) := by
  have exchanged := plane_wedge_line secondCarried firstCarried
  cases firstCarried with | line direction moment =>
  cases secondCarried with | plane distance normal =>
  rw [Versor.line_wedge_plane, Versor.line_wedge_plane, ← Versor.plane_wedge_line,
    ← Versor.plane_wedge_line]
  exact exchanged

theorem place_vee_place
    (firstCarried : motion.Carries 3 first firstMoved)
    (secondCarried : motion.Carries 3 second secondMoved) :
    motion.Carries 2 (regressive Algebra.projective.metric first second)
      (regressive Algebra.projective.metric firstMoved secondMoved) := by
  cases firstCarried with | place weight position =>
  cases secondCarried with | place otherWeight otherPosition =>
  rw [Versor.place_vee_place, Versor.place_vee_place]
  refine (Carries.line _ _).congr ?_
  rw [mulVec_cross, mulVec_sub, mulVec_smul, mulVec_smul]
  congr 2
  · module
  · simp only [map_add, map_sub, map_smul, LinearMap.add_apply, LinearMap.smul_apply, cross_self,
      ← cross_anticomm motion.shift (motion.rotation *ᵥ position)]
    module

theorem place_vee_line
    (firstCarried : motion.Carries 3 first firstMoved)
    (secondCarried : motion.Carries 2 second secondMoved) :
    motion.Carries 1 (regressive Algebra.projective.metric first second)
      (regressive Algebra.projective.metric firstMoved secondMoved) := by
  cases firstCarried with | place weight position =>
  cases secondCarried with | line direction moment =>
  rw [Versor.place_vee_line, Versor.place_vee_line]
  refine (Carries.plane _ _).congr ?_
  rw [mulVec_sub, mulVec_smul, mulVec_cross]
  have turned :
      motion.rotation *ᵥ position ⬝ᵥ motion.shift ⨯₃ (motion.rotation *ᵥ direction) =
        -((motion.rotation *ᵥ position) ⨯₃ (motion.rotation *ᵥ direction) ⬝ᵥ motion.shift) := by
    rw [triple_product_permutation, ← cross_anticomm, dotProduct_neg, dotProduct_comm]
  congr 2
  · simp only [sub_dotProduct, add_dotProduct, dotProduct_add, smul_dotProduct, turned,
      dotProduct_mulVec_mulVec, dot_self_cross, smul_eq_mul]
    rw [dotProduct_comm motion.shift]
    ring
  · simp only [map_add, map_smul, LinearMap.add_apply, LinearMap.smul_apply]
    module

theorem line_vee_place
    (firstCarried : motion.Carries 2 first firstMoved)
    (secondCarried : motion.Carries 3 second secondMoved) :
    motion.Carries 1 (regressive Algebra.projective.metric first second)
      (regressive Algebra.projective.metric firstMoved secondMoved) := by
  have exchanged := place_vee_line secondCarried firstCarried
  cases firstCarried with | line direction moment =>
  cases secondCarried with | place weight position =>
  rw [Versor.line_vee_place, Versor.line_vee_place, ← Versor.place_vee_line,
    ← Versor.place_vee_line]
  exact exchanged

end Carries

/-- A motion moves the slots of a type to one place. -/
theorem Moves.unique
    {motion : RigidMotion}
    {slots moved others : Nat → ℝ}
    {layout : Layout}
    (moves : motion.Moves slots moved layout)
    (movesToo : motion.Moves slots others layout) :
    ∀ slot < layout.width, moved slot = others slot := by
  intro slot below
  refine Eq.trans ?_ (one_mul (others slot))
  cases moves with
  | plane normal distance =>
      cases movesToo with
      | plane otherNormal otherDistance =>
          refine Layout.slots_eq_of_distance_normal ?_ ?_ slot below
          · rw [distance, otherDistance, one_mul]
          · rw [normal, otherNormal, one_smul]
  | line direction moment =>
      cases movesToo with
      | line otherDirection otherMoment =>
          refine Layout.slots_eq_of_direction_moment ?_ ?_ slot below
          · rw [direction, otherDirection, one_smul]
          · rw [moment, otherMoment, one_smul]
  | point position =>
      cases movesToo with
      | point otherPosition =>
          exact Layout.slots_eq_of_position (by rw [position, otherPosition, one_smul]) slot below
  | vector direction =>
      cases movesToo with
      | vector otherDirection =>
          exact Layout.slots_eq_of_position (by rw [direction, otherDirection, one_smul]) slot below

end RigidMotion

/-! ## Meeting and joining -/

/-- Meeting and joining. -/
inductive Incidence
  | meet
  | join

namespace Incidence

/-- The function of the library that meets or joins. -/
def function : Incidence → LibraryFunction
  | .meet => .meet
  | .join => .join

theorem isOver
    (incidence : Incidence) :
    incidence.function.body.IsOver 2 := by
  cases incidence with
  | meet => exact LibraryFunction.isOver .meet
  | join => exact LibraryFunction.isOver .join

/-- Meet or join two entities. -/
def compute
    (incidence : Incidence)
    (left right : Entity ℝ) :
    Compute ℝ (Entity ℝ) :=
  match incidence with
  | .meet => Compute.meet left right
  | .join => Compute.join left right

theorem compute_eq
    (incidence : Incidence)
    (left right : Entity ℝ) :
    incidence.compute left right =
      (do
        let source ← applyLibrary incidence.function [left, right]
        asPrimitive source) := by
  cases incidence <;> rfl

/-- What two elements make when they meet or are joined. -/
def combine
    (incidence : Incidence)
    (left right : Element ℝ) :
    Element ℝ :=
  incidence.function.body.meaning Algebra.projective.metric [left, right]

theorem combine_meet
    (left right : Element ℝ) :
    meet.combine left right = product Algebra.projective.metric .exterior left right :=
  rfl

theorem combine_join
    (left right : Element ℝ) :
    join.combine left right = regressive Algebra.projective.metric left right :=
  rfl

/-- The grades of what meets or is joined, and the grade of what this makes. -/
inductive Makes : Incidence → Nat → Nat → Nat → Prop
  | planes : Makes .meet 1 1 2
  | planeLine : Makes .meet 1 2 3
  | linePlane : Makes .meet 2 1 3
  | places : Makes .join 3 3 2
  | placeLine : Makes .join 3 2 1
  | linePlace : Makes .join 2 3 1

namespace Makes

variable
  {incidence : Incidence}
  {leftGrade rightGrade grade : Nat}
  (makes : incidence.Makes leftGrade rightGrade grade)

include makes

/-- What is made of elements that a motion carries is carried by it. -/
theorem carries
    {motion : RigidMotion}
    {left leftMoved right rightMoved : Element ℝ}
    (leftCarried : motion.Carries leftGrade left leftMoved)
    (rightCarried : motion.Carries rightGrade right rightMoved) :
    motion.Carries grade (incidence.combine left right)
      (incidence.combine leftMoved rightMoved) := by
  cases makes with
  | planes => exact leftCarried.plane_wedge_plane rightCarried
  | planeLine => exact leftCarried.plane_wedge_line rightCarried
  | linePlane => exact leftCarried.line_wedge_plane rightCarried
  | places => exact leftCarried.place_vee_place rightCarried
  | placeLine => exact leftCarried.place_vee_line rightCarried
  | linePlace => exact leftCarried.line_vee_place rightCarried

end Makes

/-! ### The grade of the result -/

/-- An assignment that is one at two ids and zero at all others. -/
def marked
    (first second : SourceId) :
    SourceId → ℝ :=
  fun id => if id = first ∨ id = second then 1 else 0

namespace Makes

variable
  {incidence : Incidence}
  {leftGrade rightGrade grade : Nat}
  (makes : incidence.Makes leftGrade rightGrade grade)

include makes

/-- Something is made for some values of the slots. -/
theorem exists_ne_zero
    {left right : Layout}
    (leftHasGrade : left.HasGrade leftGrade)
    (rightHasGrade : right.HasGrade rightGrade) :
    ∃ (assignment : SourceId → ℝ) (blade : Blade),
      incidence.combine (left.valueAt (assignment ∘ (FirstId.natural 0).id))
          (right.valueAt (assignment ∘ (FirstId.natural left.width).id)) (Blade.vectors blade) ≠
        0 := by
  cases makes with
  | planes =>
      cases leftHasGrade
      cases rightHasGrade
      refine ⟨marked 1 6, .e12, ?_⟩
      rw [valueAt_plane, valueAt_plane, Odd.plane_eq, Odd.plane_eq, combine_meet,
        plane_wedge_plane, Even.element_apply _ (by decide)]
      simp [Even.coefficient, Even.ofLine, Blade.e12, cross_apply, coordinates, marked, FirstId.id,
        Layout.width]
  | planeLine =>
      cases leftHasGrade
      cases rightHasGrade
      refine ⟨marked 1 4, .e123, ?_⟩
      rw [valueAt_plane, valueAt_line, Odd.plane_eq, Even.line_eq, combine_meet, plane_wedge_line,
        Odd.element_apply _ (by decide)]
      simp [Odd.coefficient, Odd.ofPlace, Blade.e123, dotProduct, Fin.sum_univ_three, coordinates,
        marked, FirstId.id, Layout.width]
  | linePlane =>
      cases leftHasGrade
      cases rightHasGrade
      refine ⟨marked 0 7, .e123, ?_⟩
      rw [valueAt_plane, valueAt_line, Odd.plane_eq, Even.line_eq, combine_meet, line_wedge_plane,
        Odd.element_apply _ (by decide)]
      simp [Odd.coefficient, Odd.ofPlace, Blade.e123, dotProduct, Fin.sum_univ_three, coordinates,
        marked, FirstId.id, Layout.width]
  | places =>
      cases leftHasGrade with | place leftIsPlace =>
      cases rightHasGrade with | place rightIsPlace =>
      rcases leftIsPlace.exists_weight with ⟨weight, leftValue⟩
      rcases rightIsPlace.exists_weight with ⟨otherWeight, rightValue⟩
      refine ⟨marked 0 4, .e03, ?_⟩
      rw [leftValue, rightValue, leftIsPlace.width, combine_join, place_vee_place,
        Even.element_apply _ (by decide)]
      simp [Even.coefficient, Even.ofLine, Blade.e03, cross_apply, coordinates, marked, FirstId.id]
  | placeLine =>
      cases leftHasGrade with | place isPlace =>
      cases rightHasGrade
      rcases isPlace.exists_weight with ⟨weight, value⟩
      refine ⟨marked 0 6, .e0, ?_⟩
      rw [value, isPlace.width, valueAt_line, Even.line_eq, combine_join, place_vee_line,
        Odd.element_apply _ (by decide)]
      simp [Odd.coefficient, Odd.ofPlane, Blade.e0, dotProduct, Fin.sum_univ_three, coordinates,
        marked, FirstId.id]
  | linePlace =>
      cases leftHasGrade
      cases rightHasGrade with | place isPlace =>
      rcases isPlace.exists_weight with ⟨weight, value⟩
      refine ⟨marked 3 6, .e0, ?_⟩
      rw [value, valueAt_line, Even.line_eq, combine_join, line_vee_place,
        Odd.element_apply _ (by decide)]
      simp [Odd.coefficient, Odd.ofPlane, Blade.e0, dotProduct, Fin.sum_univ_three, coordinates,
        marked, FirstId.id, Layout.width]

/-- The blades of what is made have one grade. -/
theorem singleGrade?_eq
    {first second result : Entity ℝ}
    {context behind : Context ℝ}
    (firstHasGrade : first.layout.HasGrade leftGrade)
    (secondHasGrade : second.layout.HasGrade rightGrade)
    (called : Called .projective incidence.function [first, second] context result behind) :
    singleGrade? result = some grade := by
  rcases called.blades with ⟨value, reduces, elements⟩
  have bound (assignment : SourceId → ℝ) :
      value.valueAt assignment =
        incidence.combine (first.layout.valueAt (assignment ∘ (FirstId.natural 0).id))
          (second.layout.valueAt (assignment ∘ (FirstId.natural first.layout.width).id)) := by
    rw [reduces.valueAt assignment]
    simp only [argumentPlaces, List.map_cons, List.map_nil, List.zip_cons_cons, List.zip_nil_left,
      placements, Entity.fullSignature, zero_add]
    rfl
  have graded : ∀ member ∈ value.blades.map Blade.grade, member = grade := by
    intro member isMember
    rcases List.mem_map.1 isMember with ⟨blade, inBlades, rfl⟩
    rcases (Multivector.mem_blades_iff_exists reduces.canonical blade).1 inBlades with
      ⟨assignment, nonzero⟩
    rw [bound] at nonzero
    have atRest {layout : Layout} {grade : Nat} (hasGrade : layout.HasGrade grade)
        (slots : Nat → ℝ) :=
      RigidMotion.Carries.of_moves hasGrade (RigidMotion.moves_rest hasGrade.isPrimitive slots)
    exact (makes.carries (atRest firstHasGrade _) (atRest secondHasGrade _)).length_eq nonzero
  have nonempty : value.blades.map Blade.grade ≠ [] := by
    rcases makes.exists_ne_zero firstHasGrade secondHasGrade with ⟨assignment, blade, nonzero⟩
    rw [← bound] at nonzero
    have inBlades :=
      (Multivector.mem_blades_iff_exists reduces.canonical blade).2 ⟨assignment, nonzero⟩
    exact List.ne_nil_of_mem (List.mem_map_of_mem inBlades)
  rw [singleGrade?, elements, distinctSorted_eq_singleton graded nonempty]

end Makes

end Incidence

end Versor

end
