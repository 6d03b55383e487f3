import Versor.Proofs.Projective.Construction
import Versor.Proofs.Projective.Equivariance

/-!
# Euclidean lines

The moment of a line of points is orthogonal to its direction.  Joining,
meeting, moving, reversing and projecting make such lines from such lines
(`Compute.Operation.ensures_produced`), so a run of these operations never makes any
other one (`Compute.Run.isEuclidean`).  Motions keep the property since the
products of rotors and translators have no twist, whether or not these are
normalized.
-/

noncomputable section

namespace Versor

open Compute Entity Matrix Reference

variable {limits : Limits}

namespace Even

/-- The product of the direction and the moment of a moved line. -/
theorem direction_dot_moment_sandwichEven
    (motor : Even ℝ)
    (direction moment : Fin 3 → ℝ) :
    (motor.sandwichEven (ofLine direction moment)).direction ⬝ᵥ
        (motor.sandwichEven (ofLine direction moment)).moment =
      motor.norm ^ 2 * (direction ⬝ᵥ moment) -
        motor.norm * motor.twist * (direction ⬝ᵥ direction) := by
  simp only [sandwichEven, mul, reverse, ofLine, Even.direction, Even.moment, norm, twist,
    dotProduct, Fin.sum_univ_three]
  simp
  ring

end Even

/-! ## Elements that lines are read off -/

/-- An element off which a line is read with a moment orthogonal to its direction. -/
def IsEuclideanLine
    (value : Element ℝ) :
    Prop :=
  coordinates (Layout.line.read value) 0 ⬝ᵥ coordinates (Layout.line.read value) 3 = 0

theorem isEuclideanLine_element
    {even : Even ℝ} :
    IsEuclideanLine even.element ↔ even.direction ⬝ᵥ even.moment = 0 := by
  rw [IsEuclideanLine, (Layout.coordinates_read_line even).1, (Layout.coordinates_read_line even).2]

section Elements

variable
  {distance otherDistance weight otherWeight : ℝ}
  {normal otherNormal position otherPosition direction moment otherDirection otherMoment :
    Fin 3 → ℝ}

theorem isEuclideanLine_join :
    IsEuclideanLine
      (regressive Algebra.projective.metric (Odd.ofPlace weight position).element
        (Odd.ofPlace otherWeight otherPosition).element) := by
  rw [place_vee_place, isEuclideanLine_element, Even.direction_ofLine, Even.moment_ofLine,
    sub_dotProduct, smul_dotProduct, smul_dotProduct, dot_cross_self, dot_self_cross]
  simp

theorem isEuclideanLine_meet :
    IsEuclideanLine
      (product Algebra.projective.metric .exterior (Odd.ofPlane distance normal).element
        (Odd.ofPlane otherDistance otherNormal).element) := by
  rw [plane_wedge_plane, isEuclideanLine_element, Even.direction_ofLine, Even.moment_ofLine,
    dotProduct_comm, sub_dotProduct, smul_dotProduct, smul_dotProduct, dot_cross_self,
    dot_self_cross]
  simp

/-- A projection onto a plane makes a Euclidean line of every line. -/
theorem isEuclideanLine_project_plane :
    IsEuclideanLine
      (product Algebra.projective.metric .geometric
        (product Algebra.projective.metric .leftContraction (Odd.ofPlane distance normal).element
          (Even.ofLine direction moment).element)
        (Odd.ofPlane distance normal).element) := by
  rcases plane_mul_plane (-(normal ⬝ᵥ moment)) distance (direction ⨯₃ normal) normal with
    ⟨even, multiplied, directionOf, momentOf⟩
  rw [plane_contract_line, multiplied, isEuclideanLine_element, directionOf, momentOf,
    dotProduct_sub, dotProduct_smul, dotProduct_smul]
  have first : (direction ⨯₃ normal) ⨯₃ normal ⬝ᵥ normal = 0 := by
    rw [dotProduct_comm, dot_cross_self]
  have second : (direction ⨯₃ normal) ⨯₃ normal ⬝ᵥ direction ⨯₃ normal = 0 := by
    rw [dotProduct_comm, dot_self_cross]
  simp [first, second]

/-- A projection onto a Euclidean line makes multiples of this line. -/
theorem isEuclideanLine_project_line
    (euclidean : direction ⬝ᵥ moment = 0) :
    IsEuclideanLine
      (product Algebra.projective.metric .geometric
        (product Algebra.projective.metric .leftContraction (Even.ofLine direction moment).element
          (Even.ofLine otherDirection otherMoment).element)
        (Even.ofLine direction moment).element) := by
  let factor := -(direction ⬝ᵥ otherDirection)
  have scaled :
      (Even.ofNumber factor).mul (Even.ofLine direction moment) =
        Even.ofLine (factor • direction) (factor • moment) := by
    ext <;> simp [Even.mul, Even.ofNumber, Even.ofLine]
  rw [line_contract_line, Even.element_mul, scaled, isEuclideanLine_element,
    Even.direction_ofLine, Even.moment_ofLine, smul_dotProduct, dotProduct_smul, euclidean,
    smul_zero, smul_zero]

/-- A motor without twist moves Euclidean lines to Euclidean lines. -/
theorem isEuclideanLine_sandwich
    {motor : Even ℝ}
    (untwisted : motor.twist = 0)
    (euclidean : direction ⬝ᵥ moment = 0) :
    IsEuclideanLine (sandwich motor.element (Even.ofLine direction moment).element) := by
  rw [Even.sandwich_even, isEuclideanLine_element, Even.direction_dot_moment_sandwichEven,
    untwisted, euclidean]
  ring

theorem isEuclideanLine_reverse
    (euclidean : direction ⬝ᵥ moment = 0) :
    IsEuclideanLine
      (Reference.reverse Algebra.projective.metric (Even.ofLine direction moment).element) := by
  have reversed : (Even.ofLine direction moment).reverse = Even.ofLine (-direction) (-moment) := by
    ext <;> simp [Even.reverse, Even.ofLine]
  rw [Even.element_reverse, reversed, isEuclideanLine_element, Even.direction_ofLine,
    Even.moment_ofLine, neg_dotProduct_neg, euclidean]

end Elements

/-! ## Entities that are Euclidean lines -/

namespace Entity

/-- An entity that, if it is a line, has a moment orthogonal to its direction. -/
def IsEuclidean
    (entity : Entity ℝ) :
    Prop :=
  entity.layout = .line →
    ∀ index, Tensor.IsIndex entity.batchShape index →
      coordinates (entity.entryAt index) 0 ⬝ᵥ coordinates (entity.entryAt index) 3 = 0

theorem isEuclidean_of_ne
    {entity : Entity ℝ}
    (notLine : entity.layout ≠ .line) :
    entity.IsEuclidean :=
  fun isLine => absurd isLine notLine

/-- At the indices of every larger batch, a Euclidean line is one by its direction and moment. -/
theorem IsEuclidean.exists_line
    {entity : Entity ℝ}
    (euclidean : entity.IsEuclidean)
    (isLine : entity.layout = .line)
    {target index : List Nat}
    (reaches : Tensor.Stretches entity.batchShape target)
    (isIndex : Tensor.IsIndex target index) :
    ∃ direction moment : Fin 3 → ℝ,
      entity.valueAt index = (Even.ofLine direction moment).element ∧
        direction ⬝ᵥ moment = 0 := by
  refine ⟨_, _, ?_, euclidean isLine _ (Tensor.isIndex_stretchIndex reaches isIndex)⟩
  rw [entryAt_stretch (.refl _) reaches isIndex, valueAt_eq, isLine, valueAt_line, Even.line_eq]

/-- What is read off elements of Euclidean lines is Euclidean. -/
theorem isEuclidean_of_made
    {context behind : Context ℝ}
    {layout : Layout}
    {shapes : List (List Nat)}
    {value : List Nat → Element ℝ}
    {result : Entity ℝ}
    (made : Made context layout shapes value result behind)
    (each :
      layout = .line →
        ∀ index, Tensor.IsIndex result.batchShape index → IsEuclideanLine (value index)) :
    result.IsEuclidean := by
  intro resultIsLine index isIndex
  have isLine : layout = .line := made.layout_eq.symm.trans resultIsLine
  subst isLine
  rw [made.coordinates_eq .line isIndex (by decide), made.coordinates_eq .line isIndex (by decide)]
  exact each rfl index isIndex

end Entity

namespace Compute

/-- A new operand that is Euclidean if it is a line. -/
structure Produced
    (context : Context ℝ)
    (result : Entity ℝ)
    (behind : Context ℝ) :
    Prop where
  isNew : result.IsNew context behind
  isOperand : result.IsOperand behind
  euclidean : result.IsEuclidean

theorem Produced.of_made
    {context between behind : Context ℝ}
    {layout : Layout}
    {shapes : List (List Nat)}
    {value : List Nat → Element ℝ}
    {result : Entity ℝ}
    (made : Made between layout shapes value result behind)
    (free : context.workspace.free ≤ between.workspace.free)
    (each :
      layout = .line →
        ∀ index, Tensor.IsIndex result.batchShape index → IsEuclideanLine (value index)) :
    Produced context result behind where
  isNew := made.isNew.of_le free
  isOperand := made.isOperand
  euclidean := isEuclidean_of_made made each

/-- What is produced later is produced. -/
theorem Produced.of_le
    {context between behind : Context ℝ}
    {result : Entity ℝ}
    (produced : Produced between result behind)
    (free : context.workspace.free ≤ between.workspace.free) :
    Produced context result behind where
  isNew := produced.isNew.of_le free
  isOperand := produced.isOperand
  euclidean := produced.euclidean

theorem Recognized.produced
    {context behind : Context ℝ}
    {grade? : Option Nat}
    {shapes : List (List Nat)}
    {value : List Nat → Element ℝ}
    {result : Entity ℝ}
    (recognized : Recognized context grade? shapes value result behind)
    (each :
      ∀ index, Tensor.IsIndex result.batchShape index → IsEuclideanLine (value index)) :
    Produced context result behind := by
  refine ⟨recognized.isNew, recognized.isOperand, ?_⟩
  cases found : primitiveLayout? grade? (IsIdeal result.batchShape value) with
  | none =>
      refine isEuclidean_of_ne fun isLine => ?_
      have generic := recognized.generic found
      rw [isLine] at generic
      cases generic
  | some layout => exact isEuclidean_of_made (recognized.made layout found) fun _ => each

variable
  {context : Context ℝ}
  (ready : context.IsReady limits)
  {entity left right motor target : Entity ℝ}

include ready

/-! ## Incidence -/

/-- Joining two places makes a Euclidean line. -/
theorem ensures_produced_join
    (leftIsPlace : left.layout.IsPlace)
    (rightIsPlace : right.layout.IsPlace)
    (operands : AreOperands context [left, right]) :
    (join left right).Ensures limits False context (Produced context) := by
  refine (ensures_recognized ready operands False.elim .join (LibraryFunction.isOver .join)
    False.elim).mono fun result behind _ ⟨_, _, _, recognized⟩ => ?_
  refine recognized.produced fun index _ => ?_
  rcases leftIsPlace.exists_weight with ⟨weight, leftValue⟩
  rcases rightIsPlace.exists_weight with ⟨otherWeight, rightValue⟩
  have joined :
      LibraryFunction.join.body.meaning Algebra.projective.metric
          ([left, right].map fun entity => entity.valueAt index) =
        regressive Algebra.projective.metric
          (Odd.ofPlace weight (coordinates (left.entryAt index) 0)).element
          (Odd.ofPlace otherWeight (coordinates (right.entryAt index) 0)).element := by
    rw [← leftValue, ← rightValue]
    rfl
  rw [joined]
  exact isEuclideanLine_join

/-- Meeting two planes makes a Euclidean line. -/
theorem ensures_produced_meet
    (leftIsPlane : left.layout = .plane)
    (rightIsPlane : right.layout = .plane)
    (operands : AreOperands context [left, right]) :
    (meet left right).Ensures limits False context (Produced context) := by
  refine (ensures_recognized ready operands False.elim .meet (LibraryFunction.isOver .meet)
    False.elim).mono fun result behind _ ⟨_, _, _, recognized⟩ => ?_
  refine recognized.produced fun index _ => ?_
  have met :
      LibraryFunction.meet.body.meaning Algebra.projective.metric
          ([left, right].map fun entity => entity.valueAt index) =
        product Algebra.projective.metric .exterior (left.valueAt index) (right.valueAt index) :=
    rfl
  rw [met, valueAt_eq, valueAt_eq, leftIsPlane, rightIsPlane, valueAt_plane, valueAt_plane,
    Odd.plane_eq, Odd.plane_eq]
  exact isEuclideanLine_meet

/-- Projecting a line onto a plane or onto a Euclidean line makes a Euclidean line. -/
theorem ensures_produced_project
    (isLine : entity.layout = .line)
    (isTarget : target.layout = .plane ∨ target.layout = .line)
    (euclidean : target.IsEuclidean)
    (operands : AreOperands context [entity, target]) :
    (project entity target).Ensures limits False context (Produced context) := by
  have isMoved : entity.layout.IsMoved := isLine ▸ .line
  refine (ensures_project ready isMoved operands False.elim).mono fun result behind _ made => ?_
  refine .of_made made le_rfl fun _ index isIndex => ?_
  have projected :
      LibraryFunction.project.body.meaning Algebra.projective.metric
          [entity.valueAt index, target.valueAt index] =
        product Algebra.projective.metric .geometric
          (product Algebra.projective.metric .leftContraction (target.valueAt index)
            (entity.valueAt index))
          (target.valueAt index) :=
    rfl
  rw [projected, valueAt_eq entity, isLine, valueAt_line, Even.line_eq]
  rcases isTarget with isPlane | targetIsLine
  · rw [valueAt_eq target, isPlane, valueAt_plane, Odd.plane_eq]
    exact isEuclideanLine_project_plane
  · have reaches := Tensor.stretches_of_commonShape made.broadcast _ (.tail _ (.head _))
    rcases euclidean.exists_line targetIsLine reaches isIndex with
      ⟨direction, moment, value, orthogonal⟩
    rw [value]
    exact isEuclideanLine_project_line orthogonal

/-! ## Motions -/

/-- A motor without twist moves Euclidean lines to Euclidean lines. -/
theorem ensures_produced_transform
    (isMotor : motor.layout.IsMotor)
    (untwisted :
      ∀ index, Tensor.IsIndex motor.batchShape index → (motor.even index).twist = 0)
    (isPrimitive : entity.layout.IsPrimitive)
    (euclidean : entity.IsEuclidean)
    (operands : AreOperands context [motor, entity]) :
    (transform motor entity).Ensures limits False context (Produced context) := by
  refine (ensures_transform ready isMotor isPrimitive.isMoved operands False.elim).mono
    fun result behind _ made => .of_made made le_rfl fun isLine index isIndex => ?_
  have stretch := Tensor.stretches_of_commonShape made.broadcast
  have motorReaches := stretch _ (.head _)
  have entityReaches := stretch _ (.tail _ (.head _))
  have untwistedAt := untwisted _ (Tensor.isIndex_stretchIndex motorReaches isIndex)
  rw [even_stretch (.refl _) motorReaches isIndex] at untwistedAt
  rcases euclidean.exists_line isLine entityReaches isIndex with
    ⟨direction, moment, value, orthogonal⟩
  rw [value]
  exact isEuclideanLine_sandwich untwistedAt orthogonal

/-- Reversing keeps lines Euclidean. -/
theorem ensures_produced_reverse
    (isReversed : entity.layout.IsPrimitive ∨ entity.layout.IsMotor)
    (euclidean : entity.IsEuclidean)
    (isOperand : entity.IsOperand context) :
    (reverse entity).Ensures limits False context (Produced context) := by
  have isTarget :
      entity.layout.IsMoved ∨
        entity.layout.IsMotor ∧
          (False → entity.batchShape.length < Tensor.maxGatheredDimensions) :=
    isReversed.imp Layout.IsPrimitive.isMoved fun isMotor => ⟨isMotor, False.elim⟩
  refine (ensures_reverse ready isTarget isOperand False.elim).mono
    fun result behind _ made => .of_made made le_rfl fun isLine index isIndex => ?_
  have reaches := Tensor.stretches_of_commonShape made.broadcast _ (.head _)
  rcases euclidean.exists_line isLine reaches isIndex with ⟨direction, moment, value, orthogonal⟩
  rw [value]
  exact isEuclideanLine_reverse orthogonal

end Compute

namespace Compute

variable
  {context : Context ℝ}
  (ready : context.IsReady limits)

include ready

omit ready in
/-- A constructed turn or shift is no line. -/
theorem Constructed.produced
    {layout : Layout}
    (isSimple : layout.IsSimpleMotor)
    {behind : Context ℝ}
    {motor : Entity ℝ}
    (constructed : Constructed context layout motor behind) :
    Produced context motor behind where
  isNew := constructed.isNew
  isOperand := constructed.isOperand
  euclidean isLine := by
    rw [constructed.layout_eq] at isLine
    subst isLine
    cases isSimple

/-! ### Moving -/

variable
  {entity : Entity ℝ}
  (isPrimitive : entity.layout.IsPrimitive)
  (euclidean : entity.IsEuclidean)

include isPrimitive euclidean

/-- Moving by a motor that is made of even elements without twist keeps lines Euclidean. -/
theorem ensures_produced_transform_made
    {before : Context ℝ}
    {shapes : List (List Nat)}
    {even : List Nat → Even ℝ}
    {motor : Entity ℝ}
    (made : Made before .motor shapes (fun index => (even index).element) motor context)
    (untwisted : ∀ index, (even index).twist = 0)
    (operands : AreOperands context [motor, entity]) :
    (transform motor entity).Ensures limits False context (Produced context) := by
  have isMotor : motor.layout.IsMotor := made.layout_eq ▸ .motor
  refine ensures_produced_transform ready isMotor (fun index isIndex => ?_) isPrimitive euclidean
    operands
  rw [made.even_eq (.refl _) isIndex, untwisted]

omit ready isPrimitive euclidean in
/-- A product of turns and shifts has no twist. -/
theorem twist_evenProduct
    {motors : List (Entity ℝ)}
    (areSimple : ∀ motor ∈ motors, motor.layout.IsSimpleMotor)
    (index : List Nat) :
    (evenProduct motors index).twist = 0 := by
  refine Even.twist_prod fun even member => ?_
  rcases List.mem_map.1 member with ⟨motor, inMotors, rfl⟩
  exact (areSimple motor inMotors).twist_even _

/-- Moving by a product of turns and shifts keeps lines Euclidean. -/
theorem ensures_produced_move
    {motors : List (Entity ℝ)}
    (areSimple : ∀ motor ∈ motors, motor.layout.IsSimpleMotor)
    (operands : AreOperands context (entity :: motors)) :
    (do
        let motor ← compose motors
        transform motor entity : Compute ℝ (Entity ℝ)).Ensures limits
      False context (Produced context) := by
  rcases eq_or_ne motors [] with rfl | nonempty
  · rw [compose]
    exact Ensures.fail ready .noMotors id
  have areMotors (motor : Entity ℝ) (member : motor ∈ motors) : motor.layout.IsMotor :=
    (areSimple motor member).isMotor
  have motorsAmong : motors ⊆ entity :: motors := List.subset_cons_self _ _
  have noRoom (impossible : False) :
      limits.HasRoomWithin [] ∧ ∀ motor ∈ motors, Tensor.Stretches motor.batchShape [] :=
    impossible.elim
  refine (ensures_compose ready nonempty areMotors (operands.subset motorsAmong) noRoom).bind
    fun motor between isReady free made => ?_
  have entityAmong : [entity] ⊆ entity :: motors := by simp
  have pair := (operands.subset entityAmong).cons free made.isNew made.isOperand
  exact
    (ensures_produced_transform_made isReady isPrimitive euclidean made
      (twist_evenProduct areSimple) pair).mono fun _ _ _ produced => produced.of_le free

variable (isOperand : entity.IsOperand context)

include isOperand

omit ready in
/-- Moving by a constructed turn or shift keeps lines Euclidean. -/
theorem ensures_produced_transform_constructed
    {construct : Compute ℝ (Entity ℝ)}
    {layout : Layout}
    (isSimple : layout.IsSimpleMotor)
    (constructs : construct.Ensures limits False context (Constructed context layout)) :
    (do
        let motor ← construct
        transform motor entity : Compute ℝ (Entity ℝ)).Ensures limits
      False context (Produced context) := by
  refine constructs.bind fun motor between isReady free constructed => ?_
  have isMotor : motor.layout.IsMotor := constructed.layout_eq ▸ isSimple.isMotor
  have pair :=
    (AreOperands.singleton isOperand).cons free constructed.isNew constructed.isOperand
  exact
    (ensures_produced_transform isReady isMotor
      (fun index _ => constructed.twist_even isSimple index) isPrimitive euclidean pair).mono
        fun _ _ _ produced => produced.of_le free

/-- Shifting keeps lines Euclidean. -/
theorem ensures_produced_translate
    (distance : SlotValue ℝ)
    (direction : List (SlotValue ℝ)) :
    (translate entity distance direction).Ensures limits False context (Produced context) := by
  unfold translate
  split
  · next x y z =>
    exact
      ensures_produced_transform_constructed isPrimitive euclidean isOperand .translator
        (ensures_translator ready distance x y z)
  · exact Ensures.fail ready .argumentCount id

/-- Turning about a center keeps lines Euclidean. -/
theorem ensures_produced_rotate_center
    (angle x y z centerX centerY centerZ : SlotValue ℝ) :
    (rotate entity angle [x, y, z] (some [centerX, centerY, centerZ])).Ensures limits False context
      (Produced context) := by
  refine (ensures_rotor ready angle x y z).bind fun turn first isReady toFirst turnIs => ?_
  refine (ensures_translator isReady _ centerX centerY centerZ).bind
    fun toOrigin second isReady toSecond toOriginIs => ?_
  refine (ensures_translator isReady _ centerX centerY centerZ).bind
    fun fromOrigin third isReady toThird fromOriginIs => ?_
  have operands : AreOperands third [fromOrigin, toOrigin, turn, entity] :=
    ((AreOperands.singleton isOperand).cons toFirst turnIs.isNew turnIs.isOperand
      |>.cons toSecond toOriginIs.isNew toOriginIs.isOperand).cons toThird fromOriginIs.isNew
        fromOriginIs.isOperand
  have motors : AreOperands third [fromOrigin, turn, toOrigin] := operands.subset (by simp)
  have areSimple : ∀ motor ∈ [fromOrigin, turn, toOrigin], motor.layout.IsSimpleMotor := by
    simp [turnIs.layout_eq, toOriginIs.layout_eq, fromOriginIs.layout_eq,
      Layout.IsSimpleMotor.rotor, Layout.IsSimpleMotor.translator]
  rw [← bind_assoc]
  refine (ensures_tripleProduct isReady (fun motor member => (areSimple motor member).isMotor)
    motors False.elim).bind fun motor fourth isReady toFourth made => ?_
  have pair : AreOperands fourth [motor, entity] :=
    (operands.subset (by simp)).cons toFourth made.isNew made.isOperand
  exact
    (ensures_produced_transform_made isReady isPrimitive euclidean made
      (twist_evenProduct areSimple) pair).mono
      fun _ _ _ produced =>
        produced.of_le (toFirst.trans (toSecond.trans (toThird.trans toFourth)))

/-- Turning about an axis through the origin or a center keeps lines Euclidean. -/
theorem ensures_produced_rotate
    (angle : SlotValue ℝ)
    (axis : List (SlotValue ℝ))
    (center? : Option (List (SlotValue ℝ))) :
    (rotate entity angle axis center?).Ensures limits False context (Produced context) := by
  unfold rotate
  split
  · next x y z =>
    match center? with
    | none =>
        exact
          ensures_produced_transform_constructed isPrimitive euclidean isOperand .rotor
            (ensures_rotor ready angle x y z)
    | some [centerX, centerY, centerZ] =>
        exact
          ensures_produced_rotate_center ready isPrimitive euclidean isOperand angle x y z centerX
            centerY centerZ
    | some [] | some [_] | some [_, _] | some (_ :: _ :: _ :: _ :: _) =>
        exact (ensures_rotor ready angle x y z).bind fun _ _ isReady _ _ =>
          .fail isReady .centerCount id
  · exact Ensures.fail ready .argumentCount id

end Compute

/-! ## Runs -/

namespace Compute

/-- What is done with the entities of a scene. -/
inductive Operation
  | rotor (angle x y z : SlotValue ℝ)
  | translator (distance x y z : SlotValue ℝ)
  | join (left right : Entity ℝ)
  | meet (left right : Entity ℝ)
  | move (motors : List (Entity ℝ)) (entity : Entity ℝ)
  | rotate
    (entity : Entity ℝ)
    (angle : SlotValue ℝ)
    (axis : List (SlotValue ℝ))
    (center? : Option (List (SlotValue ℝ)))
  | translate
    (entity : Entity ℝ)
    (distance : SlotValue ℝ)
    (direction : List (SlotValue ℝ))
  | reverse (entity : Entity ℝ)
  | project (entity target : Entity ℝ)

namespace Operation

/-- The computation of an operation. -/
def compute : Operation → Compute ℝ (Entity ℝ)
  | .rotor angle x y z => Compute.rotor angle x y z
  | .translator distance x y z => Compute.translator distance x y z
  | .join left right => Compute.join left right
  | .meet left right => Compute.meet left right
  | .move motors entity => do
      let motor ← compose motors
      transform motor entity
  | .rotate entity angle axis center? => Compute.rotate entity angle axis center?
  | .translate entity distance direction => Compute.translate entity distance direction
  | .reverse entity => Compute.reverse entity
  | .project entity target => Compute.project entity target

/-- The operations on entities of a scene that have the right types. -/
inductive IsAllowed
    (scene : List (Entity ℝ)) :
    Operation → Prop
  | rotor (angle x y z : SlotValue ℝ) : IsAllowed scene (.rotor angle x y z)
  | translator (distance x y z : SlotValue ℝ) : IsAllowed scene (.translator distance x y z)
  | join
    {left right : Entity ℝ}
    (among : [left, right] ⊆ scene)
    (leftIsPlace : left.layout.IsPlace)
    (rightIsPlace : right.layout.IsPlace) :
    IsAllowed scene (.join left right)
  | meet
    {left right : Entity ℝ}
    (among : [left, right] ⊆ scene)
    (leftIsPlane : left.layout = .plane)
    (rightIsPlane : right.layout = .plane) :
    IsAllowed scene (.meet left right)
  | move
    {motors : List (Entity ℝ)}
    {entity : Entity ℝ}
    (among : entity :: motors ⊆ scene)
    (areSimple : ∀ motor ∈ motors, motor.layout.IsSimpleMotor)
    (isPrimitive : entity.layout.IsPrimitive) :
    IsAllowed scene (.move motors entity)
  | rotate
    {entity : Entity ℝ}
    (member : entity ∈ scene)
    (isPrimitive : entity.layout.IsPrimitive)
    (angle : SlotValue ℝ)
    (axis : List (SlotValue ℝ))
    (center? : Option (List (SlotValue ℝ))) :
    IsAllowed scene (.rotate entity angle axis center?)
  | translate
    {entity : Entity ℝ}
    (member : entity ∈ scene)
    (isPrimitive : entity.layout.IsPrimitive)
    (distance : SlotValue ℝ)
    (direction : List (SlotValue ℝ)) :
    IsAllowed scene (.translate entity distance direction)
  | reverse
    {entity : Entity ℝ}
    (member : entity ∈ scene)
    (isReversed : entity.layout.IsPrimitive ∨ entity.layout.IsSimpleMotor) :
    IsAllowed scene (.reverse entity)
  | project
    {entity target : Entity ℝ}
    (among : [entity, target] ⊆ scene)
    (isLine : entity.layout = .line)
    (isTarget : target.layout = .plane ∨ target.layout = .line) :
    IsAllowed scene (.project entity target)

/-- One operation on a scene of Euclidean lines makes no other lines. -/
theorem ensures_produced
    {context : Context ℝ}
    (ready : context.IsReady limits)
    {scene : List (Entity ℝ)}
    (operands : AreOperands context scene)
    (euclidean : ∀ entity ∈ scene, entity.IsEuclidean)
    {operation : Operation}
    (allowed : operation.IsAllowed scene) :
    operation.compute.Ensures limits False context (Produced context) := by
  cases allowed with
  | rotor angle x y z =>
      exact (ensures_rotor ready angle x y z).mono fun _ _ _ => Constructed.produced .rotor
  | translator distance x y z =>
      exact
        (ensures_translator ready distance x y z).mono fun _ _ _ =>
          Constructed.produced .translator
  | join among leftIsPlace rightIsPlace =>
      exact ensures_produced_join ready leftIsPlace rightIsPlace (operands.subset among)
  | meet among leftIsPlane rightIsPlane =>
      exact ensures_produced_meet ready leftIsPlane rightIsPlane (operands.subset among)
  | move among areSimple isPrimitive =>
      exact
        ensures_produced_move ready isPrimitive (euclidean _ (among (.head _))) areSimple
          (operands.subset among)
  | rotate member isPrimitive angle axis center? =>
      exact
        ensures_produced_rotate ready isPrimitive (euclidean _ member) (operands.each _ member)
          angle axis center?
  | translate member isPrimitive distance direction =>
      exact
        ensures_produced_translate ready isPrimitive (euclidean _ member) (operands.each _ member)
          distance direction
  | reverse member isReversed =>
      exact
        ensures_produced_reverse ready (isReversed.imp_right Layout.IsSimpleMotor.isMotor)
          (euclidean _ member) (operands.each _ member)
  | project among isLine isTarget =>
      exact
        ensures_produced_project ready isLine isTarget
          (euclidean _ (among (.tail _ (.head _)))) (operands.subset among)

end Operation

/-- A scene after an operation: what was made is added to it, if the operation did not fail. -/
def sceneBehind
    (result : Except Error (Entity ℝ))
    (scene : List (Entity ℝ)) :
    List (Entity ℝ) :=
  match result with
  | .ok made => made :: scene
  | .error _ => scene

/-- Runs of operations from a scene in a context. -/
inductive Run
    (start : Context ℝ)
    (initial : List (Entity ℝ)) :
    Context ℝ → List (Entity ℝ) → Prop
  | start : Run start initial start initial
  | step
    {context : Context ℝ}
    {scene : List (Entity ℝ)}
    (run : Run start initial context scene)
    {operation : Operation}
    (allowed : operation.IsAllowed scene) :
    Run start initial (outcome operation.compute context).2
      (sceneBehind (outcome operation.compute context).1 scene)

/-- A scene of operands whose lines are Euclidean, in a context in which the library can be used. -/
structure IsEuclideanScene
    (limits : Limits)
    (context : Context ℝ)
    (scene : List (Entity ℝ)) :
    Prop where
  ready : context.IsReady limits
  operands : AreOperands context scene
  euclidean : ∀ entity ∈ scene, entity.IsEuclidean

/-- One operation, whether it fails or not, keeps the lines of a scene Euclidean. -/
theorem IsEuclideanScene.step
    {context : Context ℝ}
    {scene : List (Entity ℝ)}
    (isScene : IsEuclideanScene limits context scene)
    {operation : Operation}
    (allowed : operation.IsAllowed scene) :
    IsEuclideanScene limits (outcome operation.compute context).2
      (sceneBehind (outcome operation.compute context).1 scene) := by
  have ensured :=
    Operation.ensures_produced isScene.ready isScene.operands isScene.euclidean allowed
  have holds := ensured.holds
  generalize (outcome operation.compute context).1 = result at holds ⊢
  cases result with
  | error error => exact ⟨ensured.ready, isScene.operands.later ensured.free, isScene.euclidean⟩
  | ok result =>
      have produced := holds result rfl
      exact
        { ready := ensured.ready
          operands := isScene.operands.cons ensured.free produced.isNew produced.isOperand
          euclidean := List.forall_mem_cons.2 ⟨produced.euclidean, isScene.euclidean⟩ }

theorem Run.isEuclideanScene
    {start context : Context ℝ}
    {initial scene : List (Entity ℝ)}
    (isScene : IsEuclideanScene limits start initial)
    (run : Run start initial context scene) :
    IsEuclideanScene limits context scene := by
  induction run with
  | start => exact isScene
  | step _ allowed inductionHypothesis => exact inductionHypothesis.step allowed

/--
Lines stay Euclidean: a run that starts from entities whose lines have a moment
orthogonal to their direction never makes any other line.
-/
theorem Run.isEuclidean
    {start context : Context ℝ}
    {initial scene : List (Entity ℝ)}
    (reached : start.IsReached)
    (operands : AreOperands start initial)
    (euclidean : ∀ entity ∈ initial, entity.IsEuclidean)
    (run : Run start initial context scene) :
    ∀ entity ∈ scene, entity.IsEuclidean :=
  (run.isEuclideanScene ⟨reached.isReady, operands, euclidean⟩).euclidean

/-- An operation that succeeds makes a run longer by what it makes. -/
theorem Run.exists_step
    {start context : Context ℝ}
    {initial scene : List (Entity ℝ)}
    (run : Run start initial context scene)
    {operation : Operation}
    (allowed : operation.IsAllowed scene)
    {holds : Entity ℝ → Context ℝ → Prop}
    (ensured : operation.compute.Ensures limits True context holds) :
    ∃ result behind,
      outcome operation.compute context = (.ok result, behind) ∧ holds result behind ∧
        Run start initial behind (result :: scene) := by
  rcases ensured.succeeds trivial with ⟨result, computed⟩
  have stepped := run.step allowed
  rw [computed] at stepped
  exact ⟨result, _, Prod.ext computed rfl, ensured.holds result computed, stepped⟩

/-! ## Single lines -/

/-- A line that is no batch. -/
structure IsSingleLine
    (entity : Entity ℝ) :
    Prop where
  layout_eq : entity.layout = .line
  batchShape_eq : entity.batchShape = []

section Single

variable
  {context : Context ℝ}
  (ready : context.IsReady limits)
  (room : limits.HasRoomWithin [])
  {first second : Entity ℝ}
  (firstSingle : first.batchShape = [])
  (secondSingle : second.batchShape = [])

include room firstSingle secondSingle

theorem haveCommonRoom_single :
    limits.HaveCommonRoom [first.batchShape, second.batchShape] :=
  room.common (by simp [firstSingle, secondSingle, Tensor.Stretches.refl])

omit room in
theorem Made.isSingleLine
    {behind : Context ℝ}
    {value : List Nat → Element ℝ}
    {result : Entity ℝ}
    (made : Made context .line [first.batchShape, second.batchShape] value result behind) :
    IsSingleLine result where
  layout_eq := made.layout_eq
  batchShape_eq := by
    have broadcast := made.broadcast
    rw [firstSingle, secondSingle] at broadcast
    exact (Except.ok.inj broadcast).symm

include ready

/-- Two single entities that are joined or meet in a line make a single one. -/
theorem ensures_single_combined
    {incidence : Incidence}
    {leftGrade rightGrade : Nat}
    (makes : incidence.Makes leftGrade rightGrade 2)
    (firstHasGrade : first.layout.HasGrade leftGrade)
    (secondHasGrade : second.layout.HasGrade rightGrade)
    (operands : AreOperands context [first, second]) :
    (incidence.compute first second).Ensures limits True context
      fun line _ => IsSingleLine line := by
  refine (ensures_combined ready makes firstHasGrade secondHasGrade operands
    (fun _ => haveCommonRoom_single room firstSingle secondSingle)
    fun _ isThree => absurd isThree (by decide)).mono fun line _ _ combined => ?_
  have isLine : line.layout = .line := (Option.some.inj combined.recognized).symm
  exact (isLine ▸ combined.made).isSingleLine firstSingle secondSingle

/-- A single line is projected to a single one. -/
theorem ensures_single_project
    (isLine : first.layout = .line)
    (operands : AreOperands context [first, second]) :
    (project first second).Ensures limits True context fun line _ => IsSingleLine line := by
  have isMoved : first.layout.IsMoved := isLine ▸ .line
  exact
    (ensures_project ready isMoved operands
      fun _ => haveCommonRoom_single room firstSingle secondSingle).mono fun _ _ _ made =>
        (isLine ▸ made).isSingleLine firstSingle secondSingle

/-- A single line is moved to a single one. -/
theorem ensures_single_move
    (isMotor : first.layout.IsMotor)
    (isLine : second.layout = .line)
    (operands : AreOperands context [second, first]) :
    (Operation.move [first] second).compute.Ensures limits True context
      fun line _ => IsSingleLine line := by
  have isMoved : second.layout.IsMoved := isLine ▸ .line
  have stretch : ∀ motor ∈ [first], Tensor.Stretches motor.batchShape [] := by
    simp [firstSingle, Tensor.Stretches.refl]
  refine (ensures_compose ready (List.cons_ne_nil _ _) (List.forall_mem_singleton.2 isMotor)
    (operands.subset (by simp)) fun _ : True => ⟨room, stretch⟩).bind
      fun motor between isReady free made => ?_
  have motorSingle : motor.batchShape = [] := by
    have broadcast := made.broadcast
    rw [List.map_singleton, firstSingle] at broadcast
    exact (Except.ok.inj broadcast).symm
  have pair : AreOperands between [motor, second] :=
    (operands.subset (by simp)).cons free made.isNew made.isOperand
  have composedIsMotor : motor.layout.IsMotor := made.layout_eq ▸ .motor
  exact
    (ensures_transform isReady composedIsMotor isMoved pair
      fun _ => haveCommonRoom_single room motorSingle secondSingle).mono fun _ _ _ made =>
        (isLine ▸ made).isSingleLine motorSingle secondSingle

end Single

/-! ## Lines of a wall -/

/-- A point on the first axis. -/
def corner : Entity ℝ :=
  .ofRow 0 .point 0 [1, 0, 0]

/-- A point above the ground. -/
def tip : Entity ℝ :=
  .ofRow 5 .point 0 [1, 2, 1]

/-- The plane through the corner and the tip that is orthogonal to the first axis. -/
def wall : Entity ℝ :=
  .ofRow 3 .plane 0 [-1, 1, 0, 0]

/-- A turn about the third axis by a rotor that is longer than a unit. -/
def longTurn : Entity ℝ :=
  .ofRow 4 .rotor 0 [2, 1, 0, 0, 1]

theorem not_isUnit_longTurn :
    ¬ longTurn.IsUnit := by
  intro isUnit
  have isMotor : longTurn.layout.IsMotor := .rotor
  have norm := (isUnit.norm_twist isMotor (.refl _) .nil).1
  rw [longTurn, even_ofRow _ _ _ _ (Nat.zero_le _)] at norm
  norm_num [Layout.even, Even.rotor, Even.norm] at norm

/--
A corner and a tip are joined by the edge of a wall, and the wall meets the ground.  The
edge is turned by a rotor that is no unit, and then projected to a line off the origin.
All of these lines are Euclidean.
-/
theorem isEuclidean_wall :
    ¬ longTurn.IsUnit ∧
      ∃ (edge foot turned shadow : Entity ℝ) (first second third last : Context ℝ),
        outcome (join corner tip) (.start 6) = (.ok edge, first) ∧
          outcome (meet wall ground) first = (.ok foot, second) ∧
          outcome (compose [longTurn] >>= fun motor => transform motor edge) second =
            (.ok turned, third) ∧
          outcome (project turned someLine) third = (.ok shadow, last) ∧
          ∀ line ∈ [shadow, turned, foot, edge], line.layout = .line ∧ line.IsEuclidean := by
  let scene := [corner, tip, wall, ground, longTurn, someLine]
  have reached : (Context.start 6 : Context ℝ).IsReached := Context.isReached_start 6
  have operands : AreOperands (.start 6) scene := .of_nodup (by decide) (by decide)
  have euclidean : ∀ entity ∈ scene, entity.IsEuclidean := by
    simp only [scene, List.forall_mem_cons, List.not_mem_nil, false_implies, implies_true, and_true]
    refine ⟨?_, ?_, ?_, ?_, ?_, fun _ index _ => ?_⟩
    iterate 5 exact isEuclidean_of_ne (by decide)
    simp [coordinates, someLine, entryAt_ofRow]
  have isScene : IsEuclideanScene .usual (.start 6) scene := ⟨reached.isReady, operands, euclidean⟩
  have room : Limits.usual.HasRoomWithin [] := Limits.hasRoomWithin_usual (by decide)
  -- Each operation is carried out in the scene that the ones before it leave.
  have cornerIsPlace : corner.layout.IsPlace := .point
  have tipIsPlace : tip.layout.IsPlace := .point
  have joins : (Operation.join corner tip).IsAllowed scene :=
    .join (by simp [scene]) cornerIsPlace tipIsPlace
  rcases Run.start.exists_step joins
      (ensures_single_combined isScene.ready room rfl rfl .places (.place cornerIsPlace)
        (.place tipIsPlace) (isScene.operands.subset (by simp [scene]))) with
    ⟨edge, first, joined, edgeIs, toFirst⟩
  have atFirst := toFirst.isEuclideanScene isScene
  have wallHasGrade : wall.layout.HasGrade 1 := .plane
  have groundHasGrade : ground.layout.HasGrade 1 := .plane
  have meets : (Operation.meet wall ground).IsAllowed (edge :: scene) :=
    .meet (by simp [scene]) rfl rfl
  rcases toFirst.exists_step meets
      (ensures_single_combined atFirst.ready room rfl rfl .planes wallHasGrade groundHasGrade
        (atFirst.operands.subset (by simp [scene]))) with
    ⟨foot, second, met, footIs, toSecond⟩
  have atSecond := toSecond.isEuclideanScene isScene
  have turnIsSimple : longTurn.layout.IsSimpleMotor := .rotor
  have turns : (Operation.move [longTurn] edge).IsAllowed (foot :: edge :: scene) :=
    .move (by simp [scene]) (List.forall_mem_singleton.2 turnIsSimple) (edgeIs.layout_eq ▸ .line)
  rcases toSecond.exists_step turns
      (ensures_single_move atSecond.ready room rfl edgeIs.batchShape_eq turnIsSimple.isMotor
        edgeIs.layout_eq (atSecond.operands.subset (by simp [scene]))) with
    ⟨turned, third, moved, turnedIs, toThird⟩
  have atThird := toThird.isEuclideanScene isScene
  have projects : (Operation.project turned someLine).IsAllowed (turned :: foot :: edge :: scene) :=
    .project (by simp [scene]) turnedIs.layout_eq (.inr rfl)
  rcases toThird.exists_step projects
      (ensures_single_project atThird.ready room turnedIs.batchShape_eq rfl turnedIs.layout_eq
        (atThird.operands.subset (by simp [scene]))) with
    ⟨shadow, last, projected, shadowIs, toLast⟩
  have allEuclidean := Run.isEuclidean reached operands euclidean toLast
  refine ⟨not_isUnit_longTurn, edge, foot, turned, shadow, first, second, third, last, joined, met,
    moved, projected, ?_⟩
  simp only [List.forall_mem_cons, List.not_mem_nil, false_implies, implies_true, and_true]
  exact
    ⟨⟨shadowIs.layout_eq, allEuclidean shadow (by simp)⟩,
      ⟨turnedIs.layout_eq, allEuclidean turned (by simp)⟩,
      ⟨footIs.layout_eq, allEuclidean foot (by simp)⟩,
      ⟨edgeIs.layout_eq, allEuclidean edge (by simp)⟩⟩

end Compute

end Versor

end
