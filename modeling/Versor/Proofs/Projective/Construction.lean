import Versor.Proofs.Projective.Transform

/-!
# Constructing rotors and translators

Rotors and translators are made of any values that can be put side by side
(`Compute.ensures_rotor`, `Compute.ensures_translator`).  Neither has a twist,
and products of motors without twist have none (`Even.twist_prod`), whether or
not their axes and directions are normalized.
-/

noncomputable section

namespace Versor

open Compute Entity

variable {limits : Limits}

/-! ## Twist -/

namespace Even

/-- The twist of a product is made of the twists and norms of the factors. -/
theorem twist_mul
    (left right : Even ℝ) :
    (left * right).twist = left.twist * right.norm + left.norm * right.twist := by
  simp only [mul_def, mul, twist, norm]
  ring

@[simp]
theorem twist_one :
    (1 : Even ℝ).twist = 0 := by
  change (one : Even ℝ).twist = 0
  simp [twist, one]

theorem twist_prod
    {motors : List (Even ℝ)}
    (untwisted : ∀ motor ∈ motors, motor.twist = 0) :
    motors.prod.twist = 0 := by
  induction motors with
  | nil => exact twist_one
  | cons motor rest inductionHypothesis =>
      rcases List.forall_mem_cons.1 untwisted with ⟨first, others⟩
      rw [List.prod_cons, twist_mul, first, inductionHypothesis others, zero_mul, mul_zero,
        add_zero]

end Even

/-! ## Rotors and translators -/

/-- The types of turns and shifts. -/
inductive Layout.IsSimpleMotor : Layout → Prop
  | rotor : IsSimpleMotor .rotor
  | translator : IsSimpleMotor .translator

theorem Layout.IsSimpleMotor.isMotor
    {layout : Layout}
    (isSimple : layout.IsSimpleMotor) :
    layout.IsMotor := by
  cases isSimple with
  | rotor => exact .rotor
  | translator => exact .translator

/-- Turns and shifts have no twist, whatever their axes and directions are. -/
theorem Layout.IsSimpleMotor.twist_even
    {layout : Layout}
    (isSimple : layout.IsSimpleMotor)
    (slots : Nat → ℝ) :
    (layout.even slots).twist = 0 := by
  cases isSimple with
  | rotor => simp [even, Even.rotor, Even.twist]
  | translator => simp [even, Even.translator, Even.twist]

namespace Compute

/-- A new operand of a layout. -/
structure Constructed
    (context : Context ℝ)
    (layout : Layout)
    (result : Entity ℝ)
    (behind : Context ℝ) :
    Prop where
  isNew : result.IsNew context behind
  isOperand : result.IsOperand behind
  layout_eq : result.layout = layout

variable
  {context : Context ℝ}
  (ready : context.IsReady limits)

include ready

omit ready in
/-- What is constructed later is constructed. -/
theorem Constructed.of_le
    {between behind : Context ℝ}
    {layout : Layout}
    {result : Entity ℝ}
    (constructed : Constructed between layout result behind)
    (free : context.workspace.free ≤ between.workspace.free) :
    Constructed context layout result behind where
  isNew := constructed.isNew.of_le free
  isOperand := constructed.isOperand
  layout_eq := constructed.layout_eq

/-- Storage of the width of a layout makes a new operand. -/
theorem ensures_constructed_wrap
    {layout : Layout}
    (projective : layout.IsProjective)
    {storage : Tensor ℝ}
    (width : storage.shape.getLast? = some layout.width) :
    (wrap layout storage).Ensures limits False context (Constructed context layout) := by
  refine (ensures_wrap ready width False.elim).mono
    fun result behind _ ⟨isNew, sameLayout, sameShape, _⟩ => ⟨isNew, ?_, sameLayout⟩
  exact
    { full := ⟨by rw [Entity.algebra, sameLayout, projective.algebra], by
        rw [sameShape, sameLayout, width]⟩
      inRange := sameLayout ▸ projective.inRange
      distinct := sameLayout ▸ projective.distinct
      taken := isNew.taken }

omit ready in
theorem width_stackValues
    {capacity : Nat}
    {standard : ElementType}
    {values : List (SlotValue ℝ)}
    {storage : Tensor ℝ}
    (stacked : Tensor.stackValues capacity standard values = .ok storage) :
    storage.shape.getLast? = some values.length := by
  unfold Tensor.stackValues at stacked
  split at stacked
  · cases stacked
  · rcases exists_of_bind_eq_ok stacked with ⟨tensors, read, stacked⟩
    rcases exists_of_bind_eq_ok stacked with ⟨shape, _, stacked⟩
    split at stacked
    · cases stacked
      have length : values.length = tensors.length := (mapM_eq_ok.1 read).length_eq
      simp [Tensor.stack, Tensor.ofFn, length]
    · cases stacked

theorem ensures_stackValues
    (values : List (SlotValue ℝ)) :
    (stackValues values).Ensures limits False context fun storage _ =>
      storage.shape.getLast? = some values.length :=
  .of_outcome ready rfl False.elim fun _ stacked => width_stackValues stacked

/-- A turn by any angle about any axis is a new operand. -/
theorem ensures_rotor
    (angle x y z : SlotValue ℝ) :
    (rotor angle x y z).Ensures limits False context (Constructed context .rotor) :=
  (ensures_stackValues ready [angle, x, y, z]).bind fun _ _ isReady free _ =>
    (ensures_constructed_wrap isReady Layout.IsMotor.rotor.isProjective (by
      simp [Tensor.stack, Tensor.ofFn]
      rfl)).mono fun _ _ _ constructed => constructed.of_le free

/-- A shift by any distance along any direction is a new operand. -/
theorem ensures_translator
    (distance x y z : SlotValue ℝ) :
    (translator distance x y z).Ensures limits False context (Constructed context .translator) :=
  (ensures_stackValues ready [distance, x, y, z]).bind fun _ _ isReady free width =>
    (ensures_constructed_wrap isReady Layout.IsMotor.translator.isProjective width).mono
      fun _ _ _ constructed => constructed.of_le free

omit ready in
/-- A constructed turn or shift has no twist. -/
theorem Constructed.twist_even
    {layout : Layout}
    (isSimple : layout.IsSimpleMotor)
    {behind : Context ℝ}
    {motor : Entity ℝ}
    (constructed : Constructed context layout motor behind)
    (index : List Nat) :
    (motor.even index).twist = 0 := by
  rw [Entity.even, constructed.layout_eq]
  exact isSimple.twist_even _

end Compute

end Versor

end
