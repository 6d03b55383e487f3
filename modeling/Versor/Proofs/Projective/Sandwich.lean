import Versor.Proofs.Projective.Primitives

/-!
# The sandwich product

A motor is multiplied with an element from the left and its reversion from the
right.  Motors act in this way: the sandwich with a product is the sandwich
with one factor after the other (`sandwich_mul`), and that with the reversion
of a unit motor undoes the sandwich (`sandwich_reverse`).  The sandwich leaves
every type that motions move as it is, up to a weight which only points have
(`Layout.sandwich_eq_smul`).
-/

noncomputable section

namespace Versor

open Reference

variable {Number : Type} [CommRing Number]

/-- The product of an element with another one from the left and its reversion from the right. -/
def sandwich
    (motor element : Element Number) :
    Element Number :=
  product Algebra.projective.metric .geometric
    (product Algebra.projective.metric .geometric motor element)
    (Reference.reverse Algebra.projective.metric motor)

theorem sandwich_smul
    (motor element : Element Number)
    (factor : Number) :
    sandwich motor (factor • element) = factor • sandwich motor element := by
  rw [sandwich, product_factor, factor_product, sandwich]

namespace Even

/-- The even element one. -/
def one : Even Number :=
  ⟨1, 0, 0, 0, 0, 0, 0, 0⟩

instance : Mul (Even Number) :=
  ⟨mul⟩

instance : One (Even Number) :=
  ⟨one⟩

theorem mul_def
    (left right : Even Number) :
    left * right = left.mul right :=
  rfl

theorem product_element
    (left right : Even Number) :
    product Algebra.projective.metric .geometric left.element right.element =
      (left * right).element :=
  element_mul left right

theorem element_one :
    (1 : Even Number).element = Finsupp.single [] 1 := by
  change (one : Even Number).element = _
  rw [element_eq]
  simp [one]

/-- Even elements multiply as the elements that they are. -/
instance : Monoid (Even Number) where
  mul_assoc left middle right := by
    apply element_injective
    rw [← product_element, ← product_element, ← product_element, ← product_element,
      geometric_assoc _ _ _ right.element_mem_ascending]
  one_mul right := by
    apply element_injective
    rw [← product_element, element_one, one_geometric]
  mul_one left := by
    apply element_injective
    rw [← product_element, element_one, geometric_one _ left.element_mem_ascending]

variable (left right motor : Even Number)

/-! ## Reversion and norm -/

@[simp]
theorem reverse_reverse :
    motor.reverse.reverse = motor := by
  simp only [reverse, neg_neg]

@[simp]
theorem reverse_one :
    (1 : Even Number).reverse = 1 := by
  change (one : Even Number).reverse = one
  simp [reverse, one]

theorem reverse_mul :
    (left * right).reverse = right.reverse * left.reverse := by
  ext <;> simp only [mul_def, mul, reverse] <;> ring

@[simp]
theorem norm_one :
    (1 : Even Number).norm = 1 := by
  change (one : Even Number).norm = 1
  simp [norm, one]

/-- The norm of a product is the product of the norms. -/
theorem norm_mul :
    (left * right).norm = left.norm * right.norm := by
  simp only [mul_def, mul, norm]
  ring

@[simp]
theorem norm_reverse :
    motor.reverse.norm = motor.norm := by
  simp only [reverse, norm, neg_sq]

/-- The coefficient on the pseudoscalar of the product with the reversion. -/
def twist :
    Number :=
  2 * (motor.scalar * motor.e0123 - motor.e01 * motor.e23 + motor.e02 * motor.e13 -
    motor.e03 * motor.e12)

/-- The product with the reversion has a scalar and a pseudoscalar part. -/
theorem mul_reverse :
    motor * motor.reverse = ⟨motor.norm, 0, 0, 0, 0, 0, 0, motor.twist⟩ := by
  ext <;> simp only [mul_def, mul, reverse, norm, twist] <;> ring

theorem reverse_mul_self :
    motor.reverse * motor = motor * motor.reverse := by
  ext <;> simp only [mul_def, mul, reverse] <;> ring

/-- The product with the reversion is one if it has the norm one and no pseudoscalar part. -/
theorem product_reverse_eq_one_iff :
    product Algebra.projective.metric .geometric motor.element
        (Reference.reverse Algebra.projective.metric motor.element) =
      Finsupp.single [] 1 ↔
      motor.norm = 1 ∧ motor.twist = 0 := by
  rw [element_reverse, product_element, mul_reverse, ← element_one, element_injective.eq_iff]
  change _ = one ↔ _
  simp [one]

/-! ## Motors act -/

variable {left right motor}

/-- The sandwich with a product is the sandwich with the right factor and then with the left one. -/
theorem sandwich_mul
    {element : Element Number}
    (ascends : element ∈ ascending) :
    sandwich (left * right).element element =
      sandwich left.element (sandwich right.element element) := by
  simp only [sandwich, element_reverse, reverse_mul]
  rw [← product_element, ← product_element, geometric_assoc _ _ _ ascends,
    ← geometric_assoc _ _ _ left.reverse.element_mem_ascending,
    geometric_assoc _ left.element _ right.reverse.element_mem_ascending]

theorem sandwich_one
    {element : Element Number}
    (ascends : element ∈ ascending) :
    sandwich (1 : Even Number).element element = element := by
  rw [sandwich, element_reverse, reverse_one, element_one, one_geometric,
    geometric_one _ ascends]

/-- The sandwich with the reversion of a unit motor undoes the sandwich with the motor. -/
theorem sandwich_reverse
    (isUnit : motor.norm = 1 ∧ motor.twist = 0)
    {element : Element Number}
    (ascends : element ∈ ascending) :
    sandwich motor.reverse.element (sandwich motor.element element) = element := by
  have inverse : motor.reverse * motor = 1 := by
    rw [reverse_mul_self, mul_reverse, isUnit.1, isUnit.2]
    rfl
  rw [← sandwich_mul ascends, inverse, sandwich_one ascends]

/-! ## The sandwich in coordinates -/

variable (motor)

/-- The sandwich product with an even element. -/
def sandwichEven
    (even : Even Number) :
    Even Number :=
  (motor.mul even).mul motor.reverse

/-- The sandwich product with an odd element. -/
def sandwichOdd
    (odd : Odd Number) :
    Odd Number :=
  (motor.act odd).mul motor.reverse

theorem sandwich_even
    (even : Even Number) :
    sandwich motor.element even.element = (motor.sandwichEven even).element := by
  rw [sandwich, element_mul, element_reverse, element_mul, sandwichEven]

theorem sandwich_odd
    (odd : Odd Number) :
    sandwich motor.element odd.element = (motor.sandwichOdd odd).element := by
  rw [sandwich, element_act, element_reverse, Odd.element_mul, sandwichOdd]

end Even

/-- An odd element with all coefficients multiplied by a factor. -/
def Odd.scale
    (factor : Number)
    (odd : Odd Number) :
    Odd Number where
  e0 := factor * odd.e0
  e1 := factor * odd.e1
  e2 := factor * odd.e2
  e3 := factor * odd.e3
  e012 := factor * odd.e012
  e013 := factor * odd.e013
  e023 := factor * odd.e023
  e123 := factor * odd.e123

@[simp]
theorem Odd.scale_one
    (odd : Odd Number) :
    odd.scale 1 = odd := by
  simp only [scale, one_mul]

theorem Odd.element_scale
    (factor : Number)
    (odd : Odd Number) :
    (odd.scale factor).element = factor • odd.element := by
  simp only [element_eq, smul_add, Finsupp.smul_single, smul_eq_mul, scale]

/-! ## Types under the sandwich -/

namespace Layout

/-- What the sandwich of a type is divided by when it is read back. -/
def weight
    (layout : Layout)
    (motor : Even ℝ) :
    ℝ :=
  if layout = .point then motor.norm else 1

theorem weight_of_norm
    {layout : Layout}
    {motor : Even ℝ}
    (normalized : motor.norm = 1) :
    layout.weight motor = 1 := by
  rw [weight, normalized, ite_self]

theorem weight_ne_zero
    {layout : Layout}
    {motor : Even ℝ}
    (normalized : motor.norm = 1) :
    layout.weight motor ≠ 0 := by
  rw [weight_of_norm normalized]
  exact one_ne_zero

variable (motor : Even ℝ) (slots : Nat → ℝ)

theorem exists_moved_plane :
    ∃ moved, motor.sandwichOdd (.plane slots) = .plane moved := by
  let image := motor.sandwichOdd (.plane slots)
  refine ⟨plane.read image.element, ?_⟩
  rw [read_plane]
  ext <;> simp only [image, Odd.plane]
  all_goals
    simp only [Even.sandwichOdd, Even.act, Odd.mul, Even.reverse]
    ring

theorem exists_moved_vector :
    ∃ moved, motor.sandwichOdd (.vector slots) = .vector moved := by
  let image := motor.sandwichOdd (.vector slots)
  refine ⟨vector.read image.element, ?_⟩
  rw [read_vector]
  ext <;> simp only [image, Odd.vector, neg_neg]
  all_goals
    simp only [Even.sandwichOdd, Even.act, Odd.mul, Even.reverse]
    ring

theorem exists_moved_point
    (nonzero : motor.norm ≠ 0) :
    ∃ moved, motor.sandwichOdd (.point slots) = (Odd.point moved).scale motor.norm := by
  let image := motor.sandwichOdd (.point slots)
  refine ⟨fun slot => vector.read image.element slot / motor.norm, ?_⟩
  rw [read_vector]
  ext <;>
    simp only [image, Odd.point, Odd.scale, neg_div, neg_neg, mul_div_cancel₀ _ nonzero]
  all_goals
    simp only [Even.sandwichOdd, Even.act, Odd.mul, Even.reverse, Even.norm]
    ring

theorem exists_moved_line :
    ∃ moved, motor.sandwichEven (.line slots) = .line moved := by
  let image := motor.sandwichEven (.line slots)
  refine ⟨line.read image.element, ?_⟩
  rw [read_line]
  ext <;> simp only [image, Even.line, neg_neg]
  all_goals
    simp only [Even.sandwichEven, Even.mul, Even.reverse]
    ring

theorem exists_moved_motor :
    ∃ moved, motor.sandwichEven (.motor slots) = .motor moved := by
  rcases Even.exists_motor (motor.sandwichEven (.motor slots)) with ⟨moved, same⟩
  exact ⟨moved, same.symm⟩

variable {motor}

/-- The sandwich of a type that motions move is of that type again, up to the weight. -/
theorem exists_moved
    {layout : Layout}
    (isMoved : layout.IsMoved)
    (nonzero : layout.weight motor ≠ 0) :
    ∃ moved,
      sandwich motor.element (layout.valueAt slots) =
        layout.weight motor • layout.valueAt moved := by
  cases isMoved with
  | plane =>
      rcases exists_moved_plane motor slots with ⟨moved, image⟩
      exact
        ⟨moved, by
          rw [valueAt_plane, Even.sandwich_odd, image, valueAt_plane, weight, if_neg (by simp),
            one_smul]⟩
  | point =>
      rcases exists_moved_point motor slots nonzero with ⟨moved, image⟩
      exact
        ⟨moved, by
          rw [valueAt_point, Even.sandwich_odd, image, Odd.element_scale, valueAt_point, weight,
            if_pos rfl]⟩
  | vector =>
      rcases exists_moved_vector motor slots with ⟨moved, image⟩
      exact
        ⟨moved, by
          rw [valueAt_vector, Even.sandwich_odd, image, valueAt_vector, weight, if_neg (by simp),
            one_smul]⟩
  | line =>
      rcases exists_moved_line motor slots with ⟨moved, image⟩
      exact
        ⟨moved, by
          rw [valueAt_line, Even.sandwich_even, image, valueAt_line, weight, if_neg (by simp),
            one_smul]⟩
  | motor =>
      rcases exists_moved_motor motor slots with ⟨moved, image⟩
      exact
        ⟨moved, by
          rw [valueAt_motor, Even.sandwich_even, image, valueAt_motor, weight, if_neg (by simp),
            one_smul]⟩

/-- A type is read back from a multiple of what it stands for, where only points are scaled. -/
theorem valueAt_read_smul
    {layout : Layout}
    (isMoved : layout.IsMoved)
    {factor : ℝ}
    (nonzero : factor ≠ 0)
    (others : layout ≠ .point → factor = 1) :
    layout.valueAt (layout.read (factor • layout.valueAt slots)) = layout.valueAt slots := by
  cases isMoved with
  | plane =>
      rw [others (by simp), one_smul, valueAt_plane, valueAt_plane, read_plane]
      rfl
  | point =>
      rw [valueAt_point, valueAt_point, ← Odd.element_scale, read_point]
      refine congrArg Odd.element ?_
      ext <;> simp [Odd.point, Odd.scale, nonzero]
  | vector =>
      rw [others (by simp), one_smul, valueAt_vector, valueAt_vector, read_vector]
      simp [Odd.vector]
  | line =>
      rw [others (by simp), one_smul, valueAt_line, valueAt_line, read_line]
      simp [Even.line]
  | motor => rw [others (by simp), one_smul, valueAt_motor, valueAt_motor, motor_read]

/-- What is read off the sandwich of a type is moved by the motor. -/
theorem sandwich_eq_smul
    {layout : Layout}
    (isMoved : layout.IsMoved)
    (nonzero : layout.weight motor ≠ 0) :
    sandwich motor.element (layout.valueAt slots) =
      layout.weight motor •
        layout.valueAt (layout.read (sandwich motor.element (layout.valueAt slots))) := by
  rcases exists_moved slots isMoved nonzero with ⟨moved, image⟩
  rw [image, valueAt_read_smul moved isMoved nonzero fun notPoint => if_neg notPoint]

end Layout

end Versor

end
