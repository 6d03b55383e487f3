import Versor.Proofs.Expression.Interpretation
import Versor.Proofs.Projective.Coordinates
import Versor.Proofs.Tensor.Reals

/-!
# Primitives in coordinates

The types of projective geometry are even or odd elements in coordinates of
their own (`valueAt_plane` and its siblings).  A type that motions move
stores its coordinates without loss (`Layout.slots_eq_of_isMoved`), and reads
them off any element, from which it takes no more than its own part
(`Layout.read`).
-/

noncomputable section

namespace Versor

open Reference

/-! ## Slots as coordinates -/

namespace Even

/-- The motor with given slots. -/
def motor
    (slots : Nat → ℝ) :
    Even ℝ where
  scalar := slots 0
  e01 := slots 1
  e02 := slots 2
  e03 := slots 4
  e12 := slots 3
  e13 := slots 5
  e23 := slots 6
  e0123 := slots 7

/-- Every even element is a motor. -/
theorem exists_motor
    (even : Even ℝ) :
    ∃ slots, motor slots = even :=
  ⟨fun
    | 0 => even.scalar
    | 1 => even.e01
    | 2 => even.e02
    | 3 => even.e12
    | 4 => even.e03
    | 5 => even.e13
    | 6 => even.e23
    | _ => even.e0123, rfl⟩

/-- The line with a direction and a moment. -/
def line
    (slots : Nat → ℝ) :
    Even ℝ where
  scalar := 0
  e01 := slots 3
  e02 := slots 4
  e03 := slots 5
  e12 := slots 2
  e13 := -slots 1
  e23 := slots 0
  e0123 := 0

/-- The rotor with the cosine and the sine of half an angle and an axis. -/
def rotor
    (slots : Nat → ℝ) :
    Even ℝ where
  scalar := slots 0
  e01 := 0
  e02 := 0
  e03 := 0
  e12 := -(slots 1 * slots 4)
  e13 := slots 1 * slots 3
  e23 := -(slots 1 * slots 2)
  e0123 := 0

/-- The translator with a distance and a direction. -/
def translator
    (slots : Nat → ℝ) :
    Even ℝ where
  scalar := 1
  e01 := -(slots 0 * slots 1) / 2
  e02 := -(slots 0 * slots 2) / 2
  e03 := -(slots 0 * slots 3) / 2
  e12 := 0
  e13 := 0
  e23 := 0
  e0123 := 0

end Even

namespace Odd

/-- The plane with a distance and a normal. -/
def plane
    (slots : Nat → ℝ) :
    Odd ℝ where
  e0 := slots 0
  e1 := slots 1
  e2 := slots 2
  e3 := slots 3
  e012 := 0
  e013 := 0
  e023 := 0
  e123 := 0

/-- The direction with given coordinates. -/
def vector
    (slots : Nat → ℝ) :
    Odd ℝ where
  e0 := 0
  e1 := 0
  e2 := 0
  e3 := 0
  e012 := -slots 2
  e013 := slots 1
  e023 := -slots 0
  e123 := 0

/-- The point with given coordinates. -/
def point
    (slots : Nat → ℝ) :
    Odd ℝ where
  e0 := 0
  e1 := 0
  e2 := 0
  e3 := 0
  e012 := -slots 2
  e013 := slots 1
  e023 := -slots 0
  e123 := 1

end Odd

section ValueAt

variable (slots : Nat → ℝ)

theorem valueAt_motor :
    Layout.motor.valueAt slots = (Even.motor slots).element := by
  rw [Even.element_eq]
  simp [Layout.valueAt, Layout.slotTerms, Layout.mappedTerms, Layout.elements,
    Layout.motorElements, Even.motor]
  abel

theorem valueAt_line :
    Layout.line.valueAt slots = (Even.line slots).element := by
  rw [Even.element_eq]
  simp [Layout.valueAt, Layout.slotTerms, Even.line]
  abel

theorem valueAt_rotor :
    Layout.rotor.valueAt slots = (Even.rotor slots).element := by
  rw [Even.element_eq]
  simp [Layout.valueAt, Layout.slotTerms, Even.rotor]
  abel

theorem valueAt_translator :
    Layout.translator.valueAt slots = (Even.translator slots).element := by
  have half (value : ℝ) : (mkRat (-1) 2) • value = -value / 2 := by
    rw [Rat.smul_def, show mkRat (-1) 2 = -1 / 2 by norm_num [Rat.mkRat_eq_div]]
    push_cast
    ring
  rw [Even.element_eq]
  simp [Layout.valueAt, Layout.slotTerms, Even.translator, half]
  abel

theorem valueAt_plane :
    Layout.plane.valueAt slots = (Odd.plane slots).element := by
  rw [Odd.element_eq]
  simp [Layout.valueAt, Layout.slotTerms, Layout.mappedTerms, Layout.elements, Odd.plane]
  abel

theorem valueAt_vector :
    Layout.vector.valueAt slots = (Odd.vector slots).element := by
  rw [Odd.element_eq]
  simp [Layout.valueAt, Layout.slotTerms, Odd.vector]
  abel

theorem valueAt_point :
    Layout.point.valueAt slots = (Odd.point slots).element := by
  rw [Odd.element_eq]
  simp [Layout.valueAt, Layout.slotTerms, Odd.point]
  abel

end ValueAt

/-! ## Storage without loss -/

namespace Layout

/-- The types of geometric objects. -/
inductive IsPrimitive : Layout → Prop
  | plane : IsPrimitive .plane
  | point : IsPrimitive .point
  | vector : IsPrimitive .vector
  | line : IsPrimitive .line

/-- The types that motions move and give back. -/
inductive IsMoved : Layout → Prop
  | plane : IsMoved .plane
  | point : IsMoved .point
  | vector : IsMoved .vector
  | line : IsMoved .line
  | motor : IsMoved .motor

theorem IsPrimitive.isMoved
    {layout : Layout}
    (isPrimitive : layout.IsPrimitive) :
    layout.IsMoved := by
  cases isPrimitive with
  | plane => exact .plane
  | point => exact .point
  | vector => exact .vector
  | line => exact .line

/-- The types that move others. -/
inductive IsMotor : Layout → Prop
  | rotor : IsMotor .rotor
  | translator : IsMotor .translator
  | motor : IsMotor .motor

/-- A type that is read back over few dimensions, a motor over any number. -/
theorem IsMotor.isTarget
    {certain few : Prop}
    {layout : Layout}
    (isMotor : layout.IsMotor)
    (isFew : certain → layout = .motor ∨ few) :
    layout.IsMoved ∨ layout.IsMotor ∧ (certain → few) := by
  by_cases isGeneral : layout = .motor
  · exact .inl (by rw [isGeneral]; exact .motor)
  · exact .inr ⟨isMotor, fun isCertain => (isFew isCertain).resolve_left isGeneral⟩

/-- What a moved entity stands for determines its slots. -/
theorem slots_eq_of_isMoved
    {layout : Layout}
    (isMoved : layout.IsMoved)
    {slots others : Nat → ℝ}
    (same : layout.valueAt slots = layout.valueAt others)
    {slot : Nat}
    (below : slot < layout.width) :
    slots slot = others slot := by
  cases isMoved with
  | plane =>
      rw [valueAt_plane, valueAt_plane] at same
      have coordinates := Odd.element_injective same
      simp only [Odd.plane, Odd.mk.injEq] at coordinates
      change slot < 4 at below
      interval_cases slot <;> tauto
  | point =>
      rw [valueAt_point, valueAt_point] at same
      have coordinates := Odd.element_injective same
      simp only [Odd.point, Odd.mk.injEq, neg_inj] at coordinates
      change slot < 3 at below
      interval_cases slot <;> tauto
  | vector =>
      rw [valueAt_vector, valueAt_vector] at same
      have coordinates := Odd.element_injective same
      simp only [Odd.vector, Odd.mk.injEq, neg_inj] at coordinates
      change slot < 3 at below
      interval_cases slot <;> tauto
  | line =>
      rw [valueAt_line, valueAt_line] at same
      have coordinates := Even.element_injective same
      simp only [Even.line, Even.mk.injEq, neg_inj] at coordinates
      change slot < 6 at below
      interval_cases slot <;> tauto
  | motor =>
      rw [valueAt_motor, valueAt_motor] at same
      have coordinates := Even.element_injective same
      simp only [Even.motor, Even.mk.injEq] at coordinates
      change slot < 8 at below
      interval_cases slot <;> tauto

/-! ## Reading slots off an element -/

/--
The slots that a type reads off the coefficients of an element.  A point is
divided by its weight, and a translator by its scalar part; of a rotor and a
translator only the products of slots are determined, and one factor is one.
-/
def read
    (layout : Layout)
    (value : Element ℝ) :
    Nat → ℝ :=
  let on (blade : Blade) := value (Blade.vectors blade)
  match layout with
  | .plane => fun
    | 0 => on .e0
    | 1 => on .e1
    | 2 => on .e2
    | _ => on .e3
  | .point => fun
    | 0 => -on .e023 / on .e123
    | 1 => on .e013 / on .e123
    | _ => -on .e012 / on .e123
  | .vector => fun
    | 0 => -on .e023
    | 1 => on .e013
    | _ => -on .e012
  | .line => fun
    | 0 => on .e23
    | 1 => -on .e13
    | 2 => on .e12
    | 3 => on .e01
    | 4 => on .e02
    | _ => on .e03
  | .rotor => fun
    | 0 => on 0
    | 1 => 1
    | 2 => -on .e23
    | 3 => on .e13
    | _ => -on .e12
  | .translator => fun
    | 0 => 1
    | 1 => on .e01 * -2 / on 0
    | 2 => on .e02 * -2 / on 0
    | _ => on .e03 * -2 / on 0
  | _ => fun
    | 0 => on 0
    | 1 => on .e01
    | 2 => on .e02
    | 3 => on .e12
    | 4 => on .e03
    | 5 => on .e13
    | 6 => on .e23
    | _ => on .e0123

section Read

variable (even : Even ℝ) (odd : Odd ℝ)

theorem read_plane :
    Layout.plane.read odd.element = fun
      | 0 => odd.e0
      | 1 => odd.e1
      | 2 => odd.e2
      | _ => odd.e3 := by
  funext slot
  rcases slot with _ | _ | _ | slot <;> exact odd.element_apply (by decide)

theorem read_point :
    Layout.point.read odd.element = fun
      | 0 => -odd.e023 / odd.e123
      | 1 => odd.e013 / odd.e123
      | _ => -odd.e012 / odd.e123 := by
  have weight : odd.element (Blade.vectors .e123) = odd.e123 := odd.element_apply (by decide)
  funext slot
  rcases slot with _ | _ | slot <;> simp only [read, weight] <;> congr 2 <;>
    exact odd.element_apply (by decide)

theorem read_vector :
    Layout.vector.read odd.element = fun
      | 0 => -odd.e023
      | 1 => odd.e013
      | _ => -odd.e012 := by
  funext slot
  rcases slot with _ | _ | slot
  · exact congrArg Neg.neg (odd.element_apply (by decide))
  · exact odd.element_apply (by decide)
  · exact congrArg Neg.neg (odd.element_apply (by decide))

theorem read_line :
    Layout.line.read even.element = fun
      | 0 => even.e23
      | 1 => -even.e13
      | 2 => even.e12
      | 3 => even.e01
      | 4 => even.e02
      | _ => even.e03 := by
  funext slot
  rcases slot with _ | _ | _ | _ | _ | slot
  · exact even.element_apply (by decide)
  · exact congrArg Neg.neg (even.element_apply (by decide))
  all_goals exact even.element_apply (by decide)

theorem read_rotor :
    Layout.rotor.read even.element = fun
      | 0 => even.scalar
      | 1 => 1
      | 2 => -even.e23
      | 3 => even.e13
      | _ => -even.e12 := by
  funext slot
  rcases slot with _ | _ | _ | _ | slot
  · exact even.element_apply (by decide)
  · rfl
  · exact congrArg Neg.neg (even.element_apply (by decide))
  · exact even.element_apply (by decide)
  · exact congrArg Neg.neg (even.element_apply (by decide))

theorem read_translator :
    Layout.translator.read even.element = fun
      | 0 => 1
      | 1 => even.e01 * -2 / even.scalar
      | 2 => even.e02 * -2 / even.scalar
      | _ => even.e03 * -2 / even.scalar := by
  have scalar : even.element (Blade.vectors 0) = even.scalar := even.element_apply (by decide)
  funext slot
  rcases slot with _ | _ | _ | slot
  · rfl
  all_goals
    simp only [read, scalar]
    congr 2
    exact even.element_apply (by decide)

/-- A motor has the coefficients of the even element that it is read off. -/
theorem motor_read :
    Even.motor (Layout.motor.read even.element) = even := by
  ext <;> exact even.element_apply (by decide)

end Read

end Layout

end Versor

end
