import Versor.Proofs.Multivector.Duality
import Versor.Proofs.Reference.Grades

/-!
# The derived products by grades

A multivector is the sum of its parts of each grade, and the derived products
are sums of parts of geometric products of such parts, array by array
(`Multivector.gradeParts`).  Programs decide by binary digits of pairs of blades
what a product keeps, and never form the products that the definition takes
apart.
-/

namespace Versor

namespace Multivector

section Sum

variable {algebra : Algebra}

/-- The sum of what computations give, added up one after the other. -/
def sumOf
    (algebra : Algebra)
    (computations : List (Except Error Multivector)) :
    Except Error Multivector :=
  computations.foldlM (fun total computation => do combine add total (← computation))
    (zero algebra)

/-- Computations that succeed are added up, and the sum is in canonical form. -/
theorem yields_sumOf
    {Index : Type*}
    {computation : Index → Except Error Multivector}
    {value : Index → (SourceId → ℚ) → Reference.Element ℚ}
    (yields : ∀ index, Yields algebra (computation index) (value index))
    (indices : List Index) :
    YieldsCanonical algebra (sumOf algebra (indices.map computation)) fun assignment =>
      (indices.map fun index => value index assignment).sum := by
  -- The total so far is carried along: each step adds one value to it and to the sum.
  have added (start : Multivector) (total : (SourceId → ℚ) → Reference.Element ℚ)
      (started : YieldsCanonical algebra (.ok start) total) :
      YieldsCanonical algebra
        ((indices.map computation).foldlM
          (fun total computation => do combine add total (← computation)) start)
        fun assignment =>
          total assignment + (indices.map fun index => value index assignment).sum := by
    induction indices generalizing start total with
    | nil =>
        simp only [List.map_nil, List.sum_nil, add_zero]
        exact started
    | cons index rest inductionHypothesis =>
        rcases started.yields.apply .sum (yields index) with
          ⟨next, succeeded, belongs, values, canonical⟩
        have continued :=
          inductionHypothesis next _ ⟨next, rfl, belongs, values, canonical⟩
        have step : (do combine add start (← computation index)) = Except.ok next := succeeded
        simp only [List.map_cons, List.foldlM_cons, step, List.sum_cons, ← add_assoc]
        exact continued
  have zeroBelongs : BelongsTo algebra (zero algebra) := .zero
  have nothing := (Yields.of_belongsTo zeroBelongs).canonicalize
  have total := added (zero algebra) _ nothing
  simp only [valueAt_zero, zero_add] at total
  exact total

end Sum

/--
The derived products of two multivectors and the canonical form of the first one, by grades.
Each law says that two computations succeed with equal arrays.
-/
structure GradeParts
    (algebra : Algebra)
    (first second : Multivector) :
    Prop where
  exterior :
    Concur
      (combine exteriorProduct first second)
      (sumOf algebra
        ((algebra.grades ×ˢ algebra.grades).map fun grades : Nat × Nat => do
          let product ←
            combine geometricProduct (first.gradeSelect grades.1) (second.gradeSelect grades.2)
          return product.gradeSelect ((grades.1 : ℚ) + grades.2)))
  leftContraction :
    Concur
      (combine Multivector.leftContraction first second)
      (sumOf algebra
        ((algebra.grades ×ˢ algebra.grades).map fun grades : Nat × Nat => do
          let product ←
            combine geometricProduct (first.gradeSelect grades.1) (second.gradeSelect grades.2)
          return product.gradeSelect ((grades.2 : ℚ) - grades.1)))
  scalar :
    Concur
      (combine scalarProduct first second)
      (do return (← combine geometricProduct first second).gradeSelect 0)
  canonicalize :
    Concur
      (.ok first.canonicalize)
      (sumOf algebra (algebra.grades.map fun grade : Nat => .ok (first.gradeSelect grade)))

/-- The derived products of valid multivectors over an algebra are parts of geometric ones. -/
theorem gradeParts
    {algebra : Algebra}
    {first second : Multivector}
    (firstValid : first.Valid)
    (secondValid : second.Valid)
    (firstOver : first.algebra.Agrees algebra)
    (secondOver : second.algebra.Agrees algebra) :
    GradeParts algebra first second := by
  have firstBelongs : BelongsTo algebra first := ⟨firstValid.inRange, firstOver⟩
  have secondBelongs : BelongsTo algebra second := ⟨secondValid.inRange, secondOver⟩
  have firstWithin := fun assignment => firstBelongs.valueAt_mem_within assignment
  have secondWithin := fun assignment => secondBelongs.valueAt_mem_within assignment
  have one := Yields.of_belongsTo firstBelongs
  have two := Yields.of_belongsTo secondBelongs
  have parts (target : ℚ → ℚ → ℚ) (grades : Nat × Nat) :=
    (((one.unary (.grade grades.1)).yields.apply .geometric
      (two.unary (.grade grades.2)).yields).yields.unary
        (.grade (target grades.1 grades.2))).yields
  constructor
  case exterior =>
    apply (one.apply .exterior two).concur (yields_sumOf (parts (· + ·)) _)
    intro assignment
    exact
      Reference.product_eq_sum_gradePart (· + ·) ProductKind.exterior_keeps_iff
        (firstWithin assignment) (secondWithin assignment)
  case leftContraction =>
    apply
      (one.apply .leftContraction two).concur
        (yields_sumOf (parts fun leftGrade rightGrade => rightGrade - leftGrade) _)
    intro assignment
    exact
      Reference.product_eq_sum_gradePart (fun leftGrade rightGrade => rightGrade - leftGrade)
        ProductKind.leftContraction_keeps_iff (firstWithin assignment) (secondWithin assignment)
  case scalar =>
    apply
      (one.apply .scalarProduct two).concur ((one.apply .geometric two).yields.unary (.grade 0))
    intro assignment
    apply Reference.product_eq_gradePart _ (firstWithin assignment) (secondWithin assignment)
    intro left right _ _
    exact ProductKind.scalar_keeps_iff left right
  case canonicalize =>
    have selected (grade : Nat) := (one.unary (.grade grade)).yields
    apply one.canonicalize.concur (yields_sumOf selected _)
    intro assignment
    exact (Reference.sum_gradePart (firstWithin assignment)).symm

/-- The products at a sum of three grades and a motor, with pairs that cancel. -/
theorem gradeParts_projective :
    let mixed : Multivector :=
      ⟨.projective, #[⟨1, 2⟩, ⟨0, 1⟩], #[⟨-1, 3, 2, 0⟩, ⟨1, 1, 1, 1⟩],
        #[⟨1, 0, 2⟩, ⟨1, 0, 7⟩, ⟨2, 1, 6⟩]⟩
    let motor : Multivector :=
      ⟨.projective, #[⟨1, -1⟩], #[⟨1, 1, 1, 0⟩, ⟨-1, 3, 0, 1⟩], #[⟨1, 0, 0⟩, ⟨1, 1, 3⟩]⟩
    mixed.Valid ∧ motor.Valid ∧ GradeParts .projective mixed motor := by
  intro mixed motor
  have mixedValid : mixed.Valid := by unfold Multivector.Valid; cbv
  have motorValid : motor.Valid := by unfold Multivector.Valid; cbv
  exact ⟨mixedValid, motorValid, gradeParts mixedValid motorValid rfl rfl⟩

end Multivector

end Versor
