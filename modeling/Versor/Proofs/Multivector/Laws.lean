import Versor.Proofs.Multivector.Operations
import Versor.Proofs.Multivector.Proper
import Versor.Proofs.Reference.Associativity

/-!
# Canonical multivectors form an associative algebra

Multivectors that the validating constructor accepts, over one algebra, add and
multiply as the elements of a geometric algebra do.  Since an operation gives
its result in canonical form, which values determine, each law of an associative
algebra with unit holds array by array (`Multivector.laws`).
-/

namespace Versor

namespace Multivector

/-! ## Equality of arrays -/

/-- Equal arrays over one algebra, however that was given. -/
abbrev Agrees
    (left right : Multivector) :
    Prop :=
  left.plain = right.plain

/-- Canonical forms over one algebra are equal if their values are. -/
theorem agrees_of_valueAt_eq
    {left right : Multivector}
    (leftCanonical : left.canonicalize = left)
    (rightCanonical : right.canonicalize = right)
    (agrees : left.algebra.Agrees right.algebra)
    (same :
      ∀ assignment : SourceId → ℚ, left.valueAt assignment = right.valueAt assignment) :
    left.Agrees right := by
  rw [← leftCanonical, ← rightCanonical]
  exact plain_canonicalize_eq_iff.2 ⟨agrees, same⟩

/-- Two computations succeed, and with equal arrays. -/
def Concur
    (left right : Except Error Multivector) :
    Prop :=
  ∃ first second, left = .ok first ∧ right = .ok second ∧ first.Agrees second

/-! ## Multivectors over an algebra -/

/-- A multivector that refers to what is there, on blades of an algebra. -/
structure BelongsTo
    (algebra : Algebra)
    (element : Multivector) :
    Prop where
  inRange : element.InRange
  agrees : element.algebra.Agrees algebra

namespace BelongsTo

variable {algebra : Algebra} {left right element : Multivector}

theorem zero :
    BelongsTo algebra (Multivector.zero algebra) where
  inRange := inRange_ofEntries (by simp)
  agrees := rfl

theorem one :
    BelongsTo algebra (constant algebra 1 0) where
  inRange := inRange_ofEntries (by simp [algebra.bladeCount_eq_pow])
  agrees := rfl

theorem canonicalize
    (belongs : BelongsTo algebra element) :
    BelongsTo algebra element.canonicalize :=
  ⟨inRange_canonicalize belongs.inRange.blades, belongs.agrees⟩

theorem scale
    (belongs : BelongsTo algebra element)
    (factor : ℚ) :
    BelongsTo algebra (element.scale factor) :=
  ⟨inRange_scale belongs.inRange factor, belongs.agrees⟩

theorem together
    (leftBelongs : BelongsTo algebra left)
    (rightBelongs : BelongsTo algebra right) :
    left.algebra.Agrees right.algebra :=
  leftBelongs.agrees.trans rightBelongs.agrees.symm

theorem apply
    (operation : BinaryOperation)
    (leftBelongs : BelongsTo algebra left)
    (rightBelongs : BelongsTo algebra right) :
    BelongsTo algebra (operation.apply left right) where
  inRange :=
    operation.inRange_apply leftBelongs.inRange rightBelongs.inRange
      (leftBelongs.together rightBelongs)
  agrees := (congrArg Algebra.plain (operation.algebra_apply left right)).trans leftBelongs.agrees

/-- Elements of one algebra are not refused. -/
theorem combine_eq
    (operation : BinaryOperation)
    (leftBelongs : BelongsTo algebra left)
    (rightBelongs : BelongsTo algebra right) :
    combine operation.apply left right = .ok (operation.apply left right) :=
  if_pos (leftBelongs.together rightBelongs)

/-- The value of a result, in the one algebra of all operands. -/
theorem valueAt_apply
    {Coefficient : Type*}
    [CommRing Coefficient]
    [Module ℚ Coefficient]
    (assignment : SourceId → Coefficient)
    (operation : BinaryOperation)
    (leftBelongs : BelongsTo algebra left)
    (rightBelongs : BelongsTo algebra right) :
    (operation.apply left right).valueAt assignment =
      Reference.binary algebra.metric operation (left.valueAt assignment)
        (right.valueAt assignment) :=
  (operation.valueAt_apply assignment leftBelongs.inRange rightBelongs.inRange
      (leftBelongs.together rightBelongs)).trans
    (Reference.binary_of_plain_eq (congrArg Algebra.metric leftBelongs.agrees) operation _ _)

end BelongsTo

/-! ## Computations with given values -/

section Computation

variable
  {algebra : Algebra}
  {computation other : Except Error Multivector}
  {value otherValue : (SourceId → ℚ) → Reference.Element ℚ}

/-- A computation succeeds with a multivector of an algebra that has given values. -/
def Yields
    (algebra : Algebra)
    (computation : Except Error Multivector)
    (value : (SourceId → ℚ) → Reference.Element ℚ) :
    Prop :=
  ∃ element, computation = .ok element ∧ BelongsTo algebra element ∧
    ∀ assignment, element.valueAt assignment = value assignment

/-- A computation succeeds with a canonical form of an algebra that has given values. -/
def YieldsCanonical
    (algebra : Algebra)
    (computation : Except Error Multivector)
    (value : (SourceId → ℚ) → Reference.Element ℚ) :
    Prop :=
  ∃ element, computation = .ok element ∧ BelongsTo algebra element ∧
    (∀ assignment, element.valueAt assignment = value assignment) ∧
      element.canonicalize = element

theorem YieldsCanonical.yields
    (canonical : YieldsCanonical algebra computation value) :
    Yields algebra computation value := by
  rcases canonical with ⟨element, succeeded, belongs, values, _⟩
  exact ⟨element, succeeded, belongs, values⟩

theorem Yields.of_belongsTo
    {element : Multivector}
    (belongs : BelongsTo algebra element) :
    Yields algebra (.ok element) fun assignment => element.valueAt assignment :=
  ⟨element, rfl, belongs, fun _ => rfl⟩

namespace Yields

theorem canonicalize
    (yields : Yields algebra computation value) :
    YieldsCanonical algebra (do return (← computation).canonicalize) value := by
  rcases yields with ⟨element, rfl, belongs, values⟩
  exact
    ⟨_, rfl, belongs.canonicalize,
      fun assignment => (element.valueAt_canonicalize assignment).trans (values assignment),
      element.canonicalize_canonicalize⟩

theorem scale
    (yields : Yields algebra computation value)
    (factor : ℚ) :
    YieldsCanonical algebra (do return (← computation).scale factor)
      fun assignment => factor • value assignment := by
  rcases yields with ⟨element, rfl, belongs, values⟩
  exact
    ⟨_, rfl, belongs.scale factor,
      fun assignment => by rw [element.valueAt_scale, values],
      canonicalize_canonicalize _⟩

/-- Operands in one algebra are accepted, and the result is in canonical form. -/
theorem apply
    (operation : BinaryOperation)
    (left : Yields algebra computation value)
    (right : Yields algebra other otherValue) :
    YieldsCanonical algebra
      (do combine operation.apply (← computation) (← other))
      fun assignment =>
        Reference.binary algebra.metric operation (value assignment)
          (otherValue assignment) := by
  rcases left with ⟨first, rfl, firstBelongs, firstValues⟩
  rcases right with ⟨second, rfl, secondBelongs, secondValues⟩
  exact
    ⟨operation.apply first second, firstBelongs.combine_eq operation secondBelongs,
      firstBelongs.apply operation secondBelongs,
      fun assignment => by
        rw [firstBelongs.valueAt_apply assignment operation secondBelongs, firstValues,
          secondValues],
      operation.canonicalize_apply first second⟩

end Yields

/-- Canonical forms with the same values have the same arrays. -/
theorem YieldsCanonical.concur
    (left : YieldsCanonical algebra computation value)
    (right : YieldsCanonical algebra other otherValue)
    (same : ∀ assignment, value assignment = otherValue assignment) :
    Concur computation other := by
  rcases left with ⟨first, rfl, firstBelongs, firstValues, firstCanonical⟩
  rcases right with ⟨second, rfl, secondBelongs, secondValues, secondCanonical⟩
  refine
    ⟨first, second, rfl, rfl,
      agrees_of_valueAt_eq firstCanonical secondCanonical
        (firstBelongs.together secondBelongs) fun assignment => ?_⟩
  rw [firstValues, secondValues, same]

end Computation

/-! ## The laws -/

/-- The value of a multivector is a sum of ascending words. -/
theorem valueAt_mem_ascending
    {Coefficient : Type*}
    [CommRing Coefficient]
    [Module ℚ Coefficient]
    (assignment : SourceId → Coefficient)
    (element : Multivector) :
    element.valueAt assignment ∈ Reference.ascending := by
  refine AddSubmonoid.list_sum_mem _ fun summand member => ?_
  rcases List.mem_map.1 member with ⟨source, _, rfl⟩
  exact Reference.single_mem_ascending (Blade.vectors_sortedLT source.blade) _

theorem valueAt_one
    {Coefficient : Type*}
    [CommRing Coefficient]
    [Module ℚ Coefficient]
    (assignment : SourceId → Coefficient)
    (algebra : Algebra) :
    (constant algebra 1 0).valueAt assignment = Finsupp.single [] 1 := by
  rw [constant, valueAt_ofEntries, entriesAt, totalOf_cons, totalOf_nil, weighAt_apply]
  simp [Entry.key, productAt]

/--
The laws of an associative algebra with unit, at three multivectors over an algebra
and a rational number.  Each says that two computations succeed with equal arrays.
-/
structure Laws
    (algebra : Algebra)
    (first second third : Multivector)
    (factor : ℚ) :
    Prop where
  product_assoc :
    Concur
      (do combine geometricProduct (← combine geometricProduct first second) third)
      (do combine geometricProduct first (← combine geometricProduct second third))
  product_add :
    Concur
      (do combine geometricProduct first (← combine add second third))
      (do
        combine add (← combine geometricProduct first second)
          (← combine geometricProduct first third))
  add_product :
    Concur
      (do combine geometricProduct (← combine add first second) third)
      (do
        combine add (← combine geometricProduct first third)
          (← combine geometricProduct second third))
  product_subtract :
    Concur
      (do combine geometricProduct first (← combine subtract second third))
      (do
        combine subtract (← combine geometricProduct first second)
          (← combine geometricProduct first third))
  subtract_product :
    Concur
      (do combine geometricProduct (← combine subtract first second) third)
      (do
        combine subtract (← combine geometricProduct first third)
          (← combine geometricProduct second third))
  add_comm : Concur (combine add first second) (combine add second first)
  add_assoc :
    Concur
      (do combine add (← combine add first second) third)
      (do combine add first (← combine add second third))
  add_zero : Concur (combine add first (zero algebra)) (.ok first.canonicalize)
  zero_add : Concur (combine add (zero algebra) first) (.ok first.canonicalize)
  subtract_self : Concur (combine subtract first first) (.ok (zero algebra))
  one_product :
    Concur (combine geometricProduct (constant algebra 1 0) first) (.ok first.canonicalize)
  product_one :
    Concur (combine geometricProduct first (constant algebra 1 0)) (.ok first.canonicalize)
  scale_product :
    Concur
      (combine geometricProduct (first.scale factor) second)
      (do return (← combine geometricProduct first second).scale factor)
  product_scale :
    Concur
      (combine geometricProduct first (second.scale factor))
      (do return (← combine geometricProduct first second).scale factor)

/--
Valid multivectors over an algebra satisfy the laws of an associative algebra with unit,
array by array.
-/
theorem laws
    {algebra : Algebra}
    {first second third : Multivector}
    (firstValid : first.Valid)
    (secondValid : second.Valid)
    (thirdValid : third.Valid)
    (firstOver : first.algebra.Agrees algebra)
    (secondOver : second.algebra.Agrees algebra)
    (thirdOver : third.algebra.Agrees algebra)
    (factor : ℚ) :
    Laws algebra first second third factor := by
  have one := Yields.of_belongsTo ⟨firstValid.inRange, firstOver⟩
  have two := Yields.of_belongsTo ⟨secondValid.inRange, secondOver⟩
  have three := Yields.of_belongsTo ⟨thirdValid.inRange, thirdOver⟩
  have nothing : Yields algebra (.ok (zero algebra)) _ := .of_belongsTo .zero
  have unit : Yields algebra (.ok (constant algebra 1 0)) _ := .of_belongsTo .one
  exact
    { product_assoc :=
        ((one.apply .geometric two).yields.apply .geometric three).concur
          (one.apply .geometric (two.apply .geometric three).yields)
          fun assignment =>
            Reference.geometric_assoc _ _ _ (third.valueAt_mem_ascending assignment)
      product_add :=
        (one.apply .geometric (two.apply .sum three).yields).concur
          ((one.apply .geometric two).yields.apply .sum (one.apply .geometric three).yields)
          fun assignment => Reference.product_add _ _ _ _ _
      add_product :=
        ((one.apply .sum two).yields.apply .geometric three).concur
          ((one.apply .geometric three).yields.apply .sum (two.apply .geometric three).yields)
          fun assignment => Reference.add_product _ _ _ _ _
      product_subtract :=
        (one.apply .geometric (two.apply .difference three).yields).concur
          ((one.apply .geometric two).yields.apply .difference
            (one.apply .geometric three).yields)
          fun assignment => Reference.product_sub _ _ _ _ _
      subtract_product :=
        ((one.apply .difference two).yields.apply .geometric three).concur
          ((one.apply .geometric three).yields.apply .difference
            (two.apply .geometric three).yields)
          fun assignment => Reference.sub_product _ _ _ _ _
      add_comm :=
        (one.apply .sum two).concur (two.apply .sum one) fun assignment => add_comm _ _
      add_assoc :=
        ((one.apply .sum two).yields.apply .sum three).concur
          (one.apply .sum (two.apply .sum three).yields)
          fun assignment => add_assoc _ _ _
      add_zero :=
        (one.apply .sum nothing).concur one.canonicalize fun assignment => by
          rw [valueAt_zero]
          exact add_zero _
      zero_add :=
        (nothing.apply .sum one).concur one.canonicalize fun assignment => by
          rw [valueAt_zero]
          exact zero_add _
      subtract_self :=
        (one.apply .difference one).concur nothing.canonicalize fun assignment => by
          rw [valueAt_zero]
          exact sub_self _
      one_product :=
        (unit.apply .geometric one).concur one.canonicalize fun assignment => by
          rw [valueAt_one]
          exact Reference.one_geometric _ _
      product_one :=
        (one.apply .geometric unit).concur one.canonicalize fun assignment => by
          rw [valueAt_one]
          exact Reference.geometric_one _ (first.valueAt_mem_ascending assignment)
      scale_product :=
        ((one.scale factor).yields.apply .geometric two).concur
          ((one.apply .geometric two).yields.scale factor)
          fun assignment => Reference.smul_product _ _ _ _ _
      product_scale :=
        (one.apply .geometric (two.scale factor).yields).concur
          ((one.apply .geometric two).yields.scale factor)
          fun assignment => Reference.product_smul _ _ _ _ _ }

/-- The laws at multivectors with multipliers, counts and a null vector. -/
theorem laws_projective :
    let scalar : Multivector :=
      ⟨.projective, #[⟨1, 2⟩, ⟨0, 1⟩], #[⟨-1, 3, 2, 0⟩], #[⟨1, 0, 0⟩, ⟨2, 0, 6⟩]⟩
    let line : Multivector := ⟨.projective, #[⟨1, -1⟩], #[⟨1, 1, 1, 0⟩], #[⟨1, 0, 3⟩]⟩
    let point : Multivector := ⟨.projective, #[], #[⟨1, 1, 0, 0⟩], #[⟨1, 0, 1⟩]⟩
    scalar.Valid ∧ line.Valid ∧ point.Valid ∧
      Laws .projective scalar line point (-1 / 2) := by
  intro scalar line point
  have scalarValid : scalar.Valid := by unfold Multivector.Valid; cbv
  have lineValid : line.Valid := by unfold Multivector.Valid; cbv
  have pointValid : point.Valid := by unfold Multivector.Valid; cbv
  exact
    ⟨scalarValid, lineValid, pointValid, laws scalarValid lineValid pointValid rfl rfl rfl _⟩

end Multivector
end Versor
