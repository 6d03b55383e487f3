import Versor.Proofs.Multivector.Laws

/-!
# Operations keep multivectors valid and look at values only

On valid multivectors of one algebra no operation is refused, at none of the
steps that go through the constructor, and what comes out is valid and in
canonical form.  With the canonical form of every result goes that operands of
equal value can be exchanged: an operation gives equal arrays on them
(`Multivector.operations_closed`).
-/

namespace Versor

/-! ## Operands of equal value -/

namespace Multivector

/-- The same value at every assignment, in one algebra. -/
structure Equivalent
    (left right : Multivector) :
    Prop where
  agrees : left.algebra.Agrees right.algebra
  values : ∀ assignment : SourceId → ℚ, left.valueAt assignment = right.valueAt assignment

end Multivector

/-- An operation gives equal arrays on operands of equal value. -/
theorem UnaryOperation.agrees_apply
    (operation : UnaryOperation)
    {operand other : Multivector}
    (inRange : operand.InRange)
    (otherInRange : other.InRange)
    (equivalent : operand.Equivalent other) :
    (operation.apply operand).Agrees (operation.apply other) := by
  apply Multivector.agrees_of_valueAt_eq
  · exact operation.canonicalize_apply operand
  · exact operation.canonicalize_apply other
  · rw [algebra_apply, algebra_apply]
    exact equivalent.agrees
  · intro assignment
    rw [operation.valueAt_apply assignment inRange, operation.valueAt_apply assignment otherInRange,
      equivalent.values]
    have metrics : operand.algebra.metric.plain = other.algebra.metric.plain :=
      congrArg Algebra.metric equivalent.agrees
    exact Reference.unary_of_plain_eq metrics operation _

theorem BinaryOperation.agrees_apply
    (operation : BinaryOperation)
    {left right leftOther rightOther : Multivector}
    (leftInRange : left.InRange)
    (rightInRange : right.InRange)
    (leftOtherInRange : leftOther.InRange)
    (rightOtherInRange : rightOther.InRange)
    (agrees : left.algebra.Agrees right.algebra)
    (leftEquivalent : left.Equivalent leftOther)
    (rightEquivalent : right.Equivalent rightOther) :
    (operation.apply left right).Agrees (operation.apply leftOther rightOther) := by
  have othersAgree : leftOther.algebra.Agrees rightOther.algebra :=
    leftEquivalent.agrees.symm.trans (agrees.trans rightEquivalent.agrees)
  apply Multivector.agrees_of_valueAt_eq
  · exact operation.canonicalize_apply left right
  · exact operation.canonicalize_apply leftOther rightOther
  · rw [algebra_apply, algebra_apply]
    exact leftEquivalent.agrees
  · intro assignment
    rw [operation.valueAt_apply assignment leftInRange rightInRange agrees,
      operation.valueAt_apply assignment leftOtherInRange rightOtherInRange othersAgree,
      leftEquivalent.values, rightEquivalent.values]
    have metrics : left.algebra.metric.plain = leftOther.algebra.metric.plain :=
      congrArg Algebra.metric leftEquivalent.agrees
    exact Reference.binary_of_plain_eq metrics operation _ _

namespace Multivector

/-- A product has at most one term for each pair of terms. -/
theorem termCount_rawProduct_le
    (kind : ProductKind)
    (left right : Multivector) :
    (rawProduct kind left right).termCount ≤ left.termCount * right.termCount := by
  have rights (summand : Summand) :
      (right.summands.filterMap (productSummand? left.algebra kind summand)).length ≤
        right.termCount := by
    apply (List.length_filterMap_le ..).trans_eq
    simp [summands, termCount]
  have bound (lefts : List Summand) :
      (lefts.flatMap fun summand =>
          right.summands.filterMap (productSummand? left.algebra kind summand)).length ≤
        lefts.length * right.termCount := by
    induction lefts with
    | nil => simp
    | cons summand rest inductionHypothesis =>
        rw [List.flatMap_cons, List.length_append, List.length_cons, Nat.succ_mul, Nat.add_comm]
        exact Nat.add_le_add inductionHypothesis (rights summand)
  have counted :
      (rawProduct kind left right).termCount =
        (left.summands.flatMap fun summand =>
          right.summands.filterMap (productSummand? left.algebra kind summand)).length := by
    simp [rawProduct, ofSummands, termCount]
  rw [counted]
  exact (bound left.summands).trans_eq (by simp [summands, termCount])

/-- A computation is refused because of the algebras of its operands. -/
def IsRefused
    (computation : Except Error Multivector) :
    Prop :=
  ∃ error, computation = .error error ∧ error.kind = .algebraMismatch

theorem isRefused_combine_iff
    (operation : Multivector → Multivector → Multivector)
    (left right : Multivector) :
    IsRefused (combine operation left right) ↔ ¬left.algebra.Agrees right.algebra := by
  constructor
  · rintro ⟨error, refused, _⟩ agrees
    rw [combine, if_pos agrees] at refused
    cases refused
  · intro differ
    exact ⟨_, if_neg differ, rfl⟩

/--
What the operations make of two multivectors, and of two others that these are
equal to in value.
-/
structure Closure
    (left right leftOther rightOther : Multivector) :
    Prop where
  canonicalize :
    left.merge = .ok left.canonicalize ∧ left.canonicalize.IsValidCanonical ∧
      left.canonicalize.Agrees leftOther.canonicalize
  /-- Terms pass the constructor before they are merged and afterwards. -/
  unary :
    ∀ operation : UnaryOperation,
      operation.perform left = .ok (operation.apply left) ∧ (operation.raw left).Valid ∧
        (operation.apply left).IsValidCanonical ∧
          (operation.apply left).Agrees (operation.apply leftOther)
  binary :
    left.algebra.Agrees right.algebra →
      ∀ operation : BinaryOperation,
        ∃ result other,
          operation.perform left right = .ok result ∧
            operation.perform leftOther rightOther = .ok other ∧
              result.IsValidCanonical ∧ result.Agrees other
  concatenate :
    left.algebra.Agrees right.algebra →
      ∃ result, combine concatenate left right = .ok result ∧ result.Valid
  rawProduct :
    left.algebra.Agrees right.algebra →
      ∀ kind : ProductKind,
        ∃ result,
          combine (rawProduct kind) left right = .ok result ∧ result.Valid ∧
            result.termCount ≤ left.termCount * right.termCount
  binary_refused :
    ∀ operation : BinaryOperation,
      IsRefused (operation.perform left right) ↔ ¬left.algebra.Agrees right.algebra
  concatenate_refused :
    IsRefused (combine Multivector.concatenate left right) ↔
      ¬left.algebra.Agrees right.algebra
  rawProduct_refused :
    ∀ kind : ProductKind,
      IsRefused (combine (Multivector.rawProduct kind) left right) ↔
        ¬left.algebra.Agrees right.algebra

/--
The operations take valid multivectors to valid ones, all but two of them in canonical
form and with arrays that only depend on the values of the operands.  They refuse
operands exactly if these are not over one algebra, and the constructor refuses nothing.
-/
theorem operations_closed
    {left right leftOther rightOther : Multivector}
    (leftValid : left.Valid)
    (rightValid : right.Valid)
    (leftOtherValid : leftOther.Valid)
    (rightOtherValid : rightOther.Valid)
    (leftEquivalent : left.Equivalent leftOther)
    (rightEquivalent : right.Equivalent rightOther) :
    Closure left right leftOther rightOther := by
  have leftProper := valid_iff_isProper.1 leftValid
  have rightProper := valid_iff_isProper.1 rightValid
  constructor
  case canonicalize =>
    refine ⟨leftProper.merge, ?_, ?_⟩
    · exact ⟨valid_iff_isProper.2 leftProper.canonicalize, canonicalize_canonicalize left⟩
    · exact plain_canonicalize_eq_iff.2 ⟨leftEquivalent.agrees, leftEquivalent.values⟩
  case unary =>
    intro operation
    refine ⟨operation.perform_eq_ok leftProper, ?_, ?_, ?_⟩
    · exact valid_iff_isProper.2 (operation.isProper_raw leftProper)
    · exact operation.isValidCanonical_apply leftProper
    · exact operation.agrees_apply leftValid.inRange leftOtherValid.inRange leftEquivalent
  case binary =>
    intro agrees operation
    have othersAgree : leftOther.algebra.Agrees rightOther.algebra :=
      leftEquivalent.agrees.symm.trans (agrees.trans rightEquivalent.agrees)
    have leftOtherProper := valid_iff_isProper.1 leftOtherValid
    have rightOtherProper := valid_iff_isProper.1 rightOtherValid
    refine
      ⟨_, _, operation.perform_of_agrees leftProper rightProper agrees,
        operation.perform_of_agrees leftOtherProper rightOtherProper othersAgree, ?_, ?_⟩
    · exact operation.isValidCanonical_apply leftProper rightProper agrees
    · exact
        operation.agrees_apply leftValid.inRange rightValid.inRange leftOtherValid.inRange
          rightOtherValid.inRange agrees leftEquivalent rightEquivalent
  case concatenate =>
    intro agrees
    exact ⟨_, if_pos agrees, valid_iff_isProper.2 (leftProper.concatenate rightProper agrees)⟩
  case rawProduct =>
    intro agrees kind
    exact
      ⟨_, if_pos agrees, valid_iff_isProper.2 (leftProper.rawProduct kind rightProper agrees),
        termCount_rawProduct_le kind left right⟩
  case binary_refused =>
    intro operation
    rw [operation.perform_eq_combine leftProper rightProper]
    exact isRefused_combine_iff _ left right
  case concatenate_refused => exact isRefused_combine_iff _ left right
  case rawProduct_refused =>
    intro kind
    exact isRefused_combine_iff _ left right

/-- Two ways to write a number down, one with a multiplier and one with a spare monomial. -/
theorem operations_closed_projective :
    let left : Multivector :=
      ⟨.projective, #[⟨1, 2⟩, ⟨0, 1⟩], #[⟨-1, 3, 2, 0⟩], #[⟨1, 0, 0⟩, ⟨2, 0, 6⟩]⟩
    let leftOther : Multivector :=
      ⟨.projective, #[⟨0, -1⟩, ⟨1, 1⟩], #[⟨1, 1, 1, 0⟩, ⟨1, 6, 2, 0⟩],
        #[⟨2, 1, 6⟩, ⟨1, 1, 0⟩]⟩
    let right : Multivector := ⟨.projective, #[⟨1, -1⟩], #[⟨1, 1, 1, 0⟩], #[⟨3, 0, 3⟩]⟩
    let rightOther : Multivector := ⟨.projective, #[⟨1, 3⟩], #[⟨-1, 1, 1, 0⟩], #[⟨1, 0, 3⟩]⟩
    Closure left right leftOther rightOther := by
  intro left leftOther right rightOther
  have leftValid : left.Valid := by unfold Multivector.Valid; cbv
  have leftOtherValid : leftOther.Valid := by unfold Multivector.Valid; cbv
  have rightValid : right.Valid := by unfold Multivector.Valid; cbv
  have rightOtherValid : rightOther.Valid := by unfold Multivector.Valid; cbv
  have leftForms : left.canonicalize.plain = leftOther.canonicalize.plain := by cbv
  have rightForms : right.canonicalize.plain = rightOther.canonicalize.plain := by cbv
  have leftEquivalent := plain_canonicalize_eq_iff.1 leftForms
  have rightEquivalent := plain_canonicalize_eq_iff.1 rightForms
  exact
    operations_closed leftValid rightValid leftOtherValid rightOtherValid
      ⟨leftEquivalent.1, leftEquivalent.2⟩ ⟨rightEquivalent.1, rightEquivalent.2⟩

end Multivector

end Versor
