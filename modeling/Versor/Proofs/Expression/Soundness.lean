import Versor.Proofs.Expression.Growth
import Versor.Proofs.Expression.Interpretation

/-!
# Reduction is sound

Reducing a well-formed expression gives the multivector whose value at every
rational assignment is the meaning of the expression, and whose blades are
those on which the meaning, as a polynomial, is not zero (`reduce_sound`).
The one thing that can come in between is a stack that does not hold the
operations inside one another, and on no stack are all expressions reduced
(`reduce_refuses`).  With a check of the bindings, reduction does the same
unless the check fails.
-/

namespace Versor
namespace Expr

open Build MvPolynomial

/-- What the result of reducing an expression has to be. -/
structure ReducesTo
    (expression : Expr)
    (value : Multivector) :
    Prop where
  /-- At every rational assignment the value is the meaning of the expression. -/
  valueAt :
    ∀ assignment : SourceId → ℚ,
      value.valueAt assignment =
        expression.interpret expression.algebra.metric (Binding.valueAt assignment)
  bladesAscending : value.blades.SortedLT
  /-- The blades are those whose coefficient is not the zero polynomial. -/
  mem_blades :
    ∀ blade,
      blade ∈ value.blades ↔
        expression.interpret expression.algebra.metric
          (Binding.valueAt (X : SourceId → MvPolynomial SourceId ℚ))
          (Blade.vectors blade) ≠ 0

theorem reducesTo_of_evaluate
    {expression : Expr}
    (wellFormed : expression.WellFormed)
    {value : Multivector}
    (evaluated : expression.evaluate = .ok value) :
    expression.ReducesTo value := by
  have denotes := denotes_of_evaluate wellFormed evaluated
  refine
    { valueAt := valueAt_evaluate wellFormed evaluated rfl
      bladesAscending := value.blades_sortedLT
      mem_blades := fun blade => ?_ }
  rw [Multivector.mem_blades_iff_ne_zero denotes.canonical,
    valueAt_evaluate wellFormed evaluated rfl]

/-- Reduction gives what a well-formed expression evaluates to, or has no room for it. -/
theorem outcome_reduceUnchecked_cases
    {graph : Set Expr}
    {workspace : Workspace}
    (sound : workspace.Sound graph)
    {expression : Expr}
    (member : expression ∈ graph)
    (wellFormed : expression.WellFormed) :
    (∃ value behind,
        outcome expression.reduceUnchecked workspace = (.ok value, behind) ∧
          expression.evaluate = .ok value) ∨
      ¬workspace.limits.stack.Holds (expression.heightAbove workspace.keeps) ∧
        ∃ behind,
          outcome expression.reduceUnchecked workspace = (.error .nestedTooDeeply, behind) := by
  have reduced := reduceUnchecked_spec member sound
  unfold Ensures at reduced
  rcases reduced.evaluated with right | ⟨tooDeep, higher⟩
  · rcases exists_evaluate wellFormed with ⟨value, evaluated, _⟩
    exact .inl ⟨value, _, Prod.ext (right.trans evaluated) rfl, evaluated⟩
  · exact .inr ⟨higher, _, Prod.ext tooDeep rfl⟩

/--
Reducing a well-formed expression in a sound workspace finds its meaning and
the blades of it, unless the stack does not hold its operations inside one
another and the reduction stops there.  A check of the bindings that succeeds
makes no difference, and one that fails is all there is.
-/
theorem reduce_sound
    {graph : Set Expr}
    {workspace : Workspace}
    (sound : workspace.Sound graph)
    {expression : Expr}
    (member : expression ∈ graph)
    (wellFormed : expression.WellFormed)
    (widths : Nat → Except Error Nat) :
    ((∃ value behind,
        outcome (expression.reduce widths false) workspace = (.ok value, behind) ∧
          expression.ReducesTo value) ∨
      ¬workspace.limits.stack.Holds (expression.heightAbove workspace.keeps) ∧
        ∃ behind,
          outcome (expression.reduce widths false) workspace =
            (.error .nestedTooDeeply, behind)) ∧
      outcome (expression.reduce widths true) workspace =
        match expression.checkBindings widths with
        | .ok _ => outcome (expression.reduce widths false) workspace
        | .error error => (.error error, workspace) := by
  refine ⟨?_, outcome_reduce_true widths expression workspace⟩
  rw [outcome_reduce_false]
  rcases outcome_reduceUnchecked_cases sound member wellFormed with
    ⟨value, behind, reduced, evaluated⟩ | tooDeep
  · exact .inl ⟨value, behind, reduced, reducesTo_of_evaluate wellFormed evaluated⟩
  · exact .inr tooDeep

/-- A scalar bound at the first id. -/
def scalarLeaf
    (node entity : Nat) :
    Expr :=
  .bind node ⟨entity, .scalar .projective, .natural 0⟩

theorem wellFormed_scalarLeaf
    (node entity : Nat) :
    (scalarLeaf node entity).WellFormed :=
  Layout.inRange_of_kind (show Kind.scalar ≠ Kind.generic by decide)

theorem reduce_sound_sum :
    let leaf := scalarLeaf 0 0
    let sum : Expr := .binary 1 .sum leaf leaf
    ∃ value behind,
      outcome (sum.reduce (fun _ => .ok 1) false) ⟨2, [], .usual⟩ = (.ok value, behind) ∧
        sum.ReducesTo value := by
  intro leaf sum
  have leafSound : (⟨1, [], .usual⟩ : Workspace).Sound (insert leaf ∅) :=
    (Workspace.sound_empty 0 .usual).insert rfl (by simp [leaf, scalarLeaf, operands])
  have sound : (⟨2, [], .usual⟩ : Workspace).Sound (insert sum (insert leaf ∅)) :=
    leafSound.insert rfl (by simp [sum, operands])
  have wellFormed : sum.WellFormed :=
    ⟨wellFormed_scalarLeaf 0 0, wellFormed_scalarLeaf 0 0, rfl⟩
  rcases (reduce_sound sound (Set.mem_insert _ _) wellFormed fun _ => .ok 1).1 with
    found | ⟨higher, _⟩
  · exact found
  · exact absurd (by decide : Limits.usual.stack.Holds 1) higher

/-! ## What reduction refuses -/

/-- An operand with its sign changed a number of times, by nodes numbered from one on. -/
def negations
    (operand : Expr)
    (first : Nat) :
    Nat → Expr
  | 0 => operand
  | count + 1 => .unary (first + count) .negate (negations operand first count)

/-- With no results kept as many operations inside one another as calls are too many. -/
theorem outcome_reduceNode_negations
    {workspace : Workspace}
    (nothing : workspace.results = [])
    (operand : Expr)
    (first : Nat)
    (stack : Stack)
    {room count : Nat}
    (few : room ≤ count) :
    outcome (reduceNode stack room (negations operand first count)) workspace =
      (.error .nestedTooDeeply, workspace) := by
  have absent (node : Nat) : workspace.results.lookup node = none := by
    rw [nothing]
    rfl
  induction room generalizing count with
  | zero => exact outcome_reduceNode_zero ..
  | succ room inductionHypothesis =>
      rcases Nat.exists_eq_succ_of_ne_zero (Nat.zero_lt_of_lt few).ne' with ⟨count, rfl⟩
      rw [negations, outcome_reduceNode_unary (absent _), outcome_bind,
        inductionHypothesis (Nat.le_of_succ_le_succ few)]

theorem wellFormed_negations
    {operand : Expr}
    (wellFormed : operand.WellFormed)
    (first count : Nat) :
    (negations operand first count).WellFormed := by
  induction count with
  | zero => exact wellFormed
  | succ count inductionHypothesis => exact inductionHypothesis

/--
Well-formed expressions that do not reduce: on every stack a deep one, and with a check one
that shares ids.
-/
theorem reduce_refuses :
    (∀ limits : Limits, ∃ count,
        (negations (scalarLeaf 0 0) 1 count).WellFormed ∧
          (outcome
              ((negations (scalarLeaf 0 0) 1 count).reduce (fun _ => .ok 1) false)
              ⟨count + 1, [], limits⟩).1 =
            .error .nestedTooDeeply) ∧
      (Expr.binary 2 .sum (scalarLeaf 0 0) (scalarLeaf 1 1)).WellFormed ∧
        ∀ limits : Limits,
          (outcome
              ((Expr.binary 2 .sum (scalarLeaf 0 0) (scalarLeaf 1 1)).reduce
                (fun _ => .ok 1) true)
              ⟨3, [], limits⟩).1 =
            .error (.bindingOverlap (.integer 0) (.integer 1) (.integer 0) (.integer 1)) := by
  have overlap :
      (Expr.binary 2 .sum (scalarLeaf 0 0) (scalarLeaf 1 1)).checkBindings (fun _ => .ok 1) =
        .error (.bindingOverlap (.integer 0) (.integer 1) (.integer 0) (.integer 1)) := by
    cbv
  refine ⟨fun limits => ⟨limits.stack.room, ?_, ?_⟩, ?_, fun limits => ?_⟩
  · exact wellFormed_negations (wellFormed_scalarLeaf 0 0) 1 _
  · rw [outcome_reduce_false, outcome_reduceUnchecked]
    exact
      congrArg Prod.fst
        (outcome_reduceNode_negations rfl (scalarLeaf 0 0) 1 limits.stack
          (le_refl limits.stack.room))
  · exact ⟨wellFormed_scalarLeaf 0 0, wellFormed_scalarLeaf 1 1, rfl⟩
  · rw [outcome_reduce_true, overlap]

end Expr
end Versor
