import Versor.Proofs.Expression.Dependence

/-!
# Expressions of one tree

Expressions match if they are built alike over related bindings, whatever the
numbers of their nodes.  What related bindings stand for is all that their
meanings depend on (`Matches.interpret_eq`).

If moreover the ids of related bindings correspond to each other one to one,
then the expressions evaluate to multivectors on the same blades
(`Matches.blades_eq`): each of them turns into the other when its ids are
exchanged, and a polynomial that is zero stays zero.
-/

noncomputable section

namespace Versor
namespace Expr

/-- Expressions of the same operations and constants over related bindings. -/
inductive Matches
    (related : Binding → Binding → Prop) :
    Expr → Expr → Prop
  | bind
    {node otherNode : Nat}
    {binding other : Binding}
    (leaf : related binding other) :
    Matches related (.bind node binding) (.bind otherNode other)
  | constant
    (node otherNode : Nat)
    (value : SpelledMultivector) :
    Matches related (.constant node value) (.constant otherNode value)
  | unary
    (node otherNode : Nat)
    (operation : UnaryOperation)
    {operand otherOperand : Expr}
    (operands : Matches related operand otherOperand) :
    Matches related (.unary node operation operand) (.unary otherNode operation otherOperand)
  | binary
    (node otherNode : Nat)
    (operation : BinaryOperation)
    {left right otherLeft otherRight : Expr}
    (lefts : Matches related left otherLeft)
    (rights : Matches related right otherRight) :
    Matches related (.binary node operation left right)
      (.binary otherNode operation otherLeft otherRight)

namespace Matches

variable {related : Binding → Binding → Prop} {expression other : Expr}

theorem symm
    (matching : Matches related expression other) :
    Matches (fun binding first => related first binding) other expression := by
  induction matching with
  | bind leaf => exact .bind leaf
  | constant node otherNode value => exact .constant otherNode node value
  | unary node otherNode operation _ inductionHypothesis =>
      exact .unary otherNode node operation inductionHypothesis
  | binary node otherNode operation _ _ leftHypothesis rightHypothesis =>
      exact .binary otherNode node operation leftHypothesis rightHypothesis

/-- What holds of the leaves of both expressions may be used of related bindings. -/
theorem weaken
    {weaker : Binding → Binding → Prop}
    {holds otherHolds : Binding → Prop}
    (matching : Matches related expression other)
    (leaves : expression.AllLeaves holds)
    (otherLeaves : other.AllLeaves otherHolds)
    (weakens :
      ∀ binding first, holds binding → otherHolds first → related binding first →
        weaker binding first) :
    Matches weaker expression other := by
  induction matching with
  | bind leaf => exact .bind (weakens _ _ leaves otherLeaves leaf)
  | constant node otherNode value => exact .constant node otherNode value
  | unary node otherNode operation _ inductionHypothesis =>
      exact .unary node otherNode operation (inductionHypothesis leaves otherLeaves)
  | binary node otherNode operation _ _ leftHypothesis rightHypothesis =>
      exact
        .binary node otherNode operation (leftHypothesis leaves.1 otherLeaves.1)
          (rightHypothesis leaves.2 otherLeaves.2)

/-- A property that passes from bindings to related ones passes from leaves to leaves. -/
theorem allLeaves
    {holds otherHolds : Binding → Prop}
    (matching : Matches related expression other)
    (passes : ∀ binding first, related binding first → holds binding → otherHolds first)
    (leaves : expression.AllLeaves holds) :
    other.AllLeaves otherHolds := by
  induction matching with
  | bind leaf => exact passes _ _ leaf leaves
  | constant => trivial
  | unary _ _ _ _ inductionHypothesis => exact inductionHypothesis leaves
  | binary _ _ _ _ _ leftHypothesis rightHypothesis =>
      exact ⟨leftHypothesis leaves.1, rightHypothesis leaves.2⟩

theorem interpret_eq
    {Coefficient : Type*}
    [CommRing Coefficient]
    [Module ℚ Coefficient]
    {leaf otherLeaf : Binding → Reference.Element Coefficient}
    (matching : Matches related expression other)
    (same : ∀ binding first, related binding first → leaf binding = otherLeaf first)
    (metric : Metric) :
    expression.interpret metric leaf = other.interpret metric otherLeaf := by
  induction matching with
  | bind related => exact same _ _ related
  | constant => rfl
  | unary _ _ _ _ inductionHypothesis => rw [interpret, interpret, inductionHypothesis]
  | binary _ _ _ _ _ leftHypothesis rightHypothesis =>
      rw [interpret, interpret, leftHypothesis, rightHypothesis]

section Layouts

variable
  (matching : Matches related expression other)
  (layouts : ∀ binding first, related binding first → first.layout = binding.layout)

include matching layouts

theorem algebra_eq :
    other.algebra = expression.algebra := by
  induction matching with
  | bind leaf => exact congrArg Layout.algebra (layouts _ _ leaf)
  | constant => rfl
  | unary _ _ _ _ inductionHypothesis => exact inductionHypothesis
  | binary _ _ _ _ _ leftHypothesis _ => exact leftHypothesis

theorem wellFormed
    (wellFormed : expression.WellFormed) :
    other.WellFormed := by
  induction matching with
  | bind leaf =>
      change Layout.InRange _
      rw [layouts _ _ leaf]
      exact wellFormed
  | constant => exact wellFormed
  | unary _ _ _ _ inductionHypothesis => exact inductionHypothesis wellFormed
  | binary _ _ _ lefts rights leftHypothesis rightHypothesis =>
      rcases wellFormed with ⟨leftFormed, rightFormed, agree⟩
      refine ⟨leftHypothesis leftFormed, rightHypothesis rightFormed, ?_⟩
      rw [lefts.algebra_eq layouts, rights.algebra_eq layouts]
      exact agree

end Layouts

end Matches

/-! ## Exchanging ids -/

/-- Bindings of the same layouts whose ids correspond to each other one to one. -/
structure Exchanges
    (related : Binding → Binding → Prop) :
    Prop where
  layout : ∀ binding first, related binding first → first.layout = binding.layout
  ids :
    ∀ binding first, related binding first → ∀ next second, related next second →
      ∀ slot < binding.layout.width, ∀ otherSlot < next.layout.width,
        binding.first.id slot = next.first.id otherSlot ↔
          first.first.id slot = second.first.id otherSlot

theorem Exchanges.symm
    {related : Binding → Binding → Prop}
    (exchanges : Exchanges related) :
    Exchanges fun binding first => related first binding where
  layout binding first isRelated := (exchanges.layout first binding isRelated).symm
  ids binding first isRelated next second isNext slot below otherSlot otherBelow := by
    rw [exchanges.layout _ _ isRelated] at below
    rw [exchanges.layout _ _ isNext] at otherBelow
    exact
      (exchanges.ids first binding isRelated second next isNext slot below otherSlot
        otherBelow).symm

/-- Ids that correspond to each other can be exchanged at once. -/
theorem Exchanges.exists_exchange
    {related : Binding → Binding → Prop}
    (exchanges : Exchanges related) :
    ∃ exchange : SourceId → SourceId,
      ∀ binding first, related binding first → ∀ slot < binding.layout.width,
        exchange (first.first.id slot) = binding.first.id slot := by
  classical
  let Exchanged (id exchanged : SourceId) : Prop :=
    ∃ binding first, related binding first ∧ ∃ slot < binding.layout.width,
      first.first.id slot = id ∧ binding.first.id slot = exchanged
  let exchange (id : SourceId) : SourceId :=
    if known : ∃ exchanged, Exchanged id exchanged then known.choose else id
  refine ⟨exchange, fun binding first isRelated slot below => ?_⟩
  have known : ∃ exchanged, Exchanged (first.first.id slot) exchanged :=
    ⟨_, binding, first, isRelated, slot, below, rfl, rfl⟩
  have chosen : exchange (first.first.id slot) = known.choose := dif_pos known
  rcases known.choose_spec with ⟨next, second, isNext, otherSlot, otherBelow, sameId, isChosen⟩
  rw [chosen, ← isChosen]
  exact
    ((exchanges.ids next second isNext binding first isRelated otherSlot otherBelow slot
      below).2 sameId)

open MvPolynomial

namespace Matches

variable
  {related : Binding → Binding → Prop}
  {expression other : Expr}
  (matching : Matches related expression other)
  (exchanges : Exchanges related)
  (wellFormed : expression.WellFormed)
  {value otherValue : Multivector}
  (evaluated : expression.evaluate = .ok value)
  (otherEvaluated : other.evaluate = .ok otherValue)

include matching exchanges wellFormed evaluated otherEvaluated

/-- A blade on which an expression is not zero is one of all expressions that match it. -/
theorem blades_subset
    {blade : Blade}
    (member : blade ∈ value.blades) :
    blade ∈ otherValue.blades := by
  rcases exchanges.exists_exchange with ⟨exchange, exchanged⟩
  have otherFormed := matching.wellFormed exchanges.layout wellFormed
  have otherAgrees : other.algebra.Agrees expression.algebra :=
    congrArg Algebra.plain (matching.algebra_eq exchanges.layout)
  have sameLeaves (binding first : Binding) (isRelated : related binding first) :
      binding.valueAt (X : SourceId → MvPolynomial SourceId ℚ) =
        first.valueAt (X ∘ exchange) := by
    rw [Binding.valueAt, Binding.valueAt, exchanges.layout _ _ isRelated]
    refine binding.layout.valueAt_congr fun slot below => ?_
    exact congrArg X (exchanged binding first isRelated slot below).symm
  have sameValue :
      value.valueAt (X : SourceId → MvPolynomial SourceId ℚ) =
        otherValue.valueAt (X ∘ exchange) := by
    rw [valueAt_evaluate wellFormed evaluated rfl,
      valueAt_evaluate otherFormed otherEvaluated otherAgrees,
      matching.interpret_eq sameLeaves]
  have canonical := (denotes_of_evaluate wellFormed evaluated).canonical
  have nonzero := (Multivector.mem_blades_iff_ne_zero canonical blade).1 member
  by_contra absent
  rw [sameValue, Multivector.valueAt_eq_zero_of_not_mem_blades _ absent] at nonzero
  exact nonzero rfl

/-- Expressions that match evaluate to multivectors on the same blades. -/
theorem blades_eq :
    otherValue.blades = value.blades := by
  have otherFormed := matching.wellFormed exchanges.layout wellFormed
  refine otherValue.blades_sortedLT.eq_of_mem_iff value.blades_sortedLT fun blade => ?_
  constructor
  · exact fun member =>
      matching.symm.blades_subset exchanges.symm otherFormed otherEvaluated evaluated member
  · exact fun member =>
      matching.blades_subset exchanges wellFormed evaluated otherEvaluated member

end Matches

end Expr
end Versor

end
