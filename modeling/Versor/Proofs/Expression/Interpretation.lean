import Versor.Expression.Reduction
import Versor.Proofs.Multivector.Operations
import Versor.Proofs.Multivector.Proper
import Versor.Proofs.Multivector.Support

/-!
# Interpretation of expressions

`Expr.interpret` gives an expression its meaning in the geometric algebra of
the metric: leaves have the elements they are given, and every node applies
the operation of the algebra.  No multivector is built on the way.

A well-formed expression evaluates to a valid multivector in canonical form
(`exists_evaluate`): no first id is negative, constants bring no ids of their
own, and so the constructor refuses nothing on the way.  The value of that
multivector at any assignment is the interpretation of the expression there
(`valueAt_evaluate`).
-/

noncomputable section

namespace Versor

variable {Coefficient : Type*} [CommRing Coefficient] [Module ℚ Coefficient]

/-! ## Layouts -/

namespace Layout

/-- The blades of a layout belong to its algebra, as the constructor of a generic one requires. -/
def InRange
    (layout : Layout) :
    Prop :=
  ∀ blade ∈ layout.elements, blade < layout.algebra.bladeCount

instance (layout : Layout) : Decidable layout.InRange :=
  inferInstanceAs (Decidable (∀ blade ∈ layout.elements, blade < layout.algebra.bladeCount))

/-- Only the blades of a generic layout have to be looked at. -/
theorem inRange_of_kind
    {layout : Layout}
    (fixed : layout.kind ≠ .generic) :
    layout.InRange := by
  cases layout with
  | generic algebra elements spelling => exact absurd rfl fixed
  | scalar algebra =>
      intro blade member
      rw [List.mem_singleton.1 member]
      exact twoTo_pos _
  | _ => decide

theorem blade_mem_of_mem_mappedTerms
    {elements : List Blade}
    {term : SlotTerm}
    (member : term ∈ mappedTerms elements) :
    term.blade ∈ elements := by
  rcases List.mem_mapIdx.1 member with ⟨slot, inside, rfl⟩
  exact List.getElem_mem inside

theorem blade_mem_elements
    {layout : Layout}
    {term : SlotTerm}
    (member : term ∈ layout.slotTerms) :
    term.blade ∈ layout.elements := by
  cases layout with
  | point | vector | line | rotor | translator =>
      revert term
      decide
  | _ => exact blade_mem_of_mem_mappedTerms member

/-- The element that an entity stands for, given the values of its slots. -/
def valueAt
    (layout : Layout)
    (slots : Nat → Coefficient) :
    Reference.Element Coefficient :=
  (layout.slotTerms.map fun term =>
    Finsupp.single (Blade.vectors term.blade)
      (term.coefficient • (term.slots.map slots).prod)).sum

/-- The blades of a plane ascend, so what is bound for it is in canonical form, too. -/
theorem bindIds_eq_canonicalize
    (layout : Layout)
    (id : Nat → SourceId) :
    layout.bindIds id =
      (Multivector.ofEntries layout.algebra (layout.bindingEntries id)).canonicalize := by
  cases layout with
  | plane =>
      have canonical : IsCanonical (plane.bindingEntries id) := by
        apply isCanonical_of_blades
        · change Layout.plane.elements.Pairwise (· < ·)
          decide
        · simp [bindingEntries, slotTerms, mappedTerms, elements]
        · simp [bindingEntries, slotTerms, mappedTerms, elements]
      exact (Multivector.canonicalize_ofEntries_of_isCanonical plane.algebra canonical).symm
  | _ => rfl

theorem algebra_bindIds
    (layout : Layout)
    (id : Nat → SourceId) :
    (layout.bindIds id).algebra = layout.algebra := by
  cases layout <;> rfl

/-- The bound multivector has the values of the slots at their ids. -/
theorem valueAt_bindIds
    (layout : Layout)
    (id : Nat → SourceId)
    (assignment : SourceId → Coefficient) :
    (layout.bindIds id).valueAt assignment = layout.valueAt (assignment ∘ id) := by
  rw [bindIds_eq_canonicalize, Multivector.valueAt_canonicalize, Multivector.valueAt_ofEntries,
    entriesAt, totalOf, bindingEntries, List.map_map, valueAt]
  refine congrArg List.sum (List.map_congr_left fun term _ => ?_)
  simp [weighAt_apply, Entry.key, productAt]

theorem inRange_bindIds
    {layout : Layout}
    (inRange : layout.InRange)
    (id : Nat → SourceId) :
    (layout.bindIds id).InRange := by
  rw [bindIds_eq_canonicalize]
  apply Multivector.inRange_canonicalize_ofEntries
  intro entry member
  rcases List.mem_map.1 member with ⟨term, inTerms, rfl⟩
  exact inRange term.blade (blade_mem_elements inTerms)

/-- A layout is bound properly at ids that are accepted. -/
theorem isProper_bindIds
    {layout : Layout}
    (inRange : layout.InRange)
    {id : Nat → SourceId}
    (accepted : ∀ slot, 0 ≤ id slot) :
    (layout.bindIds id).IsProper := by
  have bound := inRange_bindIds inRange id
  rw [bindIds_eq_canonicalize] at bound ⊢
  apply Multivector.IsProper.of_canonicalize bound
  rw [Multivector.entries_ofEntries]
  intro entry member source inside
  rcases List.mem_map.1 member with ⟨bound, inBound, rfl⟩
  rcases List.mem_map.1 inBound with ⟨term, _, rfl⟩
  rcases List.mem_map.1 ((sortIds_perm _).subset inside) with ⟨slot, _, rfl⟩
  exact accepted slot

end Layout

theorem FirstId.id_nonneg
    (first : FirstId)
    (slot : Nat) :
    0 ≤ first.id slot := by
  cases first with
  | natural number => exact Nat.cast_nonneg _
  | truth value => exact Nat.cast_nonneg _
  | real number =>
      rw [id]
      split
      · exact le_rfl
      · next notNegative => exact not_lt.1 notNegative

/-! ## Constants -/

/-- The summands of a multivector without indeterminates have no factors. -/
theorem Multivector.factors_eq_nil_of_isConstant
    {element : Multivector}
    (isConstant : element.isConstant = true) :
    ∀ summand ∈ element.summands, summand.factors = [] := by
  intro summand member
  rcases List.mem_map.1 member with ⟨term, _, rfl⟩
  unfold summandOf
  split
  · next monomial found =>
    have width : monomial.width = 0 := by
      have all := Array.all_eq_true'.1 isConstant monomial (Array.mem_of_getElem? found)
      simpa using all
    simp [factorsOf, width]
  · rfl

/-- The entries of a multivector without indeterminates have no ids. -/
theorem Multivector.ids_eq_nil_of_isConstant
    {element : Multivector}
    (isConstant : element.isConstant = true) :
    ∀ entry ∈ element.entries, entry.ids = [] := by
  intro entry member
  rcases List.mem_map.1 member with ⟨summand, inSummands, rfl⟩
  simp [Summand.entry, factors_eq_nil_of_isConstant isConstant summand inSummands, sortIds]

/-- A multivector without indeterminates has a valid canonical form. -/
theorem Multivector.InRange.isValidCanonical_canonicalize
    {element : Multivector}
    (inRange : element.InRange)
    (isConstant : element.isConstant = true) :
    element.canonicalize.IsValidCanonical := by
  refine ⟨valid_iff_isProper.2 ?_, canonicalize_canonicalize element⟩
  apply IsProper.of_canonicalize (inRange_canonicalize inRange.blades)
  intro entry member id inside
  rw [ids_eq_nil_of_isConstant isConstant entry member] at inside
  cases inside

/-- A multivector without indeterminates has one value. -/
theorem Multivector.valueAt_of_isConstant
    {element : Multivector}
    (isConstant : element.isConstant = true)
    (assignment other : SourceId → Coefficient) :
    element.valueAt assignment = element.valueAt other := by
  have noFactors := factors_eq_nil_of_isConstant isConstant
  refine congrArg List.sum (List.map_congr_left fun summand member => ?_)
  simp [Summand.elementAt, Summand.valueAt, noFactors summand member]

/-- The entries of an exact multivector are shown as they were given. -/
theorem SpelledMultivector.entries_of_isExact
    {element : SpelledMultivector}
    (isExact : element.isExact = true) :
    element.entries = .ok (element.value.spelledEntries element.spelling) := by
  have exactSpelling : element.spelling.isExact = true := isExact
  simp [SpelledMultivector.entries, Multivector.givenEntries, exactSpelling]

/-- The canonical form of an exact multivector has the canonical form of its value. -/
theorem SpelledMultivector.canonicalize_of_isExact
    {element : SpelledMultivector}
    (isExact : element.isExact = true) :
    element.canonicalize.map SpelledMultivector.value =
      .ok element.value.canonicalize := by
  rw [canonicalize, entries_of_isExact isExact]
  simp [bind, Except.bind, isExact, pure, Except.pure, Except.map, merged]

/-- The work at an exact constant is to merge its value. -/
theorem Work.run_constant
    {value : SpelledMultivector}
    (isExact : value.isExact = true) :
    (Work.constant value).run = value.value.canonicalize.construct := by
  have canonicalized := SpelledMultivector.canonicalize_of_isExact isExact
  rw [run]
  cases found : value.canonicalize with
  | error error =>
      rw [found] at canonicalized
      cases canonicalized
  | ok canonical =>
      rw [found] at canonicalized
      exact congrArg Multivector.construct (Except.ok.inj canonicalized)

namespace Expr

/--
Expressions as the constructors make them: the blades of entities and of
constants belong to their algebras, constants have no indeterminates and no
doubles for signs or counts, and operands have one algebra.
-/
def WellFormed : Expr → Prop
  | .bind _ binding => binding.layout.InRange
  | .constant _ value =>
      value.value.InRange ∧ value.value.isConstant = true ∧ value.isExact = true
  | .unary _ _ operand => operand.WellFormed
  | .binary _ _ left right =>
      left.WellFormed ∧ right.WellFormed ∧ left.algebra.Agrees right.algebra

/--
The meaning of an expression in the geometric algebra of a metric, given what
bound entities stand for.
-/
def interpret
    (metric : Metric)
    (leaf : Binding → Reference.Element Coefficient) :
    Expr → Reference.Element Coefficient
  | .bind _ binding => leaf binding
  | .constant _ value => value.value.valueAt 0
  | .unary _ operation operand =>
      Reference.unary metric operation (operand.interpret metric leaf)
  | .binary _ operation left right =>
      Reference.binary metric operation (left.interpret metric leaf)
        (right.interpret metric leaf)

end Expr

/-- What a bound entity stands for when its slots have the values assigned to their ids. -/
def Binding.valueAt
    (assignment : SourceId → Coefficient)
    (binding : Binding) :
    Reference.Element Coefficient :=
  binding.layout.valueAt (assignment ∘ binding.first.id)

namespace Expr

/-- What a multivector is that an expression evaluates to. -/
structure Denotes
    (expression : Expr)
    (value : Multivector) :
    Prop where
  isValidCanonical : value.IsValidCanonical
  algebra : value.algebra = expression.algebra

namespace Denotes

variable {expression : Expr} {value : Multivector}

theorem isProper
    (denotes : expression.Denotes value) :
    value.IsProper :=
  Multivector.valid_iff_isProper.1 denotes.isValidCanonical.valid

theorem inRange
    (denotes : expression.Denotes value) :
    value.InRange :=
  denotes.isProper.inRange

theorem canonical
    (denotes : expression.Denotes value) :
    IsCanonical value.entries := by
  rw [← denotes.isValidCanonical.canonical]
  exact Multivector.isCanonical_canonicalize value

end Denotes

theorem evaluate_constant
    {node : Nat}
    {value : SpelledMultivector}
    (isExact : value.isExact = true)
    (valid : value.value.canonicalize.Valid) :
    (constant node value).evaluate = .ok value.value.canonicalize :=
  (Work.run_constant isExact).trans valid

/-- A well-formed expression evaluates to a valid canonical multivector of its algebra. -/
theorem exists_evaluate
    {expression : Expr}
    (wellFormed : expression.WellFormed) :
    ∃ value, expression.evaluate = .ok value ∧ expression.Denotes value := by
  induction expression with
  | bind node binding =>
      have bound := Layout.isProper_bindIds wellFormed binding.first.id_nonneg
      exact
        ⟨_, bound.canonicalize.construct,
          bound.isValidCanonical_canonicalize, binding.layout.algebra_bindIds _⟩
  | constant node value =>
      rcases wellFormed with ⟨inRange, isConstant, isExact⟩
      have isValidCanonical := inRange.isValidCanonical_canonicalize isConstant
      exact ⟨_, evaluate_constant isExact isValidCanonical.valid, isValidCanonical, rfl⟩
  | unary node operation operand inductionHypothesis =>
      rcases inductionHypothesis wellFormed with ⟨value, evaluated, denotes⟩
      refine
        ⟨operation.apply value, ?_, operation.isValidCanonical_apply denotes.isProper,
          (operation.algebra_apply value).trans denotes.algebra⟩
      rw [evaluate, evaluated]
      exact operation.perform_eq_ok denotes.isProper
  | binary node operation left right leftHypothesis rightHypothesis =>
      rcases wellFormed with ⟨leftFormed, rightFormed, agrees⟩
      rcases leftHypothesis leftFormed with ⟨first, leftEvaluated, leftDenotes⟩
      rcases rightHypothesis rightFormed with ⟨second, rightEvaluated, rightDenotes⟩
      have valuesAgree : first.algebra.Agrees second.algebra := by
        rw [leftDenotes.algebra, rightDenotes.algebra]
        exact agrees
      refine
        ⟨operation.apply first second, ?_,
          operation.isValidCanonical_apply leftDenotes.isProper rightDenotes.isProper valuesAgree,
          (operation.algebra_apply first second).trans leftDenotes.algebra⟩
      rw [evaluate, leftEvaluated, rightEvaluated]
      exact operation.perform_of_agrees leftDenotes.isProper rightDenotes.isProper valuesAgree

theorem denotes_of_evaluate
    {expression : Expr}
    (wellFormed : expression.WellFormed)
    {value : Multivector}
    (evaluated : expression.evaluate = .ok value) :
    expression.Denotes value := by
  rcases exists_evaluate wellFormed with ⟨found, foundEvaluated, denotes⟩
  rw [evaluated] at foundEvaluated
  cases foundEvaluated
  exact denotes

theorem evaluate_bind
    {node : Nat}
    {binding : Binding}
    (inRange : binding.layout.InRange) :
    (bind node binding).evaluate = .ok binding.value.canonicalize :=
  (Layout.isProper_bindIds inRange binding.first.id_nonneg).canonicalize.construct

/-- A well-formed constant evaluates to the canonical form of its value. -/
theorem evaluate_constant_of_wellFormed
    {node : Nat}
    {value : SpelledMultivector}
    (wellFormed : (constant node value).WellFormed) :
    (constant node value).evaluate = .ok value.value.canonicalize :=
  evaluate_constant wellFormed.2.2
    (wellFormed.1.isValidCanonical_canonicalize wellFormed.2.1).valid

theorem evaluate_unary_eq_ok
    {node : Nat}
    {operation : UnaryOperation}
    {operand : Expr}
    (wellFormed : operand.WellFormed)
    {value : Multivector} :
    (unary node operation operand).evaluate = .ok value ↔
      ∃ inner, operand.evaluate = .ok inner ∧ operation.apply inner = value := by
  rcases exists_evaluate wellFormed with ⟨inner, evaluated, denotes⟩
  have performed := operation.perform_eq_ok denotes.isProper
  simp [evaluate, evaluated, Work.run, performed, Bind.bind, Except.bind]

theorem evaluate_binary_eq_ok
    {node : Nat}
    {operation : BinaryOperation}
    {left right : Expr}
    (leftFormed : left.WellFormed)
    (rightFormed : right.WellFormed)
    {value : Multivector} :
    (binary node operation left right).evaluate = .ok value ↔
      ∃ first second, left.evaluate = .ok first ∧ right.evaluate = .ok second ∧
        first.algebra.Agrees second.algebra ∧ operation.apply first second = value := by
  rcases exists_evaluate leftFormed with ⟨first, leftEvaluated, leftDenotes⟩
  rcases exists_evaluate rightFormed with ⟨second, rightEvaluated, rightDenotes⟩
  have performed := operation.perform_eq_combine leftDenotes.isProper rightDenotes.isProper
  rw [evaluate, leftEvaluated, rightEvaluated]
  change operation.perform first second = .ok value ↔ _
  rw [performed, Multivector.combine]
  constructor
  · intro combined
    split at combined
    · next agrees => exact ⟨first, second, rfl, rfl, agrees, Except.ok.inj combined⟩
    · cases combined
  · rintro ⟨_, _, ⟨⟩, ⟨⟩, agrees, rfl⟩
    exact if_pos agrees

/-- The value of what an expression evaluates to is the meaning of the expression. -/
theorem valueAt_evaluate
    {expression : Expr}
    (wellFormed : expression.WellFormed)
    {value : Multivector}
    (evaluated : expression.evaluate = .ok value)
    {algebra : Algebra}
    (agrees : expression.algebra.Agrees algebra)
    (assignment : SourceId → Coefficient) :
    value.valueAt assignment =
      expression.interpret algebra.metric (Binding.valueAt assignment) := by
  induction expression generalizing value with
  | bind node binding =>
      rw [evaluate_bind wellFormed] at evaluated
      cases evaluated
      rw [Multivector.valueAt_canonicalize]
      exact Layout.valueAt_bindIds _ _ _
  | constant node constant =>
      have isConstant : constant.value.isConstant = true := wellFormed.2.1
      rw [evaluate_constant_of_wellFormed wellFormed] at evaluated
      cases evaluated
      rw [Multivector.valueAt_canonicalize]
      exact Multivector.valueAt_of_isConstant isConstant _ _
  | unary node operation operand inductionHypothesis =>
      have operandFormed : operand.WellFormed := wellFormed
      rcases (evaluate_unary_eq_ok operandFormed).1 evaluated with ⟨inner, innerEvaluated, rfl⟩
      have denotes := denotes_of_evaluate operandFormed innerEvaluated
      rw [operation.valueAt_apply assignment denotes.inRange, denotes.algebra,
        inductionHypothesis operandFormed innerEvaluated agrees]
      exact Reference.unary_of_plain_eq (congrArg Algebra.metric agrees) operation _
  | binary node operation left right leftHypothesis rightHypothesis =>
      rcases wellFormed with ⟨leftFormed, rightFormed, operandsAgree⟩
      rcases (evaluate_binary_eq_ok leftFormed rightFormed).1 evaluated with
        ⟨first, second, leftEvaluated, rightEvaluated, valuesAgree, rfl⟩
      have leftDenotes := denotes_of_evaluate leftFormed leftEvaluated
      have rightDenotes := denotes_of_evaluate rightFormed rightEvaluated
      have rightAgrees : right.algebra.Agrees algebra := operandsAgree.symm.trans agrees
      rw [operation.valueAt_apply assignment leftDenotes.inRange rightDenotes.inRange
          valuesAgree,
        leftDenotes.algebra, leftHypothesis leftFormed leftEvaluated agrees,
        rightHypothesis rightFormed rightEvaluated rightAgrees]
      exact Reference.binary_of_plain_eq (congrArg Algebra.metric agrees) operation _ _

end Expr
end Versor

end
