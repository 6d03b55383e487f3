import Versor.Expression.Formula
import Versor.Proofs.Expression.Correspondence
import Versor.Proofs.Expression.Interpretation
import Versor.Proofs.Expression.Leaves
import Versor.Proofs.Expression.Memo

/-!
# What formulas are instantiated to

A formula of arguments, products and reversions has a meaning in the geometric
algebra once its arguments have one (`Formula.meaning`).  Instantiating it at
expressions that stand for the arguments gives an expression which stands for
the meaning (`Formula.exists_instantiate`).
-/

noncomputable section

namespace Versor

open Build

variable {Coefficient : Type} [CommRing Coefficient] [Module ℚ Coefficient]

/-- The meaning of an expression does not depend on how the metric was given. -/
theorem Expr.interpret_of_plain_eq
    {metric other : Metric}
    (same : metric.plain = other.plain)
    (leaf : Binding → Reference.Element Coefficient)
    (expression : Expr) :
    expression.interpret metric leaf = expression.interpret other leaf := by
  induction expression with
  | bind | constant => rfl
  | unary node operation operand inductionHypothesis =>
      rw [interpret, interpret, inductionHypothesis]
      exact Reference.unary_of_plain_eq same operation _
  | binary node operation left right leftHypothesis rightHypothesis =>
      rw [interpret, interpret, leftHypothesis, rightHypothesis]
      exact Reference.binary_of_plain_eq same operation _ _

/-! ## Expressions that stand for elements -/

/--
A well-formed expression of an algebra over given bindings, with few
operations inside one another, that stands for an element at every index.
-/
structure Expr.Stands
    (algebra : Algebra)
    (leaf : List Nat → Binding → Reference.Element Coefficient)
    (own : Binding → Prop)
    (height : Nat)
    (value : List Nat → Reference.Element Coefficient)
    (expression : Expr) :
    Prop where
  wellFormed : expression.WellFormed
  agrees : expression.algebra.Agrees algebra
  leaves : expression.AllLeaves own
  low : ∀ kept, expression.heightAbove kept ≤ height
  interpret : ∀ index, expression.interpret algebra.metric (leaf index) = value index

namespace Expr.Stands

variable
  {algebra : Algebra}
  {leaf : List Nat → Binding → Reference.Element Coefficient}
  {own : Binding → Prop}
  {height other : Nat}
  {value first second : List Nat → Reference.Element Coefficient}
  {expression left right : Expr}

theorem bind
    {binding : Binding}
    (inRange : binding.layout.InRange)
    (agrees : binding.layout.algebra.Agrees algebra)
    (isOwn : own binding)
    (node : Nat) :
    (Expr.bind node binding).Stands algebra leaf own 0 fun index => leaf index binding where
  wellFormed := inRange
  agrees := agrees
  leaves := isOwn
  low _ := le_rfl
  interpret _ := rfl

theorem unary
    (stands : expression.Stands algebra leaf own height value)
    (node : Nat)
    (operation : UnaryOperation) :
    (Expr.unary node operation expression).Stands algebra leaf own (height + 1) fun index =>
      Reference.unary algebra.metric operation (value index) where
  wellFormed := stands.wellFormed
  agrees := stands.agrees
  leaves := stands.leaves
  low kept := by
    rw [heightAbove]
    split
    · exact Nat.zero_le _
    · exact Nat.succ_le_succ (stands.low kept)
  interpret index := by rw [Expr.interpret, stands.interpret]

theorem binary
    (leftStands : left.Stands algebra leaf own height first)
    (rightStands : right.Stands algebra leaf own other second)
    (node : Nat)
    (operation : BinaryOperation) :
    (Expr.binary node operation left right).Stands algebra leaf own (max height other + 1)
      fun index => Reference.binary algebra.metric operation (first index) (second index) where
  wellFormed :=
    ⟨leftStands.wellFormed, rightStands.wellFormed, leftStands.agrees.trans rightStands.agrees.symm⟩
  agrees := leftStands.agrees
  leaves := ⟨leftStands.leaves, rightStands.leaves⟩
  low kept := by
    rw [heightAbove]
    split
    · exact Nat.zero_le _
    · exact Nat.succ_le_succ (max_le_max (leftStands.low kept) (rightStands.low kept))
  interpret index := by rw [Expr.interpret, leftStands.interpret, rightStands.interpret]

end Expr.Stands

theorem Expr.outcome_withBinary
    {left right : Expr}
    (agree : left.algebra.Agrees right.algebra)
    (operation : BinaryOperation)
    (workspace : Workspace) :
    outcome (left.withBinary operation right) workspace =
      (.ok (.binary workspace.free operation left right), workspace.advanced) := by
  rw [withBinary, if_pos agree]
  rfl

/-! ## Formulas with a meaning -/

namespace Formula

/-- Formulas of arguments, products and reversions, of at most a number of arguments. -/
def IsOver
    (count : Nat) :
    Formula → Prop
  | .argument place => 0 ≤ place ∧ place < (count : Int)
  | .unary .reverse operand => operand.IsOver count
  | .binary operator left right =>
      operator.operation?.isSome = true ∧ left.IsOver count ∧ right.IsOver count
  | _ => False

/-- Operations inside one another. -/
def height : Formula → Nat
  | .unary _ operand => operand.height + 1
  | .binary _ left right => max left.height right.height + 1
  | _ => 0

/-- The meaning of a formula of arguments, products and reversions. -/
def meaning
    (metric : Metric)
    (values : List (Reference.Element Coefficient)) :
    Formula → Reference.Element Coefficient
  | .argument place => (values[place.toNat]?).getD 0
  | .unary .reverse operand => Reference.unary metric .reverse (operand.meaning metric values)
  | .binary operator left right =>
      match operator.operation? with
      | some operation =>
          Reference.binary metric operation (left.meaning metric values)
            (right.meaning metric values)
      | none => 0
  | _ => 0

theorem memberAt_of_lt
    {Member : Type}
    {members : List Member}
    {place : Int}
    (isPlace : 0 ≤ place ∧ place < (members.length : Int)) :
    ∃ member, memberAt members place = .ok member ∧ members[place.toNat]? = some member := by
  have inside : place.toNat < members.length := by omega
  refine ⟨members[place.toNat], ?_, List.getElem?_eq_getElem inside⟩
  simp [memberAt, placeAmong, isPlace, inside, Bind.bind, Except.bind]

variable
  {algebra : Algebra}
  {leaf : List Nat → Binding → Reference.Element Coefficient}
  {own : Binding → Prop}
  {arguments : List Expr}
  {values : List Nat → List (Reference.Element Coefficient)}

/-- What a formula is instantiated to stands for its meaning. -/
theorem exists_instantiate
    (stand :
      ∀ (place : Nat) (argument : Expr), arguments[place]? = some argument →
        argument.Stands algebra leaf own 0 fun index => ((values index)[place]?).getD 0)
    {formula : Formula}
    (isOver : formula.IsOver arguments.length)
    (definitions : List Operand)
    (workspace : Workspace) :
    ∃ expression behind,
      outcome (formula.instantiate arguments definitions) workspace =
          (.ok (.expression expression), behind) ∧
        expression.Stands algebra leaf own formula.height fun index =>
          formula.meaning algebra.metric (values index) := by
  induction formula generalizing workspace with
  | argument place =>
      rcases memberAt_of_lt isOver with ⟨argument, found, member⟩
      refine ⟨argument, workspace, ?_, stand _ _ member⟩
      rw [instantiate, outcome_bind, outcome_ofExcept, found]
      rfl
  | unary operator operand inductionHypothesis =>
      cases operator with
      | reverse =>
          rcases inductionHypothesis isOver workspace with ⟨inner, between, built, stands⟩
          refine
            ⟨.unary between.free .reverse inner, between.advanced, ?_, stands.unary _ .reverse⟩
          rw [instantiate, outcome_bind, built]
          rfl
      | _ => exact absurd isOver id
  | binary operator left right leftHypothesis rightHypothesis =>
      rcases isOver with ⟨isOperation, leftOver, rightOver⟩
      rcases Option.isSome_iff_exists.1 isOperation with ⟨operation, isOf⟩
      rcases leftHypothesis leftOver workspace with ⟨first, between, leftBuilt, leftStands⟩
      rcases rightHypothesis rightOver between with ⟨second, behind, rightBuilt, rightStands⟩
      have agree : first.algebra.Agrees second.algebra :=
        leftStands.agrees.trans rightStands.agrees.symm
      have stands := leftStands.binary rightStands behind.free operation
      refine ⟨.binary behind.free operation first second, behind.advanced, ?_, ?_⟩
      · rw [instantiate, outcome_bind, leftBuilt]
        dsimp only
        rw [outcome_bind, rightBuilt]
        dsimp only [binaryOperand]
        rw [outcome_bind, BinaryOperator.applyTo, isOf]
        dsimp only
        rw [Expr.outcome_withBinary agree]
        rfl
      · simpa only [meaning, isOf, height] using stands
  | number | given | leaf | define | defined => exact absurd isOver id

end Formula

end Versor

end
