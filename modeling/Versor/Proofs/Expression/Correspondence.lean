import Mathlib
import Versor.Program
import Versor.Proofs.Expression.Build

/-!
# Correspondences between two runs of building

What a formula builds depends on its arguments and on the numbers that are
free, and in a regular way: arguments that correspond lead to results that
correspond.  A `Correspondence` names a relation between expressions of two
workspaces, which has to be closed under building a node and a constant; it
may grow from one world, a pair of workspaces, to the next one.

`instantiate_simulates` is the one induction over formulas.  Facts about a
single run are the case of two equal runs.
-/

namespace Versor

/-- The workspace behind a step that takes one number. -/
def Workspace.advanced
    (workspace : Workspace) :
    Workspace :=
  { workspace with free := workspace.free + 1 }

theorem Algebra.Agrees.dimension_eq
    {left right : Algebra}
    (agrees : left.Agrees right) :
    left.dimension = right.dimension := by
  have same : left.plain = right.plain := agrees
  have plain : left.plain.dimension = right.plain.dimension := by rw [same]
  exact plain

/-- The operation can be built over an algebra: a part is taken of a grade that occurs there. -/
def UnaryOperation.IsFor
    (algebra : Algebra) :
    UnaryOperation → Prop
  | .grade index => 0 ≤ index ∧ index ≤ (algebra.dimension : Rat)
  | _ => True

/-- A relation between the expressions of two workspaces that building keeps. -/
structure Correspondence where
  World : Type
  first : World → Workspace
  second : World → Workspace
  Before : World → World → Prop
  before_refl : ∀ world, Before world world
  before_trans :
    ∀ {world between behind}, Before world between → Before between behind →
      Before world behind
  Related : World → Expr → Expr → Prop
  related_mono :
    ∀ {world behind left right}, Before world behind → Related world left right →
      Related behind left right
  /-- The algebras of expressions that correspond. -/
  Like : Algebra → Algebra → Prop
  like_agrees : ∀ {left right : Algebra}, Like left right → left.Agrees right
  like : ∀ {world left right}, Related world left right → Like left.algebra right.algebra
  /-- The multivectors of which constants are built. -/
  Admissible : SpelledMultivector → SpelledMultivector → Prop
  admissible_plain :
    ∀ {left right}, Admissible left right → left.value.plain = right.value.plain
  /-- Numbers become constants of the algebra of the expressions they meet. -/
  admissible_number :
    ∀ {left right : Algebra} (value : Rat), Like left right →
      Admissible (.ofValue (.constant left value 0)) (.ofValue (.constant right value 0))
  constant :
    ∀ world {left right}, Admissible left right → left.value.isConstant = true →
      ∃ behind, Before world behind ∧
        first behind = (first world).advanced ∧
        second behind = (second world).advanced ∧
        Related behind
          (.constant (first world).free left)
          (.constant (second world).free right)
  /-- A node is built over an operand, if its operation is one for the algebra there. -/
  unary :
    ∀ world operation {left right}, operation.IsFor left.algebra → Related world left right →
      ∃ behind, Before world behind ∧
        first behind = (first world).advanced ∧
        second behind = (second world).advanced ∧
        Related behind
          (.unary (first world).free operation left)
          (.unary (second world).free operation right)
  /-- A node is built over two operands of one algebra. -/
  binary :
    ∀ world operation {left right otherLeft otherRight},
      Related world left otherLeft → Related world right otherRight →
      left.algebra.Agrees right.algebra →
      ∃ behind, Before world behind ∧
        first behind = (first world).advanced ∧
        second behind = (second world).advanced ∧
        Related behind
          (.binary (first world).free operation left right)
          (.binary (second world).free operation otherLeft otherRight)

namespace Correspondence

open Build

variable {relation : Correspondence} {Result Other Next OtherNext : Type}

/--
The second step follows the first one: where the first one succeeds, so does
the second, with a corresponding result.  Wherever the first one leads, there
is a world.
-/
def Simulates
    (relation : Correspondence)
    (world : relation.World)
    (step : Build Result)
    (other : Build Other)
    (related : relation.World → Result → Other → Prop) :
    Prop :=
  ∃ behind, relation.Before world behind ∧
    relation.first behind = (outcome step (relation.first world)).2 ∧
    ∀ result, (outcome step (relation.first world)).1 = .ok result →
      ∃ otherResult,
        outcome other (relation.second world) =
            (.ok otherResult, relation.second behind) ∧
          related behind result otherResult

namespace Simulates

variable {world : relation.World}

theorem pure
    {related : relation.World → Result → Other → Prop}
    {result : Result}
    {other : Other}
    (holds : related world result other) :
    relation.Simulates world (Pure.pure result) (Pure.pure other) related := by
  refine ⟨world, relation.before_refl world, rfl, fun found equal => ⟨other, rfl, ?_⟩⟩
  cases equal
  exact holds

/-- A step that fails is followed by any other. -/
theorem throw
    {related : relation.World → Result → Other → Prop}
    (error : Error)
    (other : Build Other) :
    relation.Simulates world (MonadExcept.throw error : Build Result) other related := by
  refine ⟨world, relation.before_refl world, rfl, fun found equal => ?_⟩
  cases equal

theorem ofExcept
    {related : relation.World → Result → Other → Prop}
    {result : Except Error Result}
    {other : Except Error Other}
    (follows : ∀ value, result = .ok value → ∃ otherValue, other = .ok otherValue ∧
      related world value otherValue) :
    relation.Simulates world (Build.ofExcept result) (Build.ofExcept other) related := by
  refine ⟨world, relation.before_refl world, rfl, fun value equal => ?_⟩
  rcases follows value equal with ⟨otherValue, found, holds⟩
  exact ⟨otherValue, by rw [outcome_ofExcept, found], holds⟩

theorem ofExcept_self
    (result : Except Error Result) :
    relation.Simulates world (Build.ofExcept result) (Build.ofExcept result)
      fun _ left right => left = right :=
  ofExcept fun value found => ⟨value, found, rfl⟩

theorem mono
    {step : Build Result}
    {other : Build Other}
    {related weaker : relation.World → Result → Other → Prop}
    (simulates : relation.Simulates world step other related)
    (weakens :
      ∀ behind left right, relation.Before world behind →
        related behind left right → weaker behind left right) :
    relation.Simulates world step other weaker := by
  rcases simulates with ⟨behind, before, reached, follows⟩
  refine ⟨behind, before, reached, fun result found => ?_⟩
  rcases follows result found with ⟨otherResult, otherFound, holds⟩
  exact ⟨otherResult, otherFound, weakens _ _ _ before holds⟩

theorem bind
    {step : Build Result}
    {other : Build Other}
    {next : Result → Build Next}
    {otherNext : Other → Build OtherNext}
    {between : relation.World → Result → Other → Prop}
    {related : relation.World → Next → OtherNext → Prop}
    (steps : relation.Simulates world step other between)
    (nexts :
      ∀ later left right, relation.Before world later → between later left right →
        relation.Simulates later (next left) (otherNext right) related) :
    relation.Simulates world (step >>= next) (other >>= otherNext) related := by
  rcases steps with ⟨later, before, reached, follows⟩
  unfold Simulates
  rw [outcome_bind]
  generalize outcome step (relation.first world) = outcomes at reached follows ⊢
  rcases outcomes with ⟨result, workspace⟩
  cases result with
  | error error =>
      exact ⟨later, before, reached, fun found equal => by cases equal⟩
  | ok result =>
      rcases follows result rfl with ⟨otherResult, otherFound, holds⟩
      rcases nexts later result otherResult before holds with
        ⟨behind, laterBefore, nextReached, nextFollows⟩
      cases reached
      refine ⟨behind, relation.before_trans before laterBefore, nextReached, ?_⟩
      intro final found
      rcases nextFollows final found with ⟨otherFinal, finalFound, finalHolds⟩
      refine ⟨otherFinal, ?_, finalHolds⟩
      rw [outcome_bind, otherFound]
      exact finalFound

end Simulates

/-! ## Nodes and constants -/

variable (relation) (world : relation.World)

/-- Operands of one kind that correspond. -/
inductive OperandRelated : Operand → Operand → Prop
  | expression
    {left right : Expr}
    (related : relation.Related world left right) :
    OperandRelated (.expression left) (.expression right)
  | number (value : Literal) : OperandRelated (.number value) (.number value)
  | element
    {value : SpelledMultivector}
    (admissible : relation.Admissible value value) :
    OperandRelated (.element value) (.element value)
  | other (kind : String) (reference : Nat) :
    OperandRelated (.other kind reference) (.other kind reference)

variable {relation} {world}

theorem OperandRelated.mono
    {behind : relation.World}
    {left right : Operand}
    (before : relation.Before world behind)
    (related : relation.OperandRelated world left right) :
    relation.OperandRelated behind left right := by
  cases related with
  | expression related => exact .expression (relation.related_mono before related)
  | number value => exact .number value
  | element admissible => exact .element admissible
  | other kind reference => exact .other kind reference

theorem withUnary_simulates
    {operation : UnaryOperation}
    {left right : Expr}
    (isFor : operation.IsFor left.algebra)
    (related : relation.Related world left right) :
    relation.Simulates world (left.withUnary operation) (right.withUnary operation)
      relation.Related := by
  rcases relation.unary world operation isFor related with
    ⟨behind, before, firstReached, secondReached, holds⟩
  refine ⟨behind, before, firstReached, fun result found => ?_⟩
  cases found
  exact ⟨_, congrArg (Prod.mk _) secondReached.symm, holds⟩

theorem withBinary_simulates
    (operation : BinaryOperation)
    {left right otherLeft otherRight : Expr}
    (leftRelated : relation.Related world left otherLeft)
    (rightRelated : relation.Related world right otherRight) :
    relation.Simulates world (left.withBinary operation right)
      (otherLeft.withBinary operation otherRight) relation.Related := by
  by_cases agrees : left.algebra.Agrees right.algebra
  · have otherAgrees : otherLeft.algebra.Agrees otherRight.algebra :=
      (relation.like_agrees (relation.like leftRelated)).symm.trans
        (agrees.trans (relation.like_agrees (relation.like rightRelated)))
    rcases relation.binary world operation leftRelated rightRelated agrees with
      ⟨behind, before, firstReached, secondReached, holds⟩
    have step :
        left.withBinary operation right =
          (Build.fresh >>= fun node =>
            Pure.pure (Expr.binary node operation left right)) :=
      if_pos agrees
    have other :
        otherLeft.withBinary operation otherRight =
          (Build.fresh >>= fun node =>
            Pure.pure (Expr.binary node operation otherLeft otherRight)) :=
      if_pos otherAgrees
    rw [step, other]
    refine ⟨behind, before, firstReached, fun result found => ?_⟩
    cases found
    exact ⟨_, congrArg (Prod.mk _) secondReached.symm, holds⟩
  · have step :
        left.withBinary operation right =
          MonadExcept.throw
            (.expressionsOverAlgebras left.algebra.metric right.algebra.metric) :=
      if_neg agrees
    rw [step]
    exact Simulates.throw _ _

/-- A constant is built of a multivector without indeterminates, whatever its algebra. -/
theorem ofConstant_simulates
    {left right : SpelledMultivector}
    (admissible : relation.Admissible left right) :
    relation.Simulates world (Expr.ofConstant left) (Expr.ofConstant right)
      relation.Related := by
  have sameConstant : left.value.plain.isConstant = right.value.plain.isConstant := by
    rw [relation.admissible_plain admissible]
  unfold Expr.ofConstant
  by_cases isConstant : left.value.isConstant = true
  · rw [if_pos isConstant, if_pos (sameConstant ▸ isConstant)]
    rcases relation.constant world admissible isConstant with
      ⟨behind, before, firstReached, secondReached, holds⟩
    refine ⟨behind, before, firstReached, fun result found => ?_⟩
    cases found
    exact ⟨_, congrArg (Prod.mk _) secondReached.symm, holds⟩
  · rw [if_neg isConstant]
    exact Simulates.throw _ _

theorem ofNumber_simulates
    {left right : Algebra}
    (like : relation.Like left right)
    (value : Literal) :
    relation.Simulates world (Expr.ofNumber left value) (Expr.ofNumber right value)
      relation.Related := by
  unfold Expr.ofNumber
  apply Simulates.bind (Simulates.ofExcept_self _)
  rintro later number _ _ rfl
  exact ofConstant_simulates (relation.admissible_number number like)

theorem scaledBy_simulates
    {left right : Expr}
    (related : relation.Related world left right)
    (factor : Literal) :
    relation.Simulates world (left.scaledBy factor) (right.scaledBy factor)
      relation.Related := by
  unfold Expr.scaledBy
  apply Simulates.bind (Simulates.ofExcept_self _)
  rintro later number _ before rfl
  exact withUnary_simulates trivial (relation.related_mono before related)

theorem dividedBy_simulates
    {left right : Expr}
    (related : relation.Related world left right)
    (divisor : Literal) :
    relation.Simulates world (left.dividedBy divisor) (right.dividedBy divisor)
      relation.Related := by
  unfold Expr.dividedBy
  apply Simulates.bind (Simulates.ofExcept_self _)
  rintro later number _ before rfl
  by_cases zero : number = 0
  · rw [if_pos zero]
    exact Simulates.throw _ _
  · rw [if_neg zero, if_neg zero]
    exact withUnary_simulates trivial (relation.related_mono before related)

theorem gradePart_simulates
    {left right : Expr}
    (related : relation.Related world left right)
    (grade : Literal) :
    relation.Simulates world (left.gradePart grade) (right.gradePart grade)
      relation.Related := by
  have sameDimension := (relation.like_agrees (relation.like related)).dimension_eq
  unfold Expr.gradePart
  by_cases numeric : (!grade.isNumeric) = true
  · rw [if_pos numeric]
    exact Simulates.throw _ _
  · rw [if_neg numeric, if_neg numeric]
    cases grade.rational? with
    | none => exact Simulates.throw _ _
    | some number =>
        dsimp only
        rw [← sameDimension]
        split
        · next isInside => exact withUnary_simulates isInside related
        · exact Simulates.throw _ _

/-! ## Operators -/

theorem applyTo_simulates
    (operator : UnaryOperator)
    {left right : Expr}
    (related : relation.Related world left right) :
    relation.Simulates world (operator.applyTo left) (operator.applyTo right)
      relation.Related := by
  cases operator with
  | plus => exact Simulates.pure related
  | grade grade => exact gradePart_simulates related grade
  | _ => exact withUnary_simulates trivial related

theorem applyToBoth_simulates
    (operator : BinaryOperator)
    {left right otherLeft otherRight : Expr}
    (leftRelated : relation.Related world left otherLeft)
    (rightRelated : relation.Related world right otherRight) :
    relation.Simulates world (operator.applyTo left right)
      (operator.applyTo otherLeft otherRight) relation.Related := by
  unfold BinaryOperator.applyTo
  cases operator.operation? with
  | none => exact Simulates.throw _ _
  | some operation => exact withBinary_simulates operation leftRelated rightRelated

theorem applyToNumber_simulates
    (operator : BinaryOperator)
    {left right : Expr}
    (related : relation.Related world left right)
    (number : Literal) :
    relation.Simulates world (operator.applyToNumber left number)
      (operator.applyToNumber right number) relation.Related := by
  cases operator with
  | multiply => exact scaledBy_simulates related number
  | divide => exact dividedBy_simulates related number
  | _ =>
      apply Simulates.bind (ofNumber_simulates (relation.like related) number)
      intro later constant other before constants
      exact applyToBoth_simulates _ (relation.related_mono before related) constants

theorem applyFromNumber_simulates
    (operator : BinaryOperator)
    {left right : Expr}
    (related : relation.Related world left right)
    (number : Literal) :
    relation.Simulates world (operator.applyFromNumber number left)
      (operator.applyFromNumber number right) relation.Related := by
  cases operator with
  | multiply => exact scaledBy_simulates related number
  | divide | scalarProduct => exact Simulates.throw _ _
  | _ =>
      apply Simulates.bind (ofNumber_simulates (relation.like related) number)
      intro later constant other before constants
      exact applyToBoth_simulates _ constants (relation.related_mono before related)

/-- What is built is an expression again. -/
theorem expression_simulates
    {step other : Build Expr}
    (simulates : relation.Simulates world step other relation.Related) :
    relation.Simulates world
      (step >>= fun built => Pure.pure (Operand.expression built))
      (other >>= fun built => Pure.pure (Operand.expression built))
      relation.OperandRelated :=
  Simulates.bind simulates fun _ _ _ _ related => Simulates.pure (.expression related)

/-- What numbers are combined to is a number again. -/
theorem number_simulates
    (result : Except Error Literal) :
    relation.Simulates world
      (Build.ofExcept result >>= fun number => Pure.pure (Operand.number number))
      (Build.ofExcept result >>= fun number => Pure.pure (Operand.number number))
      relation.OperandRelated := by
  apply Simulates.bind (Simulates.ofExcept_self result)
  rintro later number _ _ rfl
  exact Simulates.pure (.number number)

theorem unaryOperand_simulates
    (operator : UnaryOperator)
    {left right : Operand}
    (related : relation.OperandRelated world left right) :
    relation.Simulates world (Formula.unaryOperand operator left)
      (Formula.unaryOperand operator right) relation.OperandRelated := by
  cases related with
  | expression related => exact expression_simulates (applyTo_simulates operator related)
  | number value => exact number_simulates _
  | element value => exact Simulates.throw _ _
  | other kind reference => exact Simulates.throw _ _

theorem binaryOperand_simulates
    (operator : BinaryOperator)
    {left right otherLeft otherRight : Operand}
    (leftRelated : relation.OperandRelated world left otherLeft)
    (rightRelated : relation.OperandRelated world right otherRight) :
    relation.Simulates world (Formula.binaryOperand operator left right)
      (Formula.binaryOperand operator otherLeft otherRight) relation.OperandRelated := by
  cases leftRelated with
  | expression left =>
      cases rightRelated with
      | expression right => exact expression_simulates (applyToBoth_simulates operator left right)
      | number value => exact expression_simulates (applyToNumber_simulates operator left value)
      | element value => exact Simulates.throw _ _
      | other kind reference => exact Simulates.throw _ _
  | number value =>
      cases rightRelated with
      | expression right =>
          exact expression_simulates (applyFromNumber_simulates operator right value)
      | number other => exact number_simulates _
      | element value => exact Simulates.throw _ _
      | other kind reference => exact Simulates.throw _ _
  | element value => cases rightRelated <;> exact Simulates.throw _ _
  | other kind reference => cases rightRelated <;> exact Simulates.throw _ _

/-! ## Formulas -/

theorem memberAt_eq_ok
    {Member : Type}
    {members : List Member}
    {place : Int}
    {member : Member} :
    memberAt members place = .ok member ↔
      ∃ position,
        placeAmong members.length place = .ok position ∧
          members[position]? = some member := by
  unfold memberAt
  cases placeAmong members.length place with
  | error error => simp [Bind.bind, Except.bind]
  | ok position => cases found : members[position]? <;> simp [Bind.bind, Except.bind, found]

theorem memberAt_simulates
    {Left Right : Type}
    {related : relation.World → Left → Right → Prop}
    {lefts : List Left}
    {rights : List Right}
    (members : List.Forall₂ (related world) lefts rights)
    (place : Int) :
    relation.Simulates world (Build.ofExcept (memberAt lefts place))
      (Build.ofExcept (memberAt rights place)) related := by
  apply Simulates.ofExcept
  intro value found
  rcases memberAt_eq_ok.1 found with ⟨position, reached, member⟩
  rcases List.getElem?_eq_some_iff.1 member with ⟨inside, rfl⟩
  have otherInside : position < rights.length := members.length_eq ▸ inside
  refine ⟨rights[position], memberAt_eq_ok.2 ⟨position, ?_, ?_⟩, ?_⟩
  · rw [← members.length_eq]
    exact reached
  · exact List.getElem?_eq_getElem otherInside
  · exact members.get inside otherInside

end Correspondence

namespace Formula

open Correspondence

/-- Formulas whose own leaves and references correspond to themselves. -/
def Admitted
    (relation : Correspondence) :
    Formula → Prop
  | .argument _ | .number _ | .defined _ => True
  | .given value =>
      ∀ operand, value = .ok operand →
        ∀ world, relation.OperandRelated world operand operand
  | .leaf form => ∀ world, relation.Simulates world form.build form.build relation.Related
  | .unary _ operand => operand.Admitted relation
  | .binary _ left right => left.Admitted relation ∧ right.Admitted relation
  | .define value body => value.Admitted relation ∧ body.Admitted relation

/-- A formula builds corresponding results out of corresponding arguments and definitions. -/
theorem instantiate_simulates
    {relation : Correspondence}
    {formula : Formula}
    (admitted : formula.Admitted relation)
    {world : relation.World}
    {arguments others : List Expr}
    (argumentsRelated : List.Forall₂ (relation.Related world) arguments others)
    {definitions otherDefinitions : List Operand}
    (definitionsRelated :
      List.Forall₂ (relation.OperandRelated world) definitions otherDefinitions) :
    relation.Simulates world (instantiate arguments definitions formula)
      (instantiate others otherDefinitions formula) relation.OperandRelated := by
  induction formula generalizing world definitions otherDefinitions with
  | argument place => exact expression_simulates (memberAt_simulates argumentsRelated place)
  | number value => exact Simulates.pure (.number value)
  | given value =>
      exact Simulates.ofExcept fun operand found =>
        ⟨operand, found, admitted operand found world⟩
  | leaf form => exact expression_simulates (admitted world)
  | unary operator operand inductionHypothesis =>
      refine
        Simulates.bind (inductionHypothesis admitted argumentsRelated definitionsRelated) ?_
      intro later left right _ related
      exact unaryOperand_simulates operator related
  | binary operator left right leftHypothesis rightHypothesis =>
      refine
        Simulates.bind (leftHypothesis admitted.1 argumentsRelated definitionsRelated) ?_
      intro later first otherFirst before firstRelated
      refine
        Simulates.bind
          (rightHypothesis admitted.2
            (argumentsRelated.imp fun _ _ => relation.related_mono before)
            (definitionsRelated.imp fun _ _ => OperandRelated.mono before)) ?_
      intro last second otherSecond lastBefore secondRelated
      exact binaryOperand_simulates operator (firstRelated.mono lastBefore) secondRelated
  | define value body valueHypothesis bodyHypothesis =>
      refine
        Simulates.bind (valueHypothesis admitted.1 argumentsRelated definitionsRelated) ?_
      intro later defined other before related
      refine
        bodyHypothesis admitted.2
          (argumentsRelated.imp fun _ _ => relation.related_mono before) ?_
      exact
        List.rel_append (definitionsRelated.imp fun _ _ => OperandRelated.mono before)
          (.cons related .nil)
  | defined place => exact memberAt_simulates definitionsRelated place

end Formula

/-- Corresponding results of functions stand for corresponding expressions. -/
theorem Function.resultExpr_simulates
    {relation : Correspondence}
    {world : relation.World}
    {left right : Option Algebra}
    (like : Option.Rel relation.Like left right)
    {operand other : Operand}
    (related : relation.OperandRelated world operand other) :
    relation.Simulates world (Function.resultExpr left operand)
      (Function.resultExpr right other) relation.Related := by
  cases related with
  | expression related => exact Correspondence.Simulates.pure related
  | element admissible => exact Correspondence.ofConstant_simulates admissible
  | number value =>
      cases like with
      | none => exact Correspondence.Simulates.throw _ _
      | some like => exact Correspondence.ofNumber_simulates like value
  | other kind reference => cases like <;> exact Correspondence.Simulates.throw _ _

end Versor
