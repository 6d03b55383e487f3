import Versor.Proofs.Expression.Growth
import Versor.Proofs.Expression.Leaves
import Versor.Proofs.Multivector.Validity

/-!
# What formulas refer to

A vocabulary says which entities a formula may bind itself, over which
algebras it may build constants, and which constants and expressions it may
have captured.  A formula within a vocabulary only builds expressions with a
property that persists, if its own leaves and captured expressions have it
(`Formula.Within.admitted_growth`).
-/

namespace Versor

/-- What a formula may refer to besides its arguments. -/
structure Vocabulary where
  layout : Layout → Prop
  algebra : Algebra → Prop
  constant : SpelledMultivector → Prop
  expression : Expr → Prop

namespace Vocabulary

/-- What two vocabularies have in common. -/
def both
    (first second : Vocabulary) :
    Vocabulary where
  layout layout := first.layout layout ∧ second.layout layout
  algebra algebra := first.algebra algebra ∧ second.algebra algebra
  constant value := first.constant value ∧ second.constant value
  expression value := first.expression value ∧ second.expression value

/-- Anything may be referred to, but only expressions that exist may have been captured. -/
def existing
    (graph : Set Expr) :
    Vocabulary where
  layout _ := True
  algebra _ := True
  constant _ := True
  expression value := value ∈ graph

/-- No entities are referred to. -/
def constants : Vocabulary where
  layout _ := False
  algebra _ := True
  constant _ := True
  expression value := value.AllLeaves fun _ => False

end Vocabulary

/-- Leaves of a vocabulary. -/
def LeafForm.Within
    (vocabulary : Vocabulary) :
    LeafForm → Prop
  | .bind _ layout _ => vocabulary.layout layout
  | .blade algebra _ _ | .scalar algebra _ => vocabulary.algebra algebra
  | .constant value => vocabulary.constant value

/-- Captured operands of a vocabulary. -/
def Operand.Within
    (vocabulary : Vocabulary) :
    Operand → Prop
  | .expression value => vocabulary.expression value
  | .element value => vocabulary.constant value
  | .number _ | .other _ _ => True

namespace Formula

/-- Formulas over their arguments and a vocabulary. -/
def Within
    (vocabulary : Vocabulary) :
    Formula → Prop
  | .argument _ | .number _ | .defined _ => True
  | .given value => ∀ operand, value = .ok operand → operand.Within vocabulary
  | .leaf form => form.Within vocabulary
  | .unary _ operand => operand.Within vocabulary
  | .binary _ left right => left.Within vocabulary ∧ right.Within vocabulary
  | .define value body => value.Within vocabulary ∧ body.Within vocabulary

/-- A formula within a vocabulary is within a larger one. -/
theorem Within.mono
    {smaller larger : Vocabulary}
    (layouts : ∀ layout, smaller.layout layout → larger.layout layout)
    (algebras : ∀ algebra, smaller.algebra algebra → larger.algebra algebra)
    (constants : ∀ value, smaller.constant value → larger.constant value)
    (expressions : ∀ value, smaller.expression value → larger.expression value)
    {formula : Formula}
    (within : formula.Within smaller) :
    formula.Within larger := by
  induction formula with
  | argument place => trivial
  | number value => trivial
  | defined place => trivial
  | given value =>
      intro operand found
      have inSmaller := within operand found
      cases operand with
      | expression value => exact expressions value inSmaller
      | element value => exact constants value inSmaller
      | number value => trivial
      | other kind reference => trivial
  | leaf form =>
      cases form with
      | bind entity layout base => exact layouts layout within
      | blade algebra blade value => exact algebras algebra within
      | scalar algebra value => exact algebras algebra within
      | constant value => exact constants value within
  | unary operator operand inductionHypothesis => exact inductionHypothesis within
  | binary operator left right leftHypothesis rightHypothesis =>
      exact ⟨leftHypothesis within.1, rightHypothesis within.2⟩
  | define value body valueHypothesis bodyHypothesis =>
      exact ⟨valueHypothesis within.1, bodyHypothesis within.2⟩

/-- A formula within two vocabularies is within what they have in common. -/
theorem Within.both
    {first second : Vocabulary}
    {formula : Formula}
    (within : formula.Within first)
    (alsoWithin : formula.Within second) :
    formula.Within (first.both second) := by
  induction formula with
  | argument place => trivial
  | number value => trivial
  | defined place => trivial
  | given value =>
      intro operand found
      have inFirst := within operand found
      have inSecond := alsoWithin operand found
      cases operand with
      | expression value => exact ⟨inFirst, inSecond⟩
      | element value => exact ⟨inFirst, inSecond⟩
      | number value => trivial
      | other kind reference => trivial
  | leaf form => cases form <;> exact ⟨within, alsoWithin⟩
  | unary operator operand inductionHypothesis =>
      exact inductionHypothesis within alsoWithin
  | binary operator left right leftHypothesis rightHypothesis =>
      exact ⟨leftHypothesis within.1 alsoWithin.1, rightHypothesis within.2 alsoWithin.2⟩
  | define value body valueHypothesis bodyHypothesis =>
      exact ⟨valueHypothesis within.1 alsoWithin.1, bodyHypothesis within.2 alsoWithin.2⟩

/-- Expressions that a formula may have captured remain so where there are more of them. -/
theorem Within.existing_mono
    {graph larger : Set Expr}
    (included : graph ⊆ larger)
    {formula : Formula}
    (within : formula.Within (.existing graph)) :
    formula.Within (.existing larger) := by
  have captured :
      ∀ value, (Vocabulary.existing graph).expression value →
        (Vocabulary.existing larger).expression value :=
    fun _ member => included member
  refine within.mono ?_ ?_ ?_ captured <;> exact fun _ _ => trivial

end Formula

namespace Correspondence

/-- A multiple of a blade is built if multiples of all blades are admissible. -/
theorem ofBlade_simulates
    {relation : Correspondence}
    {world : relation.World}
    {algebra : Algebra}
    (admissible :
      ∀ target < algebra.bladeCount, ∀ value spelling,
        relation.Admissible ⟨.constant algebra value target, { blades := spelling }⟩
          ⟨.constant algebra value target, { blades := spelling }⟩)
    (blade value : Literal) :
    relation.Simulates world (Expr.ofBlade algebra blade value)
      (Expr.ofBlade algebra blade value) relation.Related := by
  let isTarget (_ : relation.World) (left right : Blade) : Prop :=
    left = right ∧ left < algebra.bladeCount
  have checked :
      relation.Simulates world (Build.ofExcept (algebra.checkBlade blade))
        (Build.ofExcept (algebra.checkBlade blade)) isTarget :=
    Simulates.ofExcept fun target found =>
      ⟨target, found, rfl, Algebra.lt_bladeCount_of_checkBlade found⟩
  unfold Expr.ofBlade
  apply Simulates.bind checked
  rintro later target _ _ ⟨rfl, inside⟩
  apply Simulates.bind (Simulates.ofExcept_self _)
  rintro last number _ _ rfl
  exact ofConstant_simulates (admissible target inside number _)

variable
  {known : Set Expr}
  {holds : Expr → Prop}
  {occurs : Algebra → Prop}
  {admitted : SpelledMultivector → Prop}
  {persistent : Expr.Persistent holds occurs admitted}
  {stage : Stage known}

/-- A leaf for an entity is built at a first id, or its first id is refused. -/
theorem ofBinding_cases
    (entity : Nat)
    (layout : Layout)
    (base : Literal) :
    (∃ error, Expr.ofBinding entity layout base = MonadExcept.throw error) ∨
      ∃ first,
        Expr.ofBinding entity layout base =
          (Build.fresh >>= fun node =>
            Pure.pure (Expr.bind node ⟨entity, layout, first⟩)) := by
  unfold Expr.ofBinding
  by_cases negative : (base.rational?).any (· < 0) = true
  · simp only [negative, if_true]
    exact .inl ⟨_, rfl⟩
  · simp only [negative]
    cases FirstId.ofLiteral? base with
    | none => exact .inl ⟨_, rfl⟩
    | some first =>
        by_cases refused : (layout.countsSlots && !first.isWhole) = true
        · simp only [refused, if_true]
          exact .inl ⟨_, rfl⟩
        · simp only [refused]
          exact .inr ⟨first, rfl⟩

theorem ofBinding_grows
    {layout : Layout}
    (holding : ∀ node entity first, holds (.bind node ⟨entity, layout, first⟩))
    (entity : Nat)
    (base : Literal) :
    (growth known persistent).Simulates stage (Expr.ofBinding entity layout base)
      (Expr.ofBinding entity layout base) (growth known persistent).Related := by
  rcases ofBinding_cases entity layout base with ⟨error, failed⟩ | ⟨first, built⟩
  · rw [failed]
    exact Simulates.throw _ _
  · rw [built]
    let node : Expr := .bind stage.workspace.free ⟨entity, layout, first⟩
    let behind := stage.add node rfl (by simp [node, Expr.operands])
    refine ⟨behind, stage.before_add rfl _, rfl, fun result found => ?_⟩
    cases found
    exact ⟨node, rfl, rfl, Set.mem_insert _ _, holding _ _ _⟩

end Correspondence

open Correspondence in
/-- Formulas within a vocabulary build expressions with a property that persists. -/
theorem Formula.Within.admitted_growth
    {vocabulary : Vocabulary}
    {known : Set Expr}
    {holds : Expr → Prop}
    {admitted : SpelledMultivector → Prop}
    {persistent : Expr.Persistent holds vocabulary.algebra admitted}
    (bound :
      ∀ layout, vocabulary.layout layout →
        ∀ node entity first, holds (.bind node ⟨entity, layout, first⟩))
    (constants : ∀ value, vocabulary.constant value → admitted value)
    (captured : ∀ value, vocabulary.expression value → value ∈ known ∧ holds value)
    {formula : Formula}
    (within : formula.Within vocabulary) :
    formula.Admitted (growth known persistent) := by
  induction formula with
  | argument place => trivial
  | number value => trivial
  | defined place => trivial
  | given value =>
      intro operand found stage
      have inVocabulary := within operand found
      cases operand with
      | expression value =>
          rcases captured value inVocabulary with ⟨isKnown, holding⟩
          exact .expression ⟨rfl, stage.includes isKnown, holding⟩
      | element value => exact .element ⟨rfl, constants value inVocabulary⟩
      | number value => exact .number value
      | other kind reference => exact .other kind reference
  | leaf form =>
      intro stage
      cases form with
      | bind entity layout base => exact ofBinding_grows (bound layout within) entity base
      | blade algebra blade value =>
          have admissible :
              ∀ target < algebra.bladeCount, ∀ value spelling,
                (growth known persistent).Admissible
                  ⟨.constant algebra value target, { blades := spelling }⟩
                  ⟨.constant algebra value target, { blades := spelling }⟩ :=
            fun target inside value spelling =>
              ⟨rfl, persistent.multiple algebra value target spelling within inside⟩
          exact ofBlade_simulates admissible blade value
      | scalar algebra value =>
          have like : (growth known persistent).Like algebra algebra := ⟨rfl, within⟩
          exact ofNumber_simulates like value
      | constant value =>
          have admissible : (growth known persistent).Admissible value value :=
            ⟨rfl, constants value within⟩
          exact ofConstant_simulates admissible
  | unary operator operand inductionHypothesis => exact inductionHypothesis within
  | binary operator left right leftHypothesis rightHypothesis =>
      exact ⟨leftHypothesis within.1, rightHypothesis within.2⟩
  | define value body valueHypothesis bodyHypothesis =>
      exact ⟨valueHypothesis within.1, bodyHypothesis within.2⟩

end Versor
