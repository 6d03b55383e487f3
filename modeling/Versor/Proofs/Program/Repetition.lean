import Versor.Proofs.Expression.Alike
import Versor.Proofs.Program.Closed
import Versor.Proofs.Program.Sameness

/-!
# Compiling a function again

A function builds like expressions for entities of equal structures, whenever
it is called.  So a program that has been made of a closed function can be
made again at any later time, for any other entities of the same structures
and with or without a check of the bindings, as long as there is as much room
on the stack (`Function.build_again`).
-/

namespace Versor

open Build Correspondence

/-! ## Two runs side by side -/

/-- Workspaces of two runs, the later of which has taken as many numbers since the start. -/
structure Abreast (start shift : Nat) where
  earlier : Workspace
  later : Workspace
  started : start ≤ earlier.free
  shifted : later.free = earlier.free + shift

namespace Abreast

variable {start shift : Nat}

theorem renumber_free
    (runs : Abreast start shift) :
    renumber start shift runs.earlier.free = runs.later.free := by
  rw [renumber, if_neg (Nat.not_lt.2 runs.started), runs.shifted]

/-- Both runs behind a step that takes one number. -/
def next
    (runs : Abreast start shift) :
    Abreast start shift where
  earlier := runs.earlier.advanced
  later := runs.later.advanced
  started := runs.started.trans (Nat.le_succ _)
  shifted := by
    change runs.later.free + 1 = runs.earlier.free + 1 + shift
    rw [runs.shifted, Nat.add_right_comm]

end Abreast

namespace Correspondence

/-- Two runs that build like expressions. -/
def alike (start shift : Nat) : Correspondence where
  World := Abreast start shift
  first := Abreast.earlier
  second := Abreast.later
  Before _ _ := True
  before_refl _ := trivial
  before_trans _ _ := trivial
  Related _ left right := left.Alike (renumber start shift) right
  related_mono _ related := related
  Like left right := left.Agrees right
  like_agrees agrees := agrees
  like related := related.agrees
  Admissible left right := left.Alike right
  admissible_plain alike := by
    cases alike with
    | refl value => rfl
    | number agrees value => exact congrArg (Multivector.constant · value 0) agrees
  admissible_number value agrees := .number agrees value
  constant runs left right alike _ := by
    refine ⟨runs.next, trivial, rfl, rfl, ?_⟩
    rw [← runs.renumber_free]
    exact .constant _ alike
  unary runs operation left right _ related := by
    refine ⟨runs.next, trivial, rfl, rfl, ?_⟩
    rw [← runs.renumber_free]
    exact .unary _ operation related
  binary runs operation left right otherLeft otherRight leftRelated rightRelated _ := by
    refine ⟨runs.next, trivial, rfl, rfl, ?_⟩
    rw [← runs.renumber_free]
    exact .binary _ operation leftRelated rightRelated

end Correspondence

theorem Correspondence.ofBinding_alike
    {start shift : Nat}
    (runs : Abreast start shift)
    (entity : Nat)
    (layout : Layout)
    (base : Literal) :
    (alike start shift).Simulates runs (Expr.ofBinding entity layout base)
      (Expr.ofBinding entity layout base) (alike start shift).Related := by
  rcases ofBinding_cases entity layout base with ⟨error, failed⟩ | ⟨first, built⟩
  · rw [failed]
    exact Simulates.throw _ _
  · rw [built]
    refine ⟨runs.next, trivial, rfl, fun result found => ?_⟩
    cases found
    refine ⟨_, rfl, ?_⟩
    change Expr.Alike _ _ (.bind runs.later.free _)
    rw [← runs.renumber_free]
    exact .bind _ rfl rfl

/-- Expressions that existed before the earlier run are like themselves. -/
theorem Expr.alike_self
    {workspace : Workspace}
    {graph : Set Expr}
    (sound : workspace.Sound graph)
    (shift : Nat)
    {expression : Expr}
    (member : expression ∈ graph) :
    expression.Alike (renumber workspace.free shift) expression := by
  induction expression with
  | bind node binding =>
      have fixed : renumber workspace.free shift node = node :=
        renumber_of_lt shift (sound.below _ member)
      have alike :
          Alike (renumber workspace.free shift) (.bind node binding)
            (.bind (renumber workspace.free shift node) binding) :=
        .bind node rfl rfl
      rwa [fixed] at alike
  | constant node value =>
      have fixed : renumber workspace.free shift node = node :=
        renumber_of_lt shift (sound.below _ member)
      have alike :
          Alike (renumber workspace.free shift) (.constant node value)
            (.constant (renumber workspace.free shift node) value) :=
        .constant node (.refl value)
      rwa [fixed] at alike
  | unary node operation operand inductionHypothesis =>
      have fixed : renumber workspace.free shift node = node :=
        renumber_of_lt shift (sound.below _ member)
      have operandMember := sound.isGraph.operands _ member operand (.head _)
      have alike := Alike.unary node operation (inductionHypothesis operandMember)
      rwa [fixed] at alike
  | binary node operation left right leftHypothesis rightHypothesis =>
      have fixed : renumber workspace.free shift node = node :=
        renumber_of_lt shift (sound.below _ member)
      have leftMember := sound.isGraph.operands _ member left (.head _)
      have rightMember := sound.isGraph.operands _ member right (.tail _ (.head _))
      have alike :=
        Alike.binary node operation (leftHypothesis leftMember) (rightHypothesis rightMember)
      rwa [fixed] at alike

open Correspondence in
/-- Any formula builds like expressions in two runs. -/
theorem Formula.Within.admitted_alike
    {workspace : Workspace}
    {graph : Set Expr}
    (sound : workspace.Sound graph)
    (shift : Nat)
    {formula : Formula}
    (within : formula.Within (.existing graph)) :
    formula.Admitted (alike workspace.free shift) := by
  induction formula with
  | argument place => trivial
  | number value => trivial
  | defined place => trivial
  | given value =>
      intro operand found runs
      have inVocabulary := within operand found
      cases operand with
      | expression value => exact .expression (Expr.alike_self sound shift inVocabulary)
      | element value => exact .element (.refl value)
      | number value => exact .number value
      | other kind reference => exact .other kind reference
  | leaf form =>
      intro runs
      cases form with
      | bind entity layout base => exact ofBinding_alike runs entity layout base
      | blade algebra blade value =>
          exact ofBlade_simulates (fun _ _ _ _ => SpelledMultivector.Alike.refl _) blade value
      | scalar algebra value =>
          have like : (alike workspace.free shift).Like algebra algebra := rfl
          exact ofNumber_simulates like value
      | constant value => exact ofConstant_simulates (.refl value)
  | unary operator operand inductionHypothesis => exact inductionHypothesis within
  | binary operator left right leftHypothesis rightHypothesis =>
      exact ⟨leftHypothesis within.1, rightHypothesis within.2⟩
  | define value body valueHypothesis bodyHypothesis =>
      exact ⟨valueHypothesis within.1, bodyHypothesis within.2⟩

/-! ## Entities of equal structures -/

variable {Number : Type}

/-- Entities with their structures, which are equal when given by numbers. -/
structure PairAlike (left right : Entity Number × Signature) : Prop where
  layout : left.1.layout.plain = right.1.layout.plain
  signature : left.2.plain = right.2.plain

theorem PairAlike.width
    {left right : Entity Number × Signature}
    (alike : PairAlike left right) :
    left.2.width = right.2.width := by
  have same : left.2.plain.width = right.2.plain.width := by rw [alike.signature]
  exact same

theorem pairAlike_zip
    {entities others : List (Entity Number)}
    {signatures otherSignatures : List Signature}
    (signed : Signed entities signatures)
    (otherSigned : Signed others otherSignatures)
    (same : signatures.map Signature.plain = otherSignatures.map Signature.plain) :
    List.Forall₂ PairAlike (entities.zip signatures) (others.zip otherSignatures) := by
  induction signed generalizing others otherSignatures with
  | nil =>
      cases otherSigned with
      | nil => exact .nil
      | cons => cases same
  | @cons entity signature entities signatures first rest inductionHypothesis =>
      cases otherSigned with
      | nil => cases same
      | @cons other otherSignature others otherSignatures otherFirst otherRest =>
          rcases List.cons.inj same with ⟨sameSignature, sameRest⟩
          have sameLayout : signature.layout.plain = otherSignature.layout.plain :=
            congrArg Signature.layout sameSignature
          rw [(of_signature_eq_ok first).1, (of_signature_eq_ok otherFirst).1] at sameLayout
          exact .cons ⟨sameLayout, sameSignature⟩ (inductionHypothesis otherRest sameRest)

theorem inputs_alike
    (base : Nat)
    {pairs others : List (Entity Number × Signature)}
    (alike : List.Forall₂ PairAlike pairs others) :
    (placements base pairs).map (Input.plain ∘ Placement.input) =
      (placements base others).map (Input.plain ∘ Placement.input) := by
  induction alike generalizing base with
  | nil => rfl
  | @cons pair other pairs others first rest inductionHypothesis =>
      have sameWidth := first.width
      simp only [placements, List.map_cons, Function.comp_apply, Input.plain, Placement.input,
        first.signature, sameWidth]
      exact congrArg _ (inductionHypothesis _)

theorem leaves_alike
    {start shift : Nat}
    (runs : Abreast start shift)
    (base : Nat)
    {pairs others : List (Entity Number × Signature)}
    (alike : List.Forall₂ PairAlike pairs others) :
    List.Forall₂ (Expr.Alike (renumber start shift))
      (leavesFrom runs.earlier.free (placements base pairs))
      (leavesFrom runs.later.free (placements base others)) := by
  induction alike generalizing base runs with
  | nil => exact .nil
  | @cons pair other pairs others first rest inductionHypothesis =>
      have sameWidth := first.width
      have leaf :
          Expr.Alike (renumber start shift)
            (.bind runs.earlier.free (Placement.mk pair.1 pair.2 base).binding)
            (.bind (renumber start shift runs.earlier.free)
              (Placement.mk other.1 other.2 base).binding) :=
        .bind _ first.layout rfl
      rw [runs.renumber_free] at leaf
      refine .cons leaf ?_
      rw [sameWidth]
      exact inductionHypothesis runs.next _

theorem Layout.agrees_of_plain_eq
    {left right : Layout}
    (same : left.plain = right.plain) :
    left.algebra.Agrees right.algebra := by
  change left.algebra.plain = right.algebra.plain
  rw [← algebra_plain, ← algebra_plain, same]

/-- Entities whose layouts are equal when given by numbers. -/
abbrev LayoutsAlike
    (entities others : List (Entity Number)) :
    Prop :=
  List.Forall₂ (fun entity other => entity.layout.plain = other.layout.plain) entities others

theorem layoutsAlike_of_signed
    {entities others : List (Entity Number)}
    {signatures otherSignatures : List Signature}
    (signed : Signed entities signatures)
    (otherSigned : Signed others otherSignatures)
    (same : signatures.map Signature.plain = otherSignatures.map Signature.plain) :
    LayoutsAlike entities others := by
  have pairs := pairAlike_zip signed otherSigned same
  have first : (entities.zip signatures).map Prod.fst = entities :=
    List.map_fst_zip signed.length_eq.le
  have second : (others.zip otherSignatures).map Prod.fst = others :=
    List.map_fst_zip otherSigned.length_eq.le
  rw [← first, ← second]
  exact
    List.forall₂_map_left_iff.2
      (List.forall₂_map_right_iff.2 (pairs.imp fun _ _ alike => alike.layout))

namespace LayoutsAlike

variable {entities others : List (Entity Number)} (alike : LayoutsAlike entities others)

include alike

theorem heads :
    Option.Rel Algebra.Agrees (entities.head?.map Entity.algebra)
      (others.head?.map Entity.algebra) := by
  cases alike with
  | nil => exact .none
  | cons first rest => exact .some (Layout.agrees_of_plain_eq first)

theorem algebraOf_agrees :
    (Function.algebraOf entities).Agrees (Function.algebraOf others) := by
  cases alike with
  | nil => rfl
  | cons first rest => exact Layout.agrees_of_plain_eq first

/-- Entities of one algebra remain so under equal structures. -/
theorem agree
    (entitiesAgree :
      ∀ entity ∈ entities, entity.algebra.Agrees (Function.algebraOf entities)) :
    ∀ other ∈ others, other.algebra.Agrees (Function.algebraOf others) := by
  intro other member
  rcases exists_of_mem_forall₂ alike member with ⟨entity, inEntities, same⟩
  have agrees : entity.algebra.Agrees other.algebra := Layout.agrees_of_plain_eq same
  exact agrees.symm.trans ((entitiesAgree entity inEntities).trans alike.algebraOf_agrees)

end LayoutsAlike

/-! ## Building again -/

namespace Function

variable
  {function : Function}
  {graph : Set Expr}
  {earlier later : Workspace}
  {entities others : List (Entity Number)}
  {signatures otherSignatures : List Signature}

/-- Where a function returns an expression it returns a like one later. -/
theorem tree_again
    (sound : earlier.Sound graph)
    (isLater : earlier.free ≤ later.free)
    (within : function.body.Within (.existing graph))
    (signed : Signed entities signatures)
    (otherSigned : Signed others otherSignatures)
    (same : signatures.map Signature.plain = otherSignatures.map Signature.plain)
    {arguments : Arguments}
    {expression : Expr}
    {behind : Workspace}
    (returned :
      outcome (function.tree entities) earlier = (.ok (arguments, expression), behind)) :
    ∃ otherArguments other last,
      outcome (function.tree others) later = (.ok (otherArguments, other), last) ∧
        expression.Alike (renumber earlier.free (later.free - earlier.free)) other := by
  have layouts := layoutsAlike_of_signed signed otherSigned same
  rcases exists_of_outcome_bind returned with ⟨bound, between, binding, rest⟩
  have agree :
      ∀ entity ∈ entities, entity.algebra.Agrees (Function.algebraOf entities) :=
    fun entity member =>
      (((bindAll_spec _ 0 entities earlier).of_outcome binding).2 bound rfl entity member).1
  rw [outcome_bindAll agree signed] at binding
  cases binding
  let shift := later.free - earlier.free
  let start : Abreast earlier.free shift :=
    ⟨earlier, later, le_rfl, (Nat.add_sub_of_le isLater).symm⟩
  let runs : Abreast earlier.free shift :=
    ⟨earlier.advancedBy entities.length, later.advancedBy others.length,
      Nat.le_add_right _ _, by
        change later.free + others.length = earlier.free + entities.length + shift
        rw [start.shifted, layouts.length_eq, Nat.add_right_comm]⟩
  let isResult (_ : Abreast earlier.free shift) (left right : Arguments × Expr) : Prop :=
    left.2.Alike (renumber earlier.free shift) right.2
  have leaves :
      List.Forall₂ ((alike earlier.free shift).Related runs)
        (leavesFrom earlier.free (placements 0 (entities.zip signatures)))
        (leavesFrom later.free (placements 0 (others.zip otherSignatures))) :=
    leaves_alike start 0 (pairAlike_zip signed otherSigned same)
  have instantiated :=
    Formula.instantiate_simulates (within.admitted_alike sound shift) leaves .nil
  have resultBuilt :
      ∀ world left right, (alike earlier.free shift).OperandRelated world left right →
        (alike earlier.free shift).Simulates world
          (resultExpr (entities.head?.map Entity.algebra) left >>= fun expression =>
            pure
              (argumentsOf earlier.free (placements 0 (entities.zip signatures)), expression))
          (resultExpr (others.head?.map Entity.algebra) right >>= fun expression =>
            pure
              (argumentsOf later.free (placements 0 (others.zip otherSignatures)),
                expression))
          isResult := by
    intro world left right related
    apply Simulates.bind (resultExpr_simulates layouts.heads related)
    intro last expression other _ alike
    exact Simulates.pure alike
  have simulated :=
    Simulates.bind instantiated fun world left right _ related =>
      resultBuilt world left right related
  rcases simulated with ⟨last, _, _, follows⟩
  rcases follows (arguments, expression) (congrArg Prod.fst rest) with
    ⟨⟨otherArguments, other⟩, found, alike⟩
  refine ⟨otherArguments, other, last.later, ?_, alike⟩
  rw [tree, outcome_bind, outcome_bindAll (layouts.agree agree) otherSigned]
  exact found

end Function

variable [Arithmetic Number]

/-- A program was made of what an expression evaluates to, for inputs of such structures. -/
def Program.IsMadeOf
    (expression : Expr)
    (inputs : List Input)
    (program : Program Number) :
    Prop :=
  ∃ value,
    expression.evaluate = .ok value ∧
      ∀ identity spelling, ∃ again,
        ofMultivector identity value spelling inputs = .ok again ∧ program.Same again

section Again

variable
  {function : Function}
  {graph larger : Set Expr}
  {earlier later : Workspace}
  {entities others : List (Entity Number)}
  {signatures otherSignatures : List Signature}
  (sound : earlier.Sound graph)
  (laterSound : later.Sound larger)
  (included : graph ⊆ larger)
  (extended : earlier.Extends (later.under earlier.limits))
  (closed : function.IsClosed Number)
  (within : function.body.Within (.existing graph))
  (signed : Signed entities signatures)
  (otherSigned : Signed others otherSignatures)
  (same : signatures.map Signature.plain = otherSignatures.map Signature.plain)
  {validate : Bool}
  {program : Program Number}
  {behind : Workspace}
  (built : outcome (function.build entities validate) earlier = (.ok program, behind))

include sound extended within signed otherSigned same built

/-- Where a function returns an expression later, its program was made of a like one. -/
theorem Function.isMadeOf_of_build
    {arguments : Arguments}
    {expression : Expr}
    {between : Workspace}
    (returned : outcome (function.tree others) later = (.ok (arguments, expression), between)) :
    program.IsMadeOf expression
      ((placements 0 (others.zip otherSignatures)).map Placement.input) := by
  rw [build_eq] at built
  rcases exists_of_outcome_bind built with ⟨⟨first, made⟩, last, firstReturned, finished⟩
  rcases exists_of_outcome_finish finished with ⟨value, reached, reduced, program⟩
  have isLater : earlier.free ≤ later.free := extended.free
  rcases tree_again sound isLater within signed otherSigned same firstReturned with
    ⟨again, other, _, againReturned, alike⟩
  rw [returned] at againReturned
  cases againReturned
  rcases (tree_grows sound within signed).of_outcome firstReturned with ⟨grown, isGrown⟩
  rcases isGrown.built first made rfl with ⟨rfl, member, _⟩
  have isReduced := (Expr.reduceUnchecked_spec member isGrown.sound).of_outcome reduced
  rcases alike.evaluate isReduced.eq_evaluate.symm with ⟨found, evaluated, sameValue⟩
  have sameInputs :
      (argumentsOf earlier.free (placements 0 (entities.zip signatures))).inputs.map Input.plain =
        ((placements 0 (others.zip otherSignatures)).map Placement.input).map Input.plain := by
    simp only [argumentsOf, List.map_map]
    exact inputs_alike 0 (pairAlike_zip signed otherSigned same)
  exact
    ⟨found, evaluated, fun identity spelling =>
      Program.same_of_ofMultivector program sameValue sameInputs⟩

include laterSound included closed

/--
A program made of a closed function can be made again later, for any entities of the same
structures and with or without a check of the bindings, unless there is less room on the
stack then.
-/
theorem Function.build_again
    (identified : Identified others)
    (otherValidate : Bool) :
    (∃ again last,
        outcome (function.build others otherValidate) later = (.ok again, last) ∧
          program.Same again) ∨
      later.limits.stack ≠ earlier.limits.stack ∧
        ∃ last,
          outcome (function.build others otherValidate : Build (Program Number)) later =
            (.error .nestedTooDeeply, last) := by
  have earlierBuilt := built
  rw [build_eq] at earlierBuilt
  rcases exists_of_outcome_bind earlierBuilt with
    ⟨⟨arguments, expression⟩, between, returned, finished⟩
  rcases exists_of_outcome_finish finished with ⟨value, last, reduced, _⟩
  have isLater : earlier.free ≤ later.free := extended.free
  rcases tree_again sound isLater within signed otherSigned same returned with
    ⟨otherArguments, other, otherBetween, otherReturned, alike⟩
  rcases
      isMadeOf_of_build sound extended within signed otherSigned same built otherReturned with
    ⟨otherValue, evaluated, remade⟩
  have laterWithin := within.existing_mono included
  rcases (tree_grows sound within signed).of_outcome returned with ⟨grown, isGrown⟩
  rcases (tree_grows laterSound laterWithin otherSigned).of_outcome otherReturned with
    ⟨otherGrown, otherIsGrown⟩
  rcases isGrown.built arguments expression rfl with ⟨_, member, _⟩
  rcases otherIsGrown.built otherArguments other rfl with ⟨rfl, otherMember, _⟩
  have own := closed.placed laterSound laterWithin otherSigned otherReturned
  have rebuilt :
      outcome (function.build others otherValidate : Build (Program Number)) later =
        outcome
          (other.reduceUnchecked >>= fun value =>
            Program.ofReduced other value
              ((placements 0 (others.zip otherSignatures)).map Placement.input))
          otherBetween := by
    rw [build_eq, outcome_bind, otherReturned]
    dsimp only
    rw [finish_eq function identified otherSigned otherValidate _ own]
  rw [rebuilt, outcome_bind]
  have spec := Expr.reduceUnchecked_spec otherMember otherIsGrown.sound
  rcases otherReduced : outcome other.reduceUnchecked otherBetween with ⟨result, otherLast⟩
  rcases (spec.of_outcome otherReduced).evaluated with right | ⟨rfl, _⟩
  · rw [evaluated] at right
    cases right
    rcases remade otherLast.free (other.spelling otherLast.results) with ⟨again, made, isSame⟩
    refine .inl ⟨again, otherLast.advanced, ?_, isSame⟩
    dsimp only
    rw [Program.outcome_ofReduced, made]
  · refine .inr ⟨fun sameStack => ?_, otherLast, rfl⟩
    -- On the stack of the earlier run there is room for what it found room for.
    have asMuchRoom : otherBetween.limits.stack = between.limits.stack := by
      rw [otherIsGrown.limits, isGrown.limits, sameStack]
    have keptAlike :
        Expr.KeptAlike (renumber earlier.free (later.free - earlier.free)) between
          otherBetween := by
      intro node kept
      rw [Workspace.keeps, isGrown.results] at kept
      have taken := sound.lt_free_of_keeps kept
      rw [renumber_of_lt _ taken, Workspace.keeps, otherIsGrown.results]
      exact extended.kept node kept
    rcases
        alike.reduceUnchecked isGrown.sound otherIsGrown.sound asMuchRoom member otherMember
          keptAlike reduced with
      ⟨_, _, found, _⟩
    rw [otherReduced] at found
    cases found

end Again

end Versor
