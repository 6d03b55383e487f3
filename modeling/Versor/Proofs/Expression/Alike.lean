import Versor.Proofs.Expression.Interpretation
import Versor.Proofs.Expression.Vocabulary

/-!
# Expressions that are built alike

The same formula builds like expressions at different times: nodes have other
numbers, and entities and algebras may have been given in other ways, but
layouts, first ids and constants are the same.  Nodes that existed before the
earlier run keep their numbers, and all others are shifted by one distance.
Like expressions evaluate to the same multivectors (`Alike.evaluate`), and
where the earlier one is reduced, the later one is reduced too
(`Alike.reduceNode`).
-/

namespace Versor

/-- The numbers of nodes in a later run: those taken before the earlier one are unchanged. -/
def renumber
    (start shift node : Nat) :
    Nat :=
  if node < start then node else node + shift

theorem renumber_of_lt
    {start node : Nat}
    (shift : Nat)
    (before : node < start) :
    renumber start shift node = node :=
  if_pos before

/-- Constants that were built alike: the same ones, or one number in one algebra. -/
inductive SpelledMultivector.Alike : SpelledMultivector → SpelledMultivector → Prop
  | refl (value : SpelledMultivector) : Alike value value
  | number
    {left right : Algebra}
    (agrees : left.Agrees right)
    (value : Rat) :
    Alike (.ofValue (.constant left value 0)) (.ofValue (.constant right value 0))

/-- Expressions that were built alike, with other numbers for the nodes. -/
inductive Expr.Alike (change : Nat → Nat) : Expr → Expr → Prop
  | bind
    (node : Nat)
    {left right : Binding}
    (layout : left.layout.plain = right.layout.plain)
    (first : left.first = right.first) :
    Alike change (.bind node left) (.bind (change node) right)
  | constant
    (node : Nat)
    {left right : SpelledMultivector}
    (alike : left.Alike right) :
    Alike change (.constant node left) (.constant (change node) right)
  | unary
    (node : Nat)
    (operation : UnaryOperation)
    {left right : Expr}
    (alike : Alike change left right) :
    Alike change (.unary node operation left) (.unary (change node) operation right)
  | binary
    (node : Nat)
    (operation : BinaryOperation)
    {left right otherLeft otherRight : Expr}
    (leftAlike : Alike change left otherLeft)
    (rightAlike : Alike change right otherRight) :
    Alike change (.binary node operation left right)
      (.binary (change node) operation otherLeft otherRight)

/-! ## Algebras given in different ways -/

theorem Layout.algebra_plain
    (layout : Layout) :
    layout.plain.algebra = layout.algebra.plain := by
  cases layout <;> rfl

theorem Layout.plain_bindIds
    (layout : Layout)
    (id : Nat → SourceId) :
    (layout.bindIds id).plain = (layout.plain.bindIds id).plain := by
  cases layout <;> rfl

namespace Multivector

/-- Steps that do the same to plain multivectors do so one after the other. -/
theorem bind_plain
    {computation other : Except Error Multivector}
    {next otherNext : Multivector → Except Error Multivector}
    (same : other = computation.map plain)
    (sameNext : ∀ value, otherNext value.plain = (next value).map plain) :
    other >>= otherNext = (computation >>= next).map plain := by
  cases computation with
  | error error =>
      rw [same]
      rfl
  | ok value =>
      rw [same]
      exact sameNext value

/-- The constructor only asks an algebra for the number of its blades. -/
theorem construct_plain
    (element : Multivector) :
    element.plain.construct = element.construct.map plain := by
  have terms :
      Draft.checkTerm element.plain.algebra = Draft.checkTerm element.algebra :=
    rfl
  have draft : element.plain.draft = element.draft := rfl
  unfold construct Draft.validate
  rw [draft, terms]
  cases Draft.checkAll (fun _ => Draft.checkIndeterminate) 0 element.draft.indeterminates with
  | error error => rfl
  | ok indeterminates =>
      cases
        Draft.checkAll (Draft.checkMonomial element.draft.indeterminates.length) 0
          element.draft.monomials with
      | error error => rfl
      | ok monomials =>
          cases
            Draft.checkAll (Draft.checkTerm element.algebra element.draft.monomials.length) 0
              element.draft.terms with
          | error error => rfl
          | ok terms => rfl

theorem merge_plain
    (element : Multivector) :
    element.plain.merge = element.merge.map plain :=
  bind_plain element.construct_plain fun value => value.canonicalize.construct_plain

/-- Operands that only differ in how their algebra was given come to such results. -/
theorem exists_of_map_plain_eq
    {computation other : Except Error Multivector}
    (same : computation.map plain = other.map plain)
    {value : Multivector}
    (found : computation = .ok value) :
    ∃ result, other = .ok result ∧ value.plain = result.plain := by
  rw [found] at same
  cases other with
  | error error => cases same
  | ok result => exact ⟨result, rfl, Except.ok.inj same⟩

end Multivector

theorem UnaryOperation.perform_plain
    (operation : UnaryOperation)
    (operand : Multivector) :
    operation.perform operand.plain = (operation.perform operand).map Multivector.plain := by
  have raw : operation.raw operand.plain = (operation.raw operand).plain := by
    cases operation <;> rfl
  rw [perform, raw, Multivector.merge_plain]
  rfl

theorem BinaryOperation.performSteps_plain
    (operation : BinaryOperation)
    (left right : Multivector) :
    operation.performSteps left.plain right.plain =
      (operation.performSteps left right).map Multivector.plain := by
  cases operation with
  | sum => exact (left.concatenate right).merge_plain
  | difference =>
      exact
        Multivector.bind_plain (UnaryOperation.negate.perform_plain right) fun negated =>
          (left.concatenate negated).merge_plain
  | geometric => exact (Multivector.rawProduct .geometric left right).merge_plain
  | exterior => exact (Multivector.rawProduct .exterior left right).merge_plain
  | leftContraction => exact (Multivector.rawProduct .leftContraction left right).merge_plain
  | scalarProduct => exact (Multivector.rawProduct .scalar left right).merge_plain
  | regressive =>
      apply Multivector.bind_plain (UnaryOperation.dual.perform_plain left)
      intro first
      apply Multivector.bind_plain (UnaryOperation.dual.perform_plain right)
      intro second
      exact
        Multivector.bind_plain (Multivector.rawProduct .exterior first second).merge_plain
          UnaryOperation.undual.perform_plain

/-- An operation comes to the same on operands that differ in how their algebras were given. -/
theorem UnaryOperation.exists_perform
    (operation : UnaryOperation)
    {operand other value : Multivector}
    (same : operand.plain = other.plain)
    (performed : operation.perform operand = .ok value) :
    ∃ result, operation.perform other = .ok result ∧ value.plain = result.plain := by
  refine Multivector.exists_of_map_plain_eq ?_ performed
  rw [← operation.perform_plain, ← operation.perform_plain, same]

theorem BinaryOperation.exists_perform
    (operation : BinaryOperation)
    {left right leftOther rightOther value : Multivector}
    (sameLeft : left.plain = leftOther.plain)
    (sameRight : right.plain = rightOther.plain)
    (performed : operation.perform left right = .ok value) :
    ∃ result, operation.perform leftOther rightOther = .ok result ∧
      value.plain = result.plain := by
  unfold perform at performed
  split at performed
  · next agrees =>
    have othersAgree : leftOther.algebra.Agrees rightOther.algebra := by
      show leftOther.plain.algebra = rightOther.plain.algebra
      rw [← sameLeft, ← sameRight]
      exact agrees
    rw [perform, if_pos othersAgree]
    refine Multivector.exists_of_map_plain_eq ?_ performed
    rw [← operation.performSteps_plain, ← operation.performSteps_plain, sameLeft, sameRight]
  · cases performed

/-- Bindings of like layouts at one id stand for multivectors over algebras that agree. -/
theorem Binding.plain_value
    {left right : Binding}
    (layout : left.layout.plain = right.layout.plain)
    (first : left.first = right.first) :
    left.value.plain = right.value.plain := by
  rw [Binding.value, Binding.value, Layout.plain_bindIds, layout, first, ← Layout.plain_bindIds]

/-! ## Work that is alike -/

/-- Work for which the stack needs the same room, and with results that are alike. -/
structure Work.Alike
    (work other : Work) :
    Prop where
  plain_eq : work.plain = other.plain
  exists_run :
    ∀ value, work.run = .ok value → ∃ result, other.run = .ok result ∧ value.plain = result.plain

theorem Binding.alike_work
    {left right : Binding}
    (layout : left.layout.plain = right.layout.plain)
    (first : left.first = right.first) :
    (Work.bound left.value).Alike (.bound right.value) := by
  have same := plain_value layout first
  refine ⟨congrArg Work.bound same, fun value ran => ?_⟩
  refine Multivector.exists_of_map_plain_eq ?_ ran
  rw [Work.run, Work.run, ← Multivector.construct_plain, ← Multivector.construct_plain]
  exact congrArg (fun value => value.canonicalize.construct) same

theorem SpelledMultivector.Alike.work
    {left right : SpelledMultivector}
    (alike : left.Alike right) :
    (Work.constant left).Alike (.constant right) := by
  cases alike with
  | refl => exact ⟨rfl, fun value ran => ⟨value, ran, rfl⟩⟩
  | @number left right agrees number =>
      constructor
      · exact congrArg (fun algebra => Work.constant (.ofValue (.constant algebra number 0))) agrees
      · intro value ran
        refine Multivector.exists_of_map_plain_eq ?_ ran
        rw [Work.run_constant rfl, Work.run_constant rfl, ← Multivector.construct_plain,
          ← Multivector.construct_plain]
        exact
          congrArg
            (fun algebra => (Multivector.constant algebra number 0).canonicalize.construct) agrees

theorem UnaryOperation.alike_work
    (operation : UnaryOperation)
    {operand other : Multivector}
    (same : operand.plain = other.plain) :
    (Work.unary operation operand).Alike (.unary operation other) :=
  ⟨congrArg (Work.unary operation) same, fun _ => operation.exists_perform same⟩

theorem BinaryOperation.alike_work
    (operation : BinaryOperation)
    {left right leftOther rightOther : Multivector}
    (sameLeft : left.plain = leftOther.plain)
    (sameRight : right.plain = rightOther.plain) :
    (Work.binary operation left right).Alike (.binary operation leftOther rightOther) :=
  ⟨congrArg₂ (Work.binary operation) sameLeft sameRight,
    fun _ => operation.exists_perform sameLeft sameRight⟩

namespace Expr

variable {change : Nat → Nat} {left right : Expr}

theorem Alike.node
    (alike : left.Alike change right) :
    right.node = change left.node := by
  cases alike <;> rfl

theorem Alike.agrees
    (alike : left.Alike change right) :
    left.algebra.Agrees right.algebra := by
  induction alike with
  | bind node layout first =>
      show Algebra.plain _ = Algebra.plain _
      rw [algebra, algebra, ← Layout.algebra_plain, ← Layout.algebra_plain, layout]
  | constant node alike =>
      cases alike with
      | refl value => rfl
      | number agrees value => exact agrees
  | unary node operation alike inductionHypothesis => exact inductionHypothesis
  | binary node operation leftAlike rightAlike leftHypothesis rightHypothesis =>
      exact leftHypothesis

/-! ## Evaluation -/

/-- Like expressions evaluate to the same multivectors. -/
theorem Alike.evaluate
    (alike : left.Alike change right)
    {value : Multivector}
    (evaluated : left.evaluate = .ok value) :
    ∃ other, right.evaluate = .ok other ∧ value.plain = other.plain := by
  induction alike generalizing value with
  | bind node layout first => exact (Binding.alike_work layout first).exists_run value evaluated
  | constant node alike => exact alike.work.exists_run value evaluated
  | unary node operation alike inductionHypothesis =>
      rcases exists_of_bind_eq_ok evaluated with ⟨inner, innerEvaluated, performed⟩
      rcases inductionHypothesis innerEvaluated with ⟨other, otherEvaluated, same⟩
      rw [Expr.evaluate, otherEvaluated]
      exact (operation.alike_work same).exists_run value performed
  | binary node operation leftAlike rightAlike leftHypothesis rightHypothesis =>
      rcases exists_of_bind_eq_ok evaluated with ⟨first, firstEvaluated, rest⟩
      rcases exists_of_bind_eq_ok rest with ⟨second, secondEvaluated, performed⟩
      rcases leftHypothesis firstEvaluated with ⟨other, otherEvaluated, same⟩
      rcases rightHypothesis secondEvaluated with ⟨last, lastEvaluated, sameLast⟩
      rw [Expr.evaluate, otherEvaluated, lastEvaluated]
      exact (operation.alike_work same sameLast).exists_run value performed

/-! ## Reduction -/

open Build

/-- Results kept in one workspace are kept in another one, under other numbers. -/
def KeptAlike
    (change : Nat → Nat)
    (first second : Workspace) :
    Prop :=
  ∀ node, first.keeps node = true → second.keeps (change node) = true

variable {first second : Workspace}

theorem KeptAlike.withResult
    (keptAlike : KeptAlike change first second)
    {node : Nat}
    (kept : second.keeps (change node) = true)
    (result : Multivector) :
    KeptAlike change (first.withResult node result) second := by
  intro other isKept
  rcases Workspace.keeps_of_keeps_withResult isKept with rfl | before
  · exact kept
  · exact keptAlike other before

theorem KeptAlike.withResults
    (keptAlike : KeptAlike change first second)
    (node : Nat)
    (result other : Multivector) :
    KeptAlike change (first.withResult node result)
      (second.withResult (change node) other) := by
  exact
    KeptAlike.withResult
      (fun _ kept => Workspace.keeps_withResult_of_keeps (keptAlike _ kept) _ _)
      (second.keeps_withResult _ _) result

/-- What a later reduction comes to where an earlier one of a like expression succeeded. -/
def FollowsAlike
    (change : Nat → Nat)
    (stack : Stack)
    (room : Nat)
    (right : Expr)
    (second behind : Workspace) :
    Prop :=
  ∃ value later, outcome (right.reduceNode stack room) second = (.ok value, later) ∧
    KeptAlike change behind later

section Follows

variable {stack : Stack} {room : Nat} {behind : Workspace}

theorem outcome_reduceNode_of_keeps
    (stack : Stack)
    (room : Nat)
    {expression : Expr}
    {workspace : Workspace}
    (kept : workspace.keeps expression.node = true) :
    ∃ result,
      outcome (reduceNode stack (room + 1) expression) workspace = (.ok result, workspace) := by
  rcases Option.isSome_iff_exists.1 kept with ⟨result, found⟩
  exact ⟨result, outcome_reduceNode_of_kept stack room found⟩

/-- Like expressions that are reduced are reduced to the same. -/
theorem Alike.plain_eq
    {graph larger : Set Expr}
    (alike : left.Alike change right)
    {otherStack : Stack}
    {otherRoom : Nat}
    {value other : Multivector}
    {later : Workspace}
    (reduced : Reduced graph stack room left first (.ok value) behind)
    (again : Reduced larger otherStack otherRoom right second (.ok other) later) :
    value.plain = other.plain := by
  rcases alike.evaluate reduced.eq_evaluate.symm with ⟨found, evaluated, same⟩
  cases again.eq_evaluate.trans evaluated
  exact same

/-- Where a result is kept in the later workspace, nothing remains to be done. -/
theorem followsAlike_of_keeps
    (kept : second.keeps right.node = true)
    (keptAlike : KeptAlike change behind second) :
    FollowsAlike change stack (room + 1) right second behind := by
  rcases outcome_reduceNode_of_keeps stack room kept with ⟨value, reached⟩
  exact ⟨value, second, reached, keptAlike⟩

/-- What follows at once keeps no more than was kept before. -/
theorem FollowsAlike.keptAlike
    (follows : FollowsAlike change stack room right second behind)
    (kept : second.keeps right.node = true) :
    KeptAlike change behind second := by
  rcases follows with ⟨value, later, followed, keptAlike⟩
  cases room with
  | zero =>
      rw [outcome_reduceNode_zero] at followed
      cases followed
  | succ room =>
      rcases outcome_reduceNode_of_keeps stack room kept with ⟨found, reached⟩
      rw [reached] at followed
      cases followed
      exact keptAlike

theorem lookup_of_not_keeps
    {workspace : Workspace}
    {node : Nat}
    (notKept : ¬ workspace.keeps node = true) :
    workspace.results.lookup node = none :=
  Option.not_isSome_iff_eq_none.1 notKept

/-- What is left to show is about calls that there is room for, at nodes without a result. -/
theorem Alike.followsAlike_of_new
    (alike : left.Alike change right)
    (keptAlike : KeptAlike change first second)
    {value : Multivector}
    (reduced : outcome (left.reduceNode stack room) first = (.ok value, behind))
    (new :
      ∀ rest, room = rest + 1 →
        first.results.lookup left.node = none →
          FollowsAlike change stack room right second behind) :
    FollowsAlike change stack room right second behind := by
  cases room with
  | zero =>
      rw [outcome_reduceNode_zero] at reduced
      cases reduced
  | succ room =>
      by_cases kept : first.keeps left.node = true
      · rcases outcome_reduceNode_of_keeps stack room kept with ⟨found, reached⟩
        rw [reached] at reduced
        cases reduced
        refine followsAlike_of_keeps ?_ keptAlike
        rw [alike.node]
        exact keptAlike _ kept
      · exact new room rfl (lookup_of_not_keeps kept)

/-- Work that gets done keeps what it comes to. -/
theorem exists_of_outcome_finish_work
    {node : Nat}
    {work : Work}
    {value : Multivector}
    (finished : outcome (finish stack room node work) first = (.ok value, behind)) :
    ¬room < stack.needs work.plain ∧ work.run = .ok value ∧
      behind = first.withResult node value := by
  rw [outcome_finish] at finished
  split at finished
  · cases finished
  · next enough =>
    refine ⟨enough, ?_⟩
    cases ran : work.run with
    | error error =>
        rw [ran] at finished
        cases finished
    | ok result =>
        rw [ran] at finished
        cases finished
        exact ⟨rfl, rfl⟩

/-- Work that gets done follows if its operands do, unless its result is kept already. -/
theorem followsAlike_of_finish
    {node : Nat}
    {work : Work}
    {between : Workspace}
    {value : Multivector}
    (sameNode : right.node = change node)
    (finished : outcome (finish stack room node work) between = (.ok value, behind))
    (kept : second.keeps (change node) = true → KeptAlike change between second)
    (new :
      second.results.lookup (change node) = none →
        ∃ other later,
          outcome (right.reduceNode stack (room + 1)) second =
              outcome (finish stack room (change node) other) later ∧
            KeptAlike change between later ∧ work.Alike other) :
    FollowsAlike change stack (room + 1) right second behind := by
  rcases exists_of_outcome_finish_work finished with ⟨enough, ran, rfl⟩
  by_cases isKept : second.keeps (change node) = true
  · have keptThere : second.keeps right.node = true := sameNode ▸ isKept
    exact followsAlike_of_keeps keptThere ((kept isKept).withResult isKept value)
  · rcases new (lookup_of_not_keeps isKept) with ⟨other, later, reached, keptAlike, alike⟩
    rcases alike.exists_run value ran with ⟨result, otherRan, _⟩
    refine ⟨result, _, ?_, keptAlike.withResults node value result⟩
    rw [reached, outcome_finish, ← alike.plain_eq, if_neg enough, otherRan]

/-- Where an expression can be reduced, a like expression that has a value can be reduced later. -/
theorem Alike.followsAlike
    {graph larger : Set Expr}
    (alike : left.Alike change right)
    (firstSound : first.Sound graph)
    (secondSound : second.Sound larger)
    (leftMember : left ∈ graph)
    (rightMember : right ∈ larger)
    (keptAlike : KeptAlike change first second)
    {value : Multivector}
    (reduced : outcome (left.reduceNode stack room) first = (.ok value, behind)) :
    FollowsAlike change stack room right second behind := by
  have given := alike
  induction alike generalizing room first second value behind with
  | bind node layout sameFirst =>
      apply given.followsAlike_of_new keptAlike reduced
      rintro room rfl absent
      rw [Expr.node] at absent
      rw [outcome_reduceNode_bind absent] at reduced
      refine followsAlike_of_finish rfl reduced (fun _ => keptAlike) fun otherAbsent => ?_
      exact
        ⟨_, second, outcome_reduceNode_bind otherAbsent _, keptAlike,
          Binding.alike_work layout sameFirst⟩
  | constant node alike =>
      apply given.followsAlike_of_new keptAlike reduced
      rintro room rfl absent
      rw [Expr.node] at absent
      rw [outcome_reduceNode_constant absent] at reduced
      refine followsAlike_of_finish rfl reduced (fun _ => keptAlike) fun otherAbsent => ?_
      exact ⟨_, second, outcome_reduceNode_constant otherAbsent _, keptAlike, alike.work⟩
  | @unary node operation left right alike inductionHypothesis =>
      have operandMember := firstSound.isGraph.operands _ leftMember left (.head _)
      have otherMember := secondSound.isGraph.operands _ rightMember right (.head _)
      apply given.followsAlike_of_new keptAlike reduced
      rintro room rfl absent
      rw [Expr.node] at absent
      rw [outcome_reduceNode_unary absent] at reduced
      rcases exists_of_outcome_bind reduced with ⟨inner, between, innerReduced, finished⟩
      have follows :=
        inductionHypothesis firstSound secondSound operandMember otherMember keptAlike
          innerReduced alike
      refine followsAlike_of_finish rfl finished (fun otherKept => ?_) fun otherAbsent => ?_
      · exact follows.keptAlike (secondSound.closed _ rightMember otherKept right (.head _))
      · rcases follows with ⟨other, later, followed, betweenAlike⟩
        have same :=
          alike.plain_eq
            ((reduceNode_spec operandMember stack room firstSound).of_outcome innerReduced)
            ((reduceNode_spec otherMember stack room secondSound).of_outcome followed)
        refine ⟨.unary operation other, later, ?_, betweenAlike, operation.alike_work same⟩
        rw [outcome_reduceNode_unary otherAbsent, outcome_bind, followed]
  | @binary node operation left right otherLeft otherRight leftAlike rightAlike leftHypothesis
      rightHypothesis =>
      have leftIn := firstSound.isGraph.operands _ leftMember left (.head _)
      have rightIn := firstSound.isGraph.operands _ leftMember right (.tail _ (.head _))
      have otherLeftIn := secondSound.isGraph.operands _ rightMember otherLeft (.head _)
      have otherRightIn :=
        secondSound.isGraph.operands _ rightMember otherRight (.tail _ (.head _))
      apply given.followsAlike_of_new keptAlike reduced
      rintro room rfl absent
      rw [Expr.node] at absent
      rw [outcome_reduceNode_binary absent] at reduced
      rcases exists_of_outcome_bind reduced with ⟨one, between, oneReduced, rest⟩
      rcases exists_of_outcome_bind rest with ⟨two, last, twoReduced, finished⟩
      have oneSpec := (reduceNode_spec leftIn stack room firstSound).of_outcome oneReduced
      have twoSpec := (reduceNode_spec rightIn stack room oneSpec.sound).of_outcome twoReduced
      have leftFollows :=
        leftHypothesis firstSound secondSound leftIn otherLeftIn keptAlike oneReduced leftAlike
      refine followsAlike_of_finish rfl finished (fun otherKept => ?_) fun otherAbsent => ?_
      · have closed := secondSound.closed _ rightMember otherKept
        have betweenAlike := leftFollows.keptAlike (closed otherLeft (.head _))
        have rightFollows :=
          rightHypothesis oneSpec.sound secondSound rightIn otherRightIn betweenAlike twoReduced
            rightAlike
        exact rightFollows.keptAlike (closed otherRight (.tail _ (.head _)))
      · rcases leftFollows with ⟨other, later, followed, betweenAlike⟩
        have laterSpec := (reduceNode_spec otherLeftIn stack room secondSound).of_outcome followed
        rcases
            rightHypothesis oneSpec.sound laterSpec.sound rightIn otherRightIn betweenAlike
              twoReduced rightAlike with
          ⟨another, latest, lastFollowed, lastAlike⟩
        have latestSpec :=
          (reduceNode_spec otherRightIn stack room laterSpec.sound).of_outcome lastFollowed
        have sameLeft := leftAlike.plain_eq oneSpec laterSpec
        have sameRight := rightAlike.plain_eq twoSpec latestSpec
        refine
          ⟨.binary operation other another, latest, ?_, lastAlike,
            operation.alike_work sameLeft sameRight⟩
        rw [outcome_reduceNode_binary otherAbsent, outcome_bind, followed]
        dsimp only
        rw [outcome_bind, lastFollowed]

end Follows

/-- Where an expression can be reduced, a like expression can be reduced to the same later. -/
theorem Alike.reduceUnchecked
    {graph larger : Set Expr}
    (alike : left.Alike change right)
    (firstSound : first.Sound graph)
    (secondSound : second.Sound larger)
    (sameStack : second.limits.stack = first.limits.stack)
    (leftMember : left ∈ graph)
    (rightMember : right ∈ larger)
    (keptAlike : KeptAlike change first second)
    {value : Multivector}
    {behind : Workspace}
    (reduced : outcome left.reduceUnchecked first = (.ok value, behind)) :
    ∃ other later, outcome right.reduceUnchecked second = (.ok other, later) ∧
      value.plain = other.plain := by
  rcases
      alike.followsAlike firstSound secondSound leftMember rightMember keptAlike reduced with
    ⟨found, later, followed, _⟩
  have again : outcome right.reduceUnchecked second = (.ok found, later) := by
    rw [outcome_reduceUnchecked, sameStack]
    exact followed
  exact
    ⟨found, later, again,
      alike.plain_eq ((reduceUnchecked_spec leftMember firstSound).of_outcome reduced)
        ((reduceUnchecked_spec rightMember secondSound).of_outcome again)⟩

end Expr

end Versor
