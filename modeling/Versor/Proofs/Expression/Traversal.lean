import Versor.Proofs.Expression.Leaves
import Versor.Proofs.Expression.Parts

/-!
# Traversals go from left to right

A traversal takes expressions off a stack and puts their operands on it in their place.
It passes over nodes that it has entered before.  In a graph such a node stands for one
expression, and all parts of that have been entered unless the traversal is still below
it, where it cannot meet the expression again.  So what a traversal enters on its way
through an expression are the parts whose nodes are new, each where it occurs first in
the tree that the expression unfolds to (`Traversal.iterate_step`).

The leaves are listed in that order, each node once (`leafNodes_leftToRight`), and the
bindings at all leaves are among them (`allLeaves_mem_leaves`).
-/

namespace Versor

/-! ## First occurrences -/

section FirstOccurrences

variable {Member : Type} (key : Member → Nat)

/-- The members whose keys have not been seen, each key where it occurs first. -/
def firstOccurrences
    (seen : List Nat) :
    List Member → List Member
  | [] => []
  | member :: rest =>
      if key member ∈ seen then firstOccurrences seen rest
      else member :: firstOccurrences (key member :: seen) rest

variable {key} {seen : List Nat} {members others : List Member}

theorem firstOccurrences_append :
    firstOccurrences key seen (members ++ others) =
      firstOccurrences key seen members ++
        firstOccurrences key
          ((firstOccurrences key seen members).reverse.map key ++ seen) others := by
  induction members generalizing seen with
  | nil => rfl
  | cons member rest inductionHypothesis =>
      rw [List.cons_append, firstOccurrences, firstOccurrences]
      split
      · exact inductionHypothesis
      · rw [inductionHypothesis]
        simp

theorem firstOccurrences_eq_nil
    (allSeen : ∀ member ∈ members, key member ∈ seen) :
    firstOccurrences key seen members = [] := by
  induction members with
  | nil => rfl
  | cons member rest inductionHypothesis =>
      rcases List.forall_mem_cons.1 allSeen with ⟨isSeen, others⟩
      rw [firstOccurrences, if_pos isSeen]
      exact inductionHypothesis others

theorem firstOccurrences_sublist :
    (firstOccurrences key seen members).Sublist members := by
  induction members generalizing seen with
  | nil => exact .slnil
  | cons member rest inductionHypothesis =>
      rw [firstOccurrences]
      split
      · exact inductionHypothesis.cons member
      · exact inductionHypothesis.cons_cons member

/-- A key that has not been seen before occurs first somewhere. -/
theorem key_mem_firstOccurrences
    {member : Member}
    (isMember : member ∈ members) :
    key member ∈ (firstOccurrences key seen members).map key ∨ key member ∈ seen := by
  induction members generalizing seen with
  | nil => cases isMember
  | cons first rest inductionHypothesis =>
      rw [firstOccurrences]
      split
      · next isSeen =>
        rcases List.mem_cons.1 isMember with rfl | inRest
        · exact .inr isSeen
        · exact inductionHypothesis inRest
      · rcases List.mem_cons.1 isMember with rfl | inRest
        · exact .inl List.mem_cons_self
        · rcases @inductionHypothesis (key first :: seen) inRest with isNew | isSeen
          · exact .inl (List.mem_cons_of_mem _ isNew)
          · rcases List.mem_cons.1 isSeen with same | before
            · exact .inl (List.mem_cons.2 (.inl same))
            · exact .inr before

/-- Where keys tell members apart, every member occurs first somewhere. -/
theorem mem_firstOccurrences_iff
    (distinct : ∀ left ∈ members, ∀ right ∈ members, key left = key right → left = right)
    {member : Member} :
    member ∈ firstOccurrences key [] members ↔ member ∈ members := by
  refine ⟨firstOccurrences_sublist.mem, fun isMember => ?_⟩
  rcases key_mem_firstOccurrences isMember with occurs | impossible
  · rcases List.mem_map.1 occurs with ⟨other, isOther, same⟩
    have equal := distinct other (firstOccurrences_sublist.mem isOther) member isMember same
    exact equal ▸ isOther
  · cases impossible

/-- No key occurs first twice, or after it has been seen. -/
theorem nodup_firstOccurrences
    (distinct : seen.Nodup) :
    ((firstOccurrences key seen members).reverse.map key ++ seen).Nodup := by
  induction members generalizing seen with
  | nil => exact distinct
  | cons member rest inductionHypothesis =>
      rw [firstOccurrences]
      split
      · exact inductionHypothesis distinct
      · next isNew =>
        have later := inductionHypothesis (List.nodup_cons.2 ⟨isNew, distinct⟩)
        simpa using later

theorem nodup_map_firstOccurrences
    (key : Member → Nat)
    (members : List Member) :
    ((firstOccurrences key [] members).map key).Nodup := by
  have distinct := @nodup_firstOccurrences _ key [] members .nil
  rwa [List.append_nil, List.map_reverse, List.nodup_reverse] at distinct

end FirstOccurrences

namespace Expr

/-! ## Leaves among the parts -/

theorem node_of_leaf?
    {expression : Expr}
    {leaf : Leaf}
    (isLeaf : expression.leaf? = some leaf) :
    leaf.node = expression.node := by
  cases expression with
  | bind node binding =>
      cases isLeaf
      rfl
  | constant | unary | binary => cases isLeaf

theorem leaf?_eq_some_iff
    {expression : Expr}
    {leaf : Leaf} :
    expression.leaf? = some leaf ↔ expression = .bind leaf.node leaf.binding := by
  constructor
  · intro isLeaf
    cases expression with
    | bind node binding =>
        cases isLeaf
        rfl
    | constant | unary | binary => cases isLeaf
  · rintro rfl
    rfl

/-- The leaves of the unfolded tree, from left to right. -/
def leafParts
    (expression : Expr) :
    List Leaf :=
  expression.parts.filterMap leaf?

theorem mem_leafParts_iff
    {expression : Expr}
    {leaf : Leaf} :
    leaf ∈ expression.leafParts ↔ .bind leaf.node leaf.binding ∈ expression.parts := by
  simp [leafParts, leaf?_eq_some_iff]

theorem allLeaves_iff
    {holds : Binding → Prop}
    {expression : Expr} :
    expression.AllLeaves holds ↔ ∀ leaf ∈ expression.leafParts, holds leaf.binding := by
  induction expression with
  | bind node binding => simp [AllLeaves, leafParts, parts, leaf?]
  | constant node value => simp [AllLeaves, leafParts, parts, leaf?]
  | unary node operation operand inductionHypothesis =>
      have same : (unary node operation operand).leafParts = operand.leafParts := rfl
      rw [AllLeaves, inductionHypothesis, same]
  | binary node operation left right leftHypothesis rightHypothesis =>
      have same :
          (binary node operation left right).leafParts = left.leafParts ++ right.leafParts :=
        List.filterMap_append
      rw [AllLeaves, leftHypothesis, rightHypothesis, same, List.forall_mem_append]

/-- Where nodes tell parts apart, leaves occur first where they do as parts. -/
theorem filterMap_firstOccurrences
    {expressions : List Expr}
    (distinct :
      ∀ left ∈ expressions, ∀ right ∈ expressions, left.node = right.node → left = right)
    {seen seenLeaves : List Nat}
    (sameSeen :
      ∀ expression ∈ expressions, ∀ leaf, expression.leaf? = some leaf →
        (expression.node ∈ seen ↔ expression.node ∈ seenLeaves)) :
    (firstOccurrences node seen expressions).filterMap leaf? =
      firstOccurrences Leaf.node seenLeaves (expressions.filterMap leaf?) := by
  induction expressions generalizing seen seenLeaves with
  | nil => rfl
  | cons first rest inductionHypothesis =>
      have distinctRest :
          ∀ left ∈ rest, ∀ right ∈ rest, left.node = right.node → left = right :=
        fun left isLeft right isRight =>
          distinct left (List.mem_cons_of_mem _ isLeft) right (List.mem_cons_of_mem _ isRight)
      rcases List.forall_mem_cons.1 sameSeen with ⟨sameFirst, sameRest⟩
      cases found : first.leaf? with
      | none =>
          rw [List.filterMap_cons_none found, firstOccurrences]
          split
          · exact inductionHypothesis distinctRest sameRest
          · rw [List.filterMap_cons_none found]
            apply inductionHypothesis distinctRest
            intro other inRest leaf isLeaf
            have differs : other.node ≠ first.node := by
              intro same
              have equal :=
                distinct other (List.mem_cons_of_mem _ inRest) first List.mem_cons_self same
              rw [equal, found] at isLeaf
              cases isLeaf
            rw [List.mem_cons, or_iff_right differs]
            exact sameRest other inRest leaf isLeaf
      | some leaf =>
          have same := sameFirst leaf found
          have sameNode := node_of_leaf? found
          rw [List.filterMap_cons_some found, firstOccurrences, firstOccurrences, sameNode]
          by_cases isSeen : first.node ∈ seen
          · rw [if_pos isSeen, if_pos (same.1 isSeen)]
            exact inductionHypothesis distinctRest sameRest
          · rw [if_neg isSeen, if_neg (mt same.2 isSeen), List.filterMap_cons_some found]
            apply congrArg (leaf :: ·)
            apply inductionHypothesis distinctRest
            intro other inRest otherLeaf isLeaf
            rw [List.mem_cons, List.mem_cons, sameRest other inRest otherLeaf isLeaf]

/-! ## The way through an expression -/

/--
Expressions that have been entered are those that the traversal is below, and others of
which all parts have been entered.
-/
def IsComplete
    (graph below : Set Expr)
    (entered : List Nat) :
    Prop :=
  ∀ expression ∈ graph, expression.node ∈ entered →
    expression ∈ below ∨ ∀ part ∈ expression.parts, part.node ∈ entered

section Complete

variable
  {graph below : Set Expr}
  {expression : Expr}
  {entered : List Nat}

/-- The parts that a traversal enters on its way through expressions. -/
def newParts
    (entered : List Nat)
    (expressions : List Expr) :
    List Expr :=
  firstOccurrences node entered (expressions.flatMap parts)

/-- The nodes that have been entered behind expressions, the latest first. -/
def enteredBehind
    (entered : List Nat)
    (expressions : List Expr) :
    List Nat :=
  (newParts entered expressions).reverse.map node ++ entered

/-- Entering an expression puts the traversal below it. -/
theorem IsComplete.enter
    (complete : IsComplete graph below entered)
    (isGraph : IsGraph graph)
    (member : expression ∈ graph) :
    IsComplete graph (insert expression below) (expression.node :: entered) := by
  intro other otherMember isEntered
  rcases List.mem_cons.1 isEntered with same | before
  · exact .inl (.inl (isGraph.distinct other otherMember expression member same))
  · rcases complete other otherMember before with isBelow | allEntered
    · exact .inl (.inr isBelow)
    · exact .inr fun part isPart => List.mem_cons_of_mem _ (allEntered part isPart)

/-- An expression of which all parts have been entered is behind the traversal. -/
theorem IsComplete.leave
    (complete : IsComplete graph (insert expression below) entered)
    (allEntered : ∀ part ∈ expression.parts, part.node ∈ entered) :
    IsComplete graph below entered := by
  intro other otherMember isEntered
  rcases complete other otherMember isEntered with (rfl | isBelow) | otherEntered
  · exact .inr allEntered
  · exact .inl isBelow
  · exact .inr otherEntered

/-- There is nothing new in an expression that is met again, as the traversal is not below it. -/
theorem IsComplete.firstOccurrences_parts
    (complete : IsComplete graph below entered)
    (member : expression ∈ graph)
    (larger : ∀ other ∈ below, sizeOf expression < sizeOf other)
    (isEntered : expression.node ∈ entered) :
    firstOccurrences node entered expression.parts = [] := by
  apply firstOccurrences_eq_nil
  rcases complete expression member isEntered with isBelow | allEntered
  · exact absurd (larger expression isBelow) (lt_irrefl _)
  · exact allEntered

theorem mem_enteredBehind
    {expressions : List Expr}
    {part : Expr}
    (isPart : part ∈ expressions.flatMap parts) :
    part.node ∈ enteredBehind entered expressions := by
  rw [enteredBehind, List.mem_append, List.map_reverse, List.mem_reverse]
  exact key_mem_firstOccurrences isPart

/-- Behind its operands all parts of an expression have been entered. -/
theorem forall_mem_enteredBehind_operands
    (expression : Expr)
    (entered : List Nat) :
    ∀ part ∈ expression.parts,
      part.node ∈ enteredBehind (expression.node :: entered) expression.operands := by
  intro part isPart
  rw [parts_eq] at isPart
  rcases List.mem_cons.1 isPart with rfl | inOperands
  · exact List.mem_append_right _ List.mem_cons_self
  · exact mem_enteredBehind inOperands

end Complete

/-! ## Steps through expressions -/

section New

variable {entered : List Nat} {expression : Expr} (others : List Expr)

theorem newParts_cons_of_nil
    (nothing : firstOccurrences node entered expression.parts = []) :
    newParts entered (expression :: others) = newParts entered others := by
  rw [newParts, List.flatMap_cons, firstOccurrences_append, nothing]
  rfl

/-- What is new in an expression that is entered is the expression and what is new below it. -/
theorem newParts_cons_of_new
    (isNew : expression.node ∉ entered) :
    newParts entered (expression :: others) =
      expression :: (newParts (expression.node :: entered) expression.operands ++
        newParts (enteredBehind (expression.node :: entered) expression.operands) others) := by
  rw [newParts, List.flatMap_cons, parts_eq, List.cons_append, firstOccurrences, if_neg isNew,
    firstOccurrences_append]
  rfl

theorem enteredBehind_cons_of_nil
    (nothing : firstOccurrences node entered expression.parts = []) :
    enteredBehind entered (expression :: others) = enteredBehind entered others := by
  rw [enteredBehind, newParts_cons_of_nil others nothing, enteredBehind]

theorem enteredBehind_cons_of_new
    (isNew : expression.node ∉ entered) :
    enteredBehind entered (expression :: others) =
      enteredBehind (enteredBehind (expression.node :: entered) expression.operands) others := by
  rw [enteredBehind, newParts_cons_of_new others isNew]
  simp [enteredBehind]

end New

/-- Induction on lists of expressions, as traversed: the operands of the first, then the others. -/
@[elab_as_elim]
theorem operandsInduction
    {motive : List Expr → Prop}
    (nil : motive [])
    (cons :
      ∀ expression others, motive expression.operands → motive others →
        motive (expression :: others)) :
    ∀ expressions, motive expressions
  | [] => nil
  | expression :: others =>
      cons expression others (operandsInduction nil cons expression.operands)
        (operandsInduction nil cons others)
termination_by expressions => sizeOf expressions
decreasing_by
  · have smaller := expression.sizeOf_operands_append []
    have positive : 0 < sizeOf others := by cases others <;> simp
    rw [List.append_nil] at smaller
    simp only [List.cons.sizeOf_spec, List.nil.sizeOf_spec] at smaller ⊢
    omega
  · simp

namespace Traversal

/-- The operands of expressions, counted with repetitions. -/
def operandCount
    (expressions : List Expr) :
    Nat :=
  (expressions.map fun expression => expression.operands.length).sum

/-- The steps through expressions: one for each, and one for each operand of a new part. -/
def stepCount
    (entered : List Nat)
    (expressions : List Expr) :
    Nat :=
  expressions.length + operandCount (newParts entered expressions)

section StepCount

variable {entered : List Nat} {expression : Expr} (others : List Expr)

theorem stepCount_cons_of_nil
    (nothing : firstOccurrences node entered expression.parts = []) :
    stepCount entered (expression :: others) = stepCount entered others + 1 := by
  rw [stepCount, stepCount, newParts_cons_of_nil others nothing, List.length_cons]
  omega

theorem stepCount_cons_of_new
    (isNew : expression.node ∉ entered) :
    stepCount entered (expression :: others) =
      stepCount (enteredBehind (expression.node :: entered) expression.operands) others +
        stepCount (expression.node :: entered) expression.operands + 1 := by
  simp only [stepCount, newParts_cons_of_new others isNew, operandCount, List.length_cons,
    List.map_cons, List.map_append, List.sum_cons, List.sum_append]
  omega

end StepCount

/-- A traversal behind expressions that were the next ones. -/
def past
    (entered : List Nat)
    (found : List Leaf)
    (expressions rest : List Expr) :
    Traversal :=
  ⟨rest, enteredBehind entered expressions,
    ((newParts entered expressions).filterMap leaf?).reverse ++ found⟩

theorem past_cons_of_nil
    {expression : Expr}
    {entered : List Nat}
    (nothing : firstOccurrences node entered expression.parts = [])
    (found : List Leaf)
    (others rest : List Expr) :
    past entered found (expression :: others) rest = past entered found others rest := by
  rw [past, past, newParts_cons_of_nil others nothing, enteredBehind_cons_of_nil others nothing]

/-- The way through an expression that is new goes past its operands first. -/
theorem past_cons_of_new
    {expression : Expr}
    {entered : List Nat}
    (isNew : expression.node ∉ entered)
    (found : List Leaf)
    (others rest : List Expr) :
    let inside :=
      past (expression.node :: entered) (expression.leaf?.toList ++ found) expression.operands
        (others ++ rest)
    past entered found (expression :: others) rest =
      past inside.entered inside.found others rest := by
  intro inside
  simp only [inside, past, newParts_cons_of_new others isNew,
    enteredBehind_cons_of_new others isNew, Traversal.mk.injEq, true_and]
  cases isLeaf : expression.leaf? <;> simp [isLeaf]

theorem step_of_entered
    {expression : Expr}
    {entered : List Nat}
    (isEntered : expression.node ∈ entered)
    (rest : List Expr)
    (found : List Leaf) :
    step ⟨expression :: rest, entered, found⟩ = ⟨rest, entered, found⟩ := by
  simp [step, isEntered]

theorem step_of_new
    {expression : Expr}
    {entered : List Nat}
    (isNew : expression.node ∉ entered)
    (rest : List Expr)
    (found : List Leaf) :
    step ⟨expression :: rest, entered, found⟩ =
      ⟨expression.operands ++ rest, expression.node :: entered,
        expression.leaf?.toList ++ found⟩ := by
  simp [step, isNew]

/--
A traversal goes through expressions in a step for each of them and one for each operand
of the parts that are new, and enters just these, in the order in which they first occur.
-/
theorem iterate_step
    {graph : Set Expr}
    (isGraph : IsGraph graph)
    {expressions : List Expr}
    (members : ∀ expression ∈ expressions, expression ∈ graph)
    {below : Set Expr}
    (larger : ∀ expression ∈ expressions, ∀ other ∈ below, sizeOf expression < sizeOf other)
    {entered : List Nat}
    (complete : IsComplete graph below entered)
    (found : List Leaf)
    (rest : List Expr) :
    step^[stepCount entered expressions] ⟨expressions ++ rest, entered, found⟩ =
        past entered found expressions rest ∧
      IsComplete graph below (enteredBehind entered expressions) := by
  induction expressions using operandsInduction generalizing below entered found rest with
  | nil => exact ⟨rfl, complete⟩
  | cons expression others operandsHypothesis othersHypothesis =>
      rcases List.forall_mem_cons.1 members with ⟨member, othersMembers⟩
      rcases List.forall_mem_cons.1 larger with ⟨isLarger, othersLarger⟩
      by_cases isEntered : expression.node ∈ entered
      · have nothing := complete.firstOccurrences_parts member isLarger isEntered
        rw [stepCount_cons_of_nil others nothing, past_cons_of_nil nothing,
          enteredBehind_cons_of_nil others nothing, Function.iterate_succ_apply,
          List.cons_append, step_of_entered isEntered]
        exact othersHypothesis othersMembers othersLarger complete found rest
      · have operandsLarger :
            ∀ operand ∈ expression.operands, ∀ other ∈ insert expression below,
              sizeOf operand < sizeOf other := by
          rintro operand isOperand other (rfl | isBelow)
          · exact sizeOf_lt_of_mem_operands isOperand
          · exact (sizeOf_lt_of_mem_operands isOperand).trans (isLarger other isBelow)
        rcases
            operandsHypothesis (isGraph.operands expression member) operandsLarger
              (complete.enter isGraph member) (expression.leaf?.toList ++ found)
              (others ++ rest) with
          ⟨through, completeInside⟩
        have behind :=
          completeInside.leave (forall_mem_enteredBehind_operands expression entered)
        rw [stepCount_cons_of_new others isEntered, past_cons_of_new isEntered,
          enteredBehind_cons_of_new others isEntered, Function.iterate_succ_apply,
          Function.iterate_add_apply, List.cons_append, step_of_new isEntered, through]
        exact othersHypothesis othersMembers othersLarger behind _ rest

/-- A traversal with nothing left to enter stays as it is. -/
theorem run_of_pending_eq_nil
    {traversal : Traversal}
    (ends : traversal.pending = []) :
    traversal.run = traversal := by
  rw [run, if_pos (List.isEmpty_iff.2 ends)]

theorem run_step
    (traversal : Traversal) :
    traversal.step.run = traversal.run := by
  by_cases ends : traversal.pending = []
  · have stays : traversal.step = traversal := by rw [step, ends]
    rw [stays]
  · have goesOn : ¬ traversal.pending.isEmpty = true := by rwa [List.isEmpty_iff]
    conv_rhs => rw [run, if_neg goesOn]

theorem run_iterate_step
    (traversal : Traversal)
    (count : Nat) :
    (step^[count] traversal).run = traversal.run := by
  induction count with
  | zero => rfl
  | succ count inductionHypothesis =>
      rw [Function.iterate_succ_apply', run_step, inductionHypothesis]

/-- The traversal of a member of a graph ends behind all its parts. -/
theorem iterate_step_start
    {graph : Set Expr}
    (isGraph : IsGraph graph)
    {expression : Expr}
    (member : expression ∈ graph) :
    step^[1 + operandCount (newParts [] [expression])] (start expression) =
      past [] [] [expression] [] :=
  (iterate_step isGraph (List.forall_mem_singleton.2 member)
    (fun _ _ _ isBelow => absurd isBelow (Set.notMem_empty _))
    (fun _ _ isEntered => absurd isEntered List.not_mem_nil) [] []).1

theorem run_start
    {graph : Set Expr}
    (isGraph : IsGraph graph)
    {expression : Expr}
    (member : expression ∈ graph) :
    (start expression).run = past [] [] [expression] [] := by
  rw [← run_iterate_step, iterate_step_start isGraph member, run_of_pending_eq_nil rfl]

end Traversal

/-! ## Leaves in order -/

/-- The parts of the unfolded tree, each node where it occurs first. -/
def nodes
    (expression : Expr) :
    List Expr :=
  firstOccurrences node [] expression.parts

theorem newParts_singleton
    (expression : Expr) :
    newParts [] [expression] = expression.nodes := by
  rw [newParts, List.flatMap_singleton, nodes]

section Member

variable
  {graph : Set Expr}
  (isGraph : IsGraph graph)
  {expression : Expr}
  (member : expression ∈ graph)

include isGraph member

theorem eq_of_mem_parts_of_node_eq :
    ∀ left ∈ expression.parts, ∀ right ∈ expression.parts,
      left.node = right.node → left = right :=
  fun left isLeft right isRight =>
    isGraph.distinct left (isGraph.part_mem member isLeft) right (isGraph.part_mem member isRight)

/-- No part is missing, as parts with equal nodes are equal. -/
theorem mem_nodes_iff
    {part : Expr} :
    part ∈ expression.nodes ↔ part ∈ expression.parts :=
  mem_firstOccurrences_iff (eq_of_mem_parts_of_node_eq isGraph member)

theorem leafNodes_eq :
    expression.leafNodes = expression.nodes.filterMap leaf? := by
  rw [leafNodes, Traversal.run_start isGraph member, Traversal.past, newParts_singleton,
    List.append_nil, List.reverse_reverse]

theorem mem_leafNodes_iff
    {leaf : Leaf} :
    leaf ∈ expression.leafNodes ↔ .bind leaf.node leaf.binding ∈ expression.parts := by
  rw [leafNodes_eq isGraph member, List.mem_filterMap]
  simp only [mem_nodes_iff isGraph member, leaf?_eq_some_iff, exists_eq_right]

/-- The leaves are listed in the order in which they first occur in the unfolded tree. -/
theorem leafNodes_inOrder :
    expression.leafNodes = firstOccurrences Leaf.node [] expression.leafParts := by
  rw [leafNodes_eq isGraph member]
  exact
    filterMap_firstOccurrences (eq_of_mem_parts_of_node_eq isGraph member)
      fun _ _ _ _ => Iff.rfl

/-- The bindings at all leaves are listed. -/
theorem allLeaves_mem_leaves :
    expression.AllLeaves fun binding => binding ∈ expression.leaves := by
  refine allLeaves_iff.2 fun leaf isLeaf => List.mem_map_of_mem ?_
  exact (mem_leafNodes_iff isGraph member).2 (mem_leafParts_iff.1 isLeaf)

end Member

/--
A traversal of an expression enters each of its nodes once, and lists the leaves in the
order in which they first occur in the tree that the expression unfolds to.
-/
structure IsLeftToRight
    (expression : Expr) :
    Prop where
  /-- There is a step for the root, and one for each operand of each node. -/
  ends :
    Traversal.step^[1 + Traversal.operandCount expression.nodes] (Traversal.start expression) =
      (Traversal.start expression).run
  done : (Traversal.start expression).run.pending = []
  /-- The nodes are entered from left to right, and each of them once. -/
  entered : (Traversal.start expression).run.entered.reverse = expression.nodes.map node
  once : (expression.nodes.map node).Nodup
  reachable : ∀ part, part ∈ expression.nodes ↔ part ∈ expression.parts
  leavesOnce : (expression.leafNodes.map Leaf.node).Nodup
  mem_leaves :
    ∀ leaf, leaf ∈ expression.leafNodes ↔ .bind leaf.node leaf.binding ∈ expression.parts
  inOrder : expression.leafNodes = firstOccurrences Leaf.node [] expression.leafParts

/-- The traversal of an expression goes from left to right, however its nodes are shared. -/
theorem leafNodes_leftToRight
    {graph : Set Expr}
    (isGraph : IsGraph graph)
    {expression : Expr}
    (member : expression ∈ graph) :
    expression.IsLeftToRight := by
  have run := Traversal.run_start isGraph member
  have inOrder := leafNodes_inOrder isGraph member
  exact {
    ends := by rw [← newParts_singleton, Traversal.iterate_step_start isGraph member, run]
    done := by rw [run, Traversal.past]
    entered := by
      rw [run, Traversal.past, enteredBehind, newParts_singleton, List.append_nil,
        List.map_reverse, List.reverse_reverse]
    once := nodup_map_firstOccurrences node expression.parts
    reachable := fun part => mem_nodes_iff isGraph member
    leavesOnce := by
      rw [inOrder]
      exact nodup_map_firstOccurrences Leaf.node expression.leafParts
    mem_leaves := fun leaf => mem_leafNodes_iff isGraph member
    inOrder := inOrder }

/--
The first operand of the root holds the leaf 1, which is the second operand too.  A
traversal that passed over nodes as it put them on its stack would find the leaf 2 first.
-/
def sumOfShared
    (shared other : Binding) :
    Expr :=
  .binary 4 .sum (.binary 3 .sum (.bind 1 shared) (.bind 2 other)) (.bind 1 shared)

theorem leafNodes_leftToRight_sumOfShared :
    ∃ shared other,
      IsGraph {part | part ∈ (sumOfShared shared other).parts} ∧
        sumOfShared shared other ∈ {part | part ∈ (sumOfShared shared other).parts} ∧
        (sumOfShared shared other).IsLeftToRight ∧
        (sumOfShared shared other).leafNodes = [⟨1, shared⟩, ⟨2, other⟩] := by
  let shared : Binding := ⟨0, .plane, .natural 0⟩
  let other : Binding := ⟨1, .plane, .natural 4⟩
  have isGraph : IsGraph {part | part ∈ (sumOfShared shared other).parts} := by
    constructor
    · simp [sumOfShared, parts, operands]
    · simp [sumOfShared, parts, node]
  have isLeftToRight := leafNodes_leftToRight isGraph (self_mem_parts (sumOfShared shared other))
  refine ⟨shared, other, isGraph, self_mem_parts _, isLeftToRight, ?_⟩
  rw [isLeftToRight.inOrder]
  rfl

/-! ## Distinct bindings -/

/-- Keep a binding unless the same one is kept already. -/
def addDistinct
    (kept : List Binding)
    (binding : Binding) :
    List Binding :=
  if kept.any (sameBinding binding) then kept else binding :: kept

theorem exists_mem_foldl_addDistinct
    {kept bindings : List Binding} :
    ∀ binding ∈ kept ++ bindings,
      ∃ other ∈ bindings.foldl addDistinct kept, sameBinding binding other = true := by
  induction bindings generalizing kept with
  | nil =>
      intro binding member
      exact ⟨binding, by simpa using member, sameBinding_iff.2 ⟨rfl, rfl⟩⟩
  | cons first rest inductionHypothesis =>
      intro binding member
      rw [List.foldl_cons, addDistinct]
      split
      · next isOld =>
        rcases List.any_eq_true.1 isOld with ⟨known, isKept, same⟩
        have later := @inductionHypothesis kept
        rcases List.mem_append.1 member with before | after
        · exact later binding (List.mem_append_left _ before)
        · rcases List.mem_cons.1 after with rfl | inRest
          · rcases later known (List.mem_append_left _ isKept) with ⟨other, isOther, sameOther⟩
            rw [sameBinding_iff] at same sameOther
            exact
              ⟨other, isOther,
                sameBinding_iff.2 ⟨same.1.trans sameOther.1, same.2.trans sameOther.2⟩⟩
          · exact later binding (List.mem_append_right _ inRest)
      · refine inductionHypothesis binding ?_
        simp only [List.mem_append, List.mem_cons] at member ⊢
        tauto

/-- Every binding is the same as a distinct one. -/
theorem exists_mem_distinctBindings
    {bindings : List Binding}
    {binding : Binding}
    (member : binding ∈ bindings) :
    ∃ kept ∈ distinctBindings bindings, sameBinding binding kept = true := by
  rcases exists_mem_foldl_addDistinct binding (List.mem_append_right [] member) with
    ⟨kept, isKept, same⟩
  exact ⟨kept, List.mem_reverse.2 isKept, same⟩

end Expr
end Versor
