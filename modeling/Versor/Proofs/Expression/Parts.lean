import Versor.Proofs.Expression.Memo

/-!
# What a reduction keeps

Where the result of a member of a graph is kept, the results of all its parts
are kept (`Workspace.Sound.keeps_part`), and a reduction adds nothing but
results of parts (`reduceNode_adds`).

A workspace lists results in the order in which they were found.  A reduction
lists no node twice, because it does not reduce a node of which a result is
kept, and no node is among the parts of its own operands.
-/

namespace Versor
namespace Expr

/-- The expressions that an expression is made of, and itself. -/
def parts : Expr → List Expr
  | .bind node binding => [.bind node binding]
  | .constant node value => [.constant node value]
  | .unary node operation operand => .unary node operation operand :: operand.parts
  | .binary node operation left right =>
      .binary node operation left right :: (left.parts ++ right.parts)

/-- The parts of an expression are itself and those of its operands, from left to right. -/
theorem parts_eq
    (expression : Expr) :
    expression.parts = expression :: expression.operands.flatMap parts := by
  cases expression <;> simp [parts, operands]

theorem self_mem_parts
    (expression : Expr) :
    expression ∈ expression.parts := by
  cases expression <;> exact List.mem_cons_self

/-- The parts of a root are the root and the parts of its operands. -/
theorem mem_parts_iff
    {expression part : Expr} :
    part ∈ expression.parts ↔
      part = expression ∨ ∃ operand ∈ expression.operands, part ∈ operand.parts := by
  cases expression <;> simp [parts, operands]

theorem sizeOf_lt_of_mem_operands
    {expression operand : Expr}
    (isOperand : operand ∈ expression.operands) :
    sizeOf operand < sizeOf expression := by
  cases expression with
  | bind | constant => cases isOperand
  | unary node operation inner =>
      cases List.mem_singleton.1 isOperand
      simp
  | binary node operation left right =>
      rcases List.mem_cons.1 isOperand with rfl | isRight
      · simp
        omega
      · cases List.mem_singleton.1 isRight
        simp

theorem sizeOf_le_of_mem_parts
    {expression part : Expr}
    (isPart : part ∈ expression.parts) :
    sizeOf part ≤ sizeOf expression := by
  rcases mem_parts_iff.1 isPart with rfl | ⟨operand, isOperand, inOperand⟩
  · exact le_rfl
  · have smaller := sizeOf_lt_of_mem_operands isOperand
    exact (sizeOf_le_of_mem_parts inOperand).trans smaller.le
termination_by sizeOf expression

end Expr

/-- Parts of members are members. -/
theorem IsGraph.part_mem
    {graph : Set Expr}
    (isGraph : IsGraph graph)
    {expression part : Expr}
    (member : expression ∈ graph)
    (isPart : part ∈ expression.parts) :
    part ∈ graph := by
  rcases Expr.mem_parts_iff.1 isPart with rfl | ⟨operand, isOperand, inOperand⟩
  · exact member
  · have smaller := Expr.sizeOf_lt_of_mem_operands isOperand
    exact isGraph.part_mem (isGraph.operands _ member operand isOperand) inOperand
termination_by sizeOf expression

/-- In a graph no part of an operand has the number of the whole. -/
theorem IsGraph.node_ne
    {graph : Set Expr}
    (isGraph : IsGraph graph)
    {expression operand part : Expr}
    (member : expression ∈ graph)
    (isOperand : operand ∈ expression.operands)
    (isPart : part ∈ operand.parts) :
    part.node ≠ expression.node := by
  intro same
  have partMember := isGraph.part_mem (isGraph.operands _ member operand isOperand) isPart
  have notLarger := Expr.sizeOf_le_of_mem_parts isPart
  rw [isGraph.distinct part partMember expression member same] at notLarger
  exact absurd notLarger (Nat.not_le.2 (Expr.sizeOf_lt_of_mem_operands isOperand))

namespace Workspace

/-- The nodes of which results are kept, the latest first. -/
def reduced
    (workspace : Workspace) :
    List Nat :=
  workspace.results.map Prod.fst

theorem mem_reduced_iff
    {workspace : Workspace}
    {node : Nat} :
    node ∈ workspace.reduced ↔ workspace.keeps node = true := by
  simp only [reduced, keeps, List.lookup_isSome_iff, List.mem_map, beq_iff_eq, @eq_comm _ node]

/-- Where the result of a member is kept, those of its parts are kept. -/
theorem Sound.keeps_part
    {workspace : Workspace}
    {graph : Set Expr}
    (sound : workspace.Sound graph)
    {expression part : Expr}
    (member : expression ∈ graph)
    (kept : workspace.keeps expression.node = true)
    (isPart : part ∈ expression.parts) :
    workspace.keeps part.node = true := by
  rcases Expr.mem_parts_iff.1 isPart with rfl | ⟨operand, isOperand, inOperand⟩
  · exact kept
  · have smaller := Expr.sizeOf_lt_of_mem_operands isOperand
    exact
      sound.keeps_part (sound.isGraph.operands _ member operand isOperand)
        (sound.closed _ member kept operand isOperand) inOperand
termination_by sizeOf expression

/-- Results are added of certain expressions only, and none to a node that has one. -/
structure Adds
    (workspace behind : Workspace)
    (allowed : Expr → Prop) :
    Prop where
  kept :
    ∀ node, behind.keeps node = true →
      workspace.keeps node = true ∨ ∃ part, allowed part ∧ part.node = node
  once : workspace.reduced.Nodup → behind.reduced.Nodup

namespace Adds

variable {workspace between behind : Workspace} {allowed : Expr → Prop}

theorem refl
    (workspace : Workspace)
    (allowed : Expr → Prop) :
    workspace.Adds workspace allowed :=
  ⟨fun _ kept => .inl kept, fun distinct => distinct⟩

theorem trans
    (first : workspace.Adds between allowed)
    (second : between.Adds behind allowed) :
    workspace.Adds behind allowed where
  kept node kept := by
    rcases second.kept node kept with before | isAllowed
    · exact first.kept node before
    · exact .inr isAllowed
  once distinct := second.once (first.once distinct)

theorem mono
    {more : Expr → Prop}
    (adds : workspace.Adds behind allowed)
    (weaker : ∀ part, allowed part → more part) :
    workspace.Adds behind more where
  kept node kept := by
    rcases adds.kept node kept with before | ⟨part, isAllowed, same⟩
    · exact .inl before
    · exact .inr ⟨part, weaker part isAllowed, same⟩
  once := adds.once

/-- The result of a node that has none may be added. -/
theorem withResult
    (adds : workspace.Adds behind allowed)
    {expression : Expr}
    (isAllowed : allowed expression)
    (absent : behind.keeps expression.node = false)
    (result : Multivector) :
    workspace.Adds (behind.withResult expression.node result) allowed where
  kept node kept := by
    rcases keeps_of_keeps_withResult kept with rfl | before
    · exact .inr ⟨expression, isAllowed, rfl⟩
    · exact adds.kept node before
  once distinct := by
    refine List.nodup_cons.2 ⟨?_, adds.once distinct⟩
    rw [← reduced, mem_reduced_iff, absent]
    exact Bool.false_ne_true

end Adds

end Workspace

namespace Expr

open Build

/-! ## What is kept behind a reduction -/

/-- The parts of an expression other than itself. -/
def IsBelow
    (expression part : Expr) :
    Prop :=
  ∃ operand ∈ expression.operands, part ∈ operand.parts

/-- Behind a step only results of parts have been added. -/
def AddsParts
    (expression : Expr)
    (workspace : Workspace)
    (_ : Except Error Multivector)
    (behind : Workspace) :
    Prop :=
  workspace.Adds behind (· ∈ expression.parts)

/-- Without room nothing is added, and nothing to a result that is kept. -/
theorem ensures_addsParts
    {stack : Stack}
    {room : Nat}
    {expression : Expr}
    {workspace : Workspace}
    (step :
      ∀ less, workspace.keeps expression.node = false →
        workspace.results.lookup expression.node = none →
          Ensures (reduceNode stack (less + 1) expression) workspace
            (AddsParts expression workspace)) :
    Ensures (reduceNode stack room expression) workspace (AddsParts expression workspace) := by
  apply ensures_reduceNode
  · exact fun _ => Workspace.Adds.refl workspace _
  · exact fun _ _ _ => Workspace.Adds.refl workspace _
  · rintro less rfl absent
    exact step less (by simp [Workspace.keeps, absent]) absent

section Keeping

variable
  {graph : Set Expr}
  (isGraph : IsGraph graph)
  {expression : Expr}
  (member : expression ∈ graph)
  {workspace before : Workspace}

include isGraph member

/-- Below an expression whose result is not kept nothing is kept for its node. -/
theorem keeps_eq_false_of_adds
    (absent : workspace.keeps expression.node = false)
    (adds : workspace.Adds before expression.IsBelow) :
    before.keeps expression.node = false := by
  rw [← Bool.not_eq_true]
  intro kept
  rcases adds.kept _ kept with already | ⟨part, ⟨operand, isOperand, isPart⟩, same⟩
  · rw [absent] at already
    cases already
  · exact isGraph.node_ne member isOperand isPart same

/-- A result that is found after those below it is added for the first time, if there is one. -/
theorem ensures_finish_adds
    (absent : workspace.keeps expression.node = false)
    (adds : workspace.Adds before expression.IsBelow)
    (stack : Stack)
    (room : Nat)
    (work : Work) :
    Ensures (finish stack room expression.node work) before (AddsParts expression workspace) := by
  have notKept := keeps_eq_false_of_adds isGraph member absent adds
  have partsOnly : workspace.Adds before (· ∈ expression.parts) :=
    adds.mono fun part isBelow => mem_parts_iff.2 (.inr isBelow)
  unfold Ensures
  rw [outcome_finish]
  split
  · exact partsOnly
  · cases work.run with
    | ok value => exact partsOnly.withResult expression.self_mem_parts notKept value
    | error error => exact partsOnly

end Keeping

/-- Reducing a member of a graph keeps results of its parts, each node being reduced once. -/
theorem reduceNode_adds
    {graph : Set Expr}
    (isGraph : IsGraph graph)
    {expression : Expr}
    (member : expression ∈ graph)
    (stack : Stack)
    (room : Nat)
    (workspace : Workspace) :
    Ensures (reduceNode stack room expression) workspace (AddsParts expression workspace) := by
  induction expression generalizing room workspace with
  | bind node binding =>
      apply ensures_addsParts
      intro less (notKept : workspace.keeps node = false)
        (absent : workspace.results.lookup node = none)
      apply Ensures.congr (outcome_reduceNode_bind absent _)
      exact ensures_finish_adds isGraph member notKept (.refl _ _) stack less _
  | constant node value =>
      apply ensures_addsParts
      intro less (notKept : workspace.keeps node = false)
        (absent : workspace.results.lookup node = none)
      apply Ensures.congr (outcome_reduceNode_constant absent _)
      exact ensures_finish_adds isGraph member notKept (.refl _ _) stack less _
  | unary node operation operand inductionHypothesis =>
      have operandMember := isGraph.operands _ member operand (.head _)
      have below (part : Expr) (isPart : part ∈ operand.parts) :
          (unary node operation operand).IsBelow part :=
        ⟨operand, .head _, isPart⟩
      apply ensures_addsParts
      intro less (notKept : workspace.keeps node = false)
        (absent : workspace.results.lookup node = none)
      apply Ensures.congr (outcome_reduceNode_unary absent _ _)
      apply Ensures.bind (inductionHypothesis operandMember less workspace)
      · intro value behind adds
        exact ensures_finish_adds isGraph member notKept (adds.mono below) stack less _
      · intro error behind adds
        exact adds.mono fun part isPart => mem_parts_iff.2 (.inr (below part isPart))
  | binary node operation left right leftHypothesis rightHypothesis =>
      have leftMember := isGraph.operands _ member left (.head _)
      have rightMember := isGraph.operands _ member right (.tail _ (.head _))
      have belowLeft (part : Expr) (isPart : part ∈ left.parts) :
          (binary node operation left right).IsBelow part :=
        ⟨left, .head _, isPart⟩
      have belowRight (part : Expr) (isPart : part ∈ right.parts) :
          (binary node operation left right).IsBelow part :=
        ⟨right, .tail _ (.head _), isPart⟩
      have isPart (part : Expr) (isBelow : (binary node operation left right).IsBelow part) :
          part ∈ (binary node operation left right).parts :=
        mem_parts_iff.2 (.inr isBelow)
      apply ensures_addsParts
      intro less (notKept : workspace.keeps node = false)
        (absent : workspace.results.lookup node = none)
      apply Ensures.congr (outcome_reduceNode_binary absent _ _ _)
      apply Ensures.bind (leftHypothesis leftMember less workspace)
      · intro first between leftAdds
        apply Ensures.bind (rightHypothesis rightMember less between)
        · intro second behind rightAdds
          have adds := (leftAdds.mono belowLeft).trans (rightAdds.mono belowRight)
          exact ensures_finish_adds isGraph member notKept adds stack less _
        · intro error behind rightAdds
          exact ((leftAdds.mono belowLeft).trans (rightAdds.mono belowRight)).mono isPart
      · intro error behind leftAdds
        exact (leftAdds.mono belowLeft).mono isPart

end Expr
end Versor
