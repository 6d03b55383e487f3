import Versor.Proofs.Expression.Correspondence
import Versor.Proofs.Expression.Memo

/-!
# Building grows the graph of expressions

Every node that is built has a number of its own and operands that exist, so
the graph of expressions grows by it and the workspace stays sound
(`Workspace.Sound.insert`).  `growth` is the correspondence of a run with
itself that says so.  It also carries a property of expressions along which
building keeps, such as where the leaves come from.
-/

namespace Versor

namespace Workspace

variable {workspace : Workspace} {graph : Set Expr}

/-- Fewer expressions need less of a workspace. -/
theorem Sound.anti
    {part : Set Expr}
    (sound : workspace.Sound graph)
    (included : part ⊆ graph)
    (isGraph : IsGraph part) :
    workspace.Sound part where
  isGraph := isGraph
  below expression member := sound.below expression (included member)
  kept expression member := sound.kept expression (included member)
  closed expression member := sound.closed expression (included member)
  unused := sound.unused

/-- Taking numbers leaves everything else as it is. -/
theorem Sound.of_free_le
    {behind : Workspace}
    (sound : workspace.Sound graph)
    (sameResults : behind.results = workspace.results)
    (free : workspace.free ≤ behind.free) :
    behind.Sound graph where
  isGraph := sound.isGraph
  below expression member := (sound.below expression member).trans_le free
  kept := by
    rw [sameResults]
    exact sound.kept
  closed := by
    have sameKeeps : behind.keeps = workspace.keeps := by
      funext node
      rw [keeps, keeps, sameResults]
    rw [sameKeeps]
    exact sound.closed
  unused node taken := by
    rw [sameResults]
    exact sound.unused node (free.trans taken)

/-- Before anything is built there is nothing to be right about. -/
theorem sound_empty
    (free : Nat)
    (limits : Limits) :
    (⟨free, [], limits⟩ : Workspace).Sound ∅ where
  isGraph := ⟨fun _ impossible => impossible.elim, fun _ impossible => impossible.elim⟩
  below _ impossible := impossible.elim
  kept _ impossible := impossible.elim
  closed _ impossible := impossible.elim
  unused _ _ := rfl

/-- A node with the first free number and operands in the graph may be added to it. -/
theorem Sound.insert
    (sound : workspace.Sound graph)
    {expression : Expr}
    (fresh : expression.node = workspace.free)
    (operands : ∀ operand ∈ expression.operands, operand ∈ graph) :
    workspace.advanced.Sound (insert expression graph) where
  isGraph :=
    { operands := by
        rintro member (rfl | inGraph) operand isOperand
        · exact .inr (operands operand isOperand)
        · exact .inr (sound.isGraph.operands member inGraph operand isOperand)
      distinct := by
        rintro first (rfl | firstInGraph) second (rfl | secondInGraph) same
        · rfl
        · have below := sound.below second secondInGraph
          omega
        · have below := sound.below first firstInGraph
          omega
        · exact sound.isGraph.distinct first firstInGraph second secondInGraph same }
  below := by
    rintro member (rfl | inGraph)
    · exact fresh.trans_lt (Nat.lt_succ_self _)
    · exact (sound.below member inGraph).trans (Nat.lt_succ_self _)
  kept := by
    rintro member (rfl | inGraph) result found
    · have absent := sound.unused member.node fresh.ge
      change workspace.results.lookup member.node = some result at found
      rw [absent] at found
      cases found
    · exact sound.kept member inGraph result found
  closed := by
    rintro member (rfl | inGraph) isKept
    · have absent := sound.unused member.node fresh.ge
      have notKept : workspace.keeps member.node = false := by simp [keeps, absent]
      exact absurd isKept (ne_true_of_eq_false notKept)
    · exact sound.closed member inGraph isKept
  unused node taken := sound.unused node ((Nat.le_succ _).trans taken)

end Workspace

/-- A workspace with a graph that it is sound for, in which some expressions are known to be. -/
structure Stage
    (known : Set Expr) where
  workspace : Workspace
  graph : Set Expr
  sound : workspace.Sound graph
  includes : known ⊆ graph

/-- Nothing is lost from a stage to a later one, and no result is kept on the way. -/
structure Stage.Before
    {known : Set Expr}
    (stage behind : Stage known) :
    Prop where
  graph : stage.graph ⊆ behind.graph
  limits : behind.workspace.limits = stage.workspace.limits
  results : behind.workspace.results = stage.workspace.results
  free : stage.workspace.free ≤ behind.workspace.free

/-- The stage behind the building of a node. -/
def Stage.add
    {known : Set Expr}
    (stage : Stage known)
    (expression : Expr)
    (fresh : expression.node = stage.workspace.free)
    (operands : ∀ operand ∈ expression.operands, operand ∈ stage.graph) :
    Stage known where
  workspace := stage.workspace.advanced
  graph := insert expression stage.graph
  sound := stage.sound.insert fresh operands
  includes := stage.includes.trans (Set.subset_insert _ _)

theorem Stage.before_add
    {known : Set Expr}
    (stage : Stage known)
    {expression : Expr}
    (fresh : expression.node = stage.workspace.free)
    (operands : ∀ operand ∈ expression.operands, operand ∈ stage.graph) :
    stage.Before (stage.add expression fresh operands) where
  graph := Set.subset_insert _ _
  limits := rfl
  results := rfl
  free := Nat.le_succ _

/--
A property of expressions that building nodes keeps, given which algebras
occur and which constants are admitted.
-/
structure Expr.Persistent
    (holds : Expr → Prop)
    (occurs : Algebra → Prop)
    (admitted : SpelledMultivector → Prop) :
    Prop where
  algebra : ∀ expression, holds expression → occurs expression.algebra
  multiple :
    ∀ algebra value blade spelling, occurs algebra → blade < algebra.bladeCount →
      admitted ⟨.constant algebra value blade, { blades := spelling }⟩
  constant :
    ∀ node value, admitted value → value.value.isConstant = true →
      holds (.constant node value)
  unary :
    ∀ node operation operand, operation.IsFor operand.algebra → holds operand →
      holds (.unary node operation operand)
  binary :
    ∀ node operation left right, holds left → holds right →
      left.algebra.Agrees right.algebra → holds (.binary node operation left right)

namespace Correspondence

/-- A run of building beside itself, in which a property of expressions persists. -/
def growth
    (known : Set Expr)
    {holds : Expr → Prop}
    {occurs : Algebra → Prop}
    {admitted : SpelledMultivector → Prop}
    (persistent : Expr.Persistent holds occurs admitted) :
    Correspondence where
  World := Stage known
  first := Stage.workspace
  second := Stage.workspace
  Before := Stage.Before
  before_refl _ := ⟨subset_rfl, rfl, rfl, le_rfl⟩
  before_trans first second :=
    ⟨first.graph.trans second.graph, second.limits.trans first.limits,
      second.results.trans first.results, first.free.trans second.free⟩
  Related stage left right := left = right ∧ left ∈ stage.graph ∧ holds left
  related_mono before := fun ⟨same, member, holding⟩ =>
    ⟨same, before.graph member, holding⟩
  Like left right := left = right ∧ occurs left
  like_agrees := fun ⟨same, _⟩ => congrArg Algebra.plain same
  like := fun ⟨same, _, holding⟩ =>
    ⟨congrArg Expr.algebra same, persistent.algebra _ holding⟩
  Admissible left right := left = right ∧ admitted left
  admissible_plain := fun ⟨same, _⟩ => congrArg (fun element => element.value.plain) same
  admissible_number value := by
    rintro ⟨rfl, isOccurring⟩
    exact ⟨rfl, persistent.multiple _ value 0 _ isOccurring (twoTo_pos _)⟩
  constant stage := by
    rintro value _ ⟨rfl, isAdmitted⟩ isConstant
    refine ⟨stage.add (.constant stage.workspace.free value) rfl (by simp [Expr.operands]),
      stage.before_add rfl _, rfl, rfl, rfl, Set.mem_insert _ _, ?_⟩
    exact persistent.constant _ value isAdmitted isConstant
  unary stage operation := by
    rintro operand _ isFor ⟨rfl, member, holding⟩
    refine ⟨stage.add (.unary stage.workspace.free operation operand) rfl ?_,
      stage.before_add rfl _, rfl, rfl, rfl, Set.mem_insert _ _, ?_⟩
    · simpa [Expr.operands] using member
    · exact persistent.unary _ operation operand isFor holding
  binary stage operation := by
    rintro left right _ _ ⟨rfl, leftMember, leftHolding⟩ ⟨rfl, rightMember, rightHolding⟩ agree
    refine ⟨stage.add (.binary stage.workspace.free operation left right) rfl ?_,
      stage.before_add rfl _, rfl, rfl, rfl, Set.mem_insert _ _, ?_⟩
    · simp [Expr.operands, leftMember, rightMember]
    · exact persistent.binary _ operation left right leftHolding rightHolding agree

end Correspondence
end Versor
