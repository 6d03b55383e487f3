import Versor.Proofs.Expression.Vocabulary
import Versor.Proofs.Program.Binding

/-!
# The expression that a function is compiled from

Compiling a function has two halves: `Function.tree` binds the entities and
builds the expression, and `Function.finish` reduces it and makes a program of
the result.  Building keeps the workspace sound and gives the expression any
property that persists (`tree_spec`).  For an expression whose leaves are
arguments, the checks in the second half pass (`finish_eq`).
-/

namespace Versor

open Build Correspondence

variable {Number : Type}

namespace Function

/-- The algebra in which entities are bound: that of the first one. -/
def algebraOf
    (entities : List (Entity Number)) :
    Algebra :=
  (entities.head?.map Entity.algebra).getD .projective

/-- The bound arguments of a function and the expression that it returns for them. -/
def tree
    (function : Function)
    (entities : List (Entity Number)) :
    Build (Arguments × Expr) := do
  let arguments ← bindAll (algebraOf entities) 0 entities
  let result ← function.body.instantiate arguments.leaves []
  let expression ← resultExpr (entities.head?.map Entity.algebra) result
  return (arguments, expression)

/-! ## Building -/

section Building

variable
  {function : Function}
  {entities : List (Entity Number)}
  {signatures : List Signature}
  {vocabulary : Vocabulary}
  {holds : Expr → Prop}
  {admitted : SpelledMultivector → Prop}
  {graph : Set Expr}
  {workspace : Workspace}

/-- What building an expression comes to. -/
structure Grown
    (entities : List (Entity Number))
    (signatures : List Signature)
    (holds : Expr → Prop)
    (graph : Set Expr)
    (workspace : Workspace)
    (result : Except Error (Arguments × Expr))
    (behind : Workspace)
    (larger : Set Expr) :
    Prop where
  included : graph ⊆ larger
  sound : behind.Sound larger
  limits : behind.limits = workspace.limits
  results : behind.results = workspace.results
  free : workspace.free ≤ behind.free
  built :
    ∀ arguments expression, result = .ok (arguments, expression) →
      arguments = argumentsOf workspace.free (placements 0 (entities.zip signatures)) ∧
        expression ∈ larger ∧ holds expression

/-- Building keeps the workspace sound, and the expression has a property that persists. -/
theorem tree_spec
    (persistent : Expr.Persistent holds vocabulary.algebra admitted)
    (bound :
      ∀ layout, vocabulary.layout layout →
        ∀ node entity first, holds (.bind node ⟨entity, layout, first⟩))
    (constants : ∀ value, vocabulary.constant value → admitted value)
    (captured : ∀ value, vocabulary.expression value → value ∈ graph ∧ holds value)
    (within : function.body.Within vocabulary)
    (occurs : ∀ algebra ∈ entities.head?.map Entity.algebra, vocabulary.algebra algebra)
    (signed : Signed entities signatures)
    (leaves :
      ∀ placement ∈ placements 0 (entities.zip signatures),
        ∀ node, holds (.bind node placement.binding))
    (sound : workspace.Sound graph) :
    Ensures (function.tree entities) workspace fun result behind =>
      ∃ larger, Grown entities signatures holds graph workspace result behind larger := by
  by_cases agree : ∀ entity ∈ entities, entity.algebra.Agrees (algebraOf entities)
  · rcases sound.insertLeaves (placements 0 (entities.zip signatures)) with
      ⟨between, included, inBetween, betweenSound⟩
    have length : (placements 0 (entities.zip signatures)).length = entities.length := by
      simp [placements_length, signed.length_eq]
    rw [length] at betweenSound
    let stage : Stage graph := ⟨_, between, betweenSound, included⟩
    have leavesRelated :
        List.Forall₂ ((growth graph persistent).Related stage)
          (leavesFrom workspace.free (placements 0 (entities.zip signatures)))
          (leavesFrom workspace.free (placements 0 (entities.zip signatures))) := by
      refine List.forall₂_same.2 fun leaf member => ⟨rfl, inBetween leaf member, ?_⟩
      rcases mem_leavesFrom leaf member with ⟨node, placement, isPlaced, rfl⟩
      exact leaves placement isPlaced node
    have algebras :
        Option.Rel (growth graph persistent).Like (entities.head?.map Entity.algebra)
          (entities.head?.map Entity.algebra) := by
      cases head : entities.head?.map Entity.algebra with
      | none => exact .none
      | some algebra => exact .some ⟨rfl, occurs algebra head⟩
    let arguments := argumentsOf workspace.free (placements 0 (entities.zip signatures))
    let isBuilt (world : Stage graph) (left _ : Arguments × Expr) : Prop :=
      left.1 = arguments ∧ left.2 ∈ world.graph ∧ holds left.2
    have resultBuilt :
        ∀ later left right,
          (growth graph persistent).OperandRelated later left right →
          (growth graph persistent).Simulates later
            (resultExpr (entities.head?.map Entity.algebra) left >>= fun expression =>
              pure (arguments, expression))
            (resultExpr (entities.head?.map Entity.algebra) right >>= fun expression =>
              pure (arguments, expression))
            isBuilt := by
      intro later left right related
      apply Simulates.bind (resultExpr_simulates algebras related)
      rintro last expression _ _ ⟨rfl, member, holding⟩
      exact Simulates.pure ⟨rfl, member, holding⟩
    have instantiated :=
      Formula.instantiate_simulates (within.admitted_growth bound constants captured)
        leavesRelated .nil
    have simulated :=
      Simulates.bind instantiated fun later left right _ related =>
        resultBuilt later left right related
    rcases simulated with ⟨last, before, reached, follows⟩
    unfold Ensures tree
    rw [outcome_bind, outcome_bindAll agree signed]
    refine
      ⟨last.graph,
        { included := included.trans before.graph
          sound := reached ▸ last.sound
          limits := ?_
          results := ?_
          free := ?_
          built := fun arguments expression found => ?_ }⟩
    · exact (congrArg Workspace.limits reached.symm).trans before.limits
    · exact (congrArg Workspace.results reached.symm).trans before.results
    · have free := before.free.trans_eq (congrArg Workspace.free reached)
      exact (Nat.le_add_right _ _).trans free
    · rcases follows _ found with ⟨_, _, same, member, holding⟩
      exact ⟨same, member, holding⟩
  · have bound := bindAll_spec (algebraOf entities) 0 entities workspace
    refine Ensures.bind bound ?_ ?_
    · intro arguments behind ⟨_, agreeing⟩
      exact absurd (fun entity member => (agreeing arguments rfl entity member).1) agree
    · intro error behind ⟨⟨limits, results, free⟩, _⟩
      exact
        ⟨graph, subset_rfl, sound.of_free_le results free, limits, results, free,
          fun _ _ failed => by cases failed⟩

end Building

/-- Entities for which a function returns an expression have structures. -/
theorem exists_signed_of_tree
    {function : Function}
    {entities : List (Entity Number)}
    {workspace behind : Workspace}
    {result : Arguments × Expr}
    (returned : outcome (function.tree entities) workspace = (.ok result, behind)) :
    ∃ signatures, entities.mapM Entity.signature = .ok signatures ∧
      Signed entities signatures := by
  rcases exists_of_outcome_bind returned with ⟨arguments, between, binding, _⟩
  have bound := (bindAll_spec _ 0 entities workspace).of_outcome binding
  apply exists_mapM_eq_ok
  intro entity member
  rcases (bound.2 arguments rfl entity member).2 with ⟨signature, signed⟩
  exact ⟨signature, signed, signed⟩

end Function

/-! ## Reducing what has been built -/

variable [Arithmetic Number]

theorem Program.outcome_ofReduced
    (expression : Expr)
    (value : Multivector)
    (inputs : List Input)
    (workspace : Workspace) :
    outcome (ofReduced expression value inputs : Build (Program Number)) workspace =
      (ofMultivector workspace.free value (expression.spelling workspace.results) inputs,
        workspace.advanced) :=
  rfl

namespace Function

/-- The program for an expression over bound arguments. -/
def finish
    (function : Function)
    (entities : List (Entity Number))
    (validate : Bool)
    (arguments : Arguments)
    (expression : Expr) :
    Build (Program Number) := do
  if expression.leaves.any fun leaf =>
      !(arguments.bindings.any (Expr.sameBinding leaf)) then
    throw (.foreignBinding function.name)
  let value ← expression.reduce (widthsOf entities) validate
  Program.ofReduced expression value arguments.inputs

theorem build_eq
    (function : Function)
    (entities : List (Entity Number))
    (validate : Bool) :
    function.build entities validate =
      (function.tree entities >>= fun tree =>
        function.finish entities validate tree.1 tree.2) := by
  simp only [build, tree, finish, algebraOf, bind_assoc, pure_bind]

/-- A program that has been made was made of what its expression reduces to. -/
theorem exists_of_outcome_finish
    {function : Function}
    {entities : List (Entity Number)}
    {validate : Bool}
    {arguments : Arguments}
    {expression : Expr}
    {between behind : Workspace}
    {program : Program Number}
    (finished :
      outcome (function.finish entities validate arguments expression) between =
        (.ok program, behind)) :
    ∃ value last,
      outcome expression.reduceUnchecked between = (.ok value, last) ∧
        Program.ofMultivector last.free value (expression.spelling last.results)
            arguments.inputs =
          .ok program := by
  unfold finish at finished
  split at finished
  · cases finished
  · rcases exists_of_outcome_bind finished with ⟨value, last, reduced, made⟩
    rw [Program.outcome_ofReduced] at made
    exact
      ⟨value, last, Expr.outcome_reduceUnchecked_of_reduce reduced, (Prod.mk.inj made).1⟩

/-- An expression over bound arguments passes the checks and is reduced. -/
theorem finish_eq
    (function : Function)
    {entities : List (Entity Number)}
    {signatures : List Signature}
    (identified : Identified entities)
    (signed : Signed entities signatures)
    (validate : Bool)
    (node : Nat)
    {expression : Expr}
    (own :
      ∀ binding ∈ expression.leaves, ∃ placement ∈ placements 0 (entities.zip signatures),
        binding = placement.binding) :
    (function.finish entities validate
        (argumentsOf node (placements 0 (entities.zip signatures))) expression :
      Build (Program Number)) =
      (expression.reduceUnchecked >>= fun value =>
        Program.ofReduced expression value
          ((placements 0 (entities.zip signatures)).map Placement.input)) := by
  have noneForeign :
      (expression.leaves.any fun leaf =>
        !((placements 0 (entities.zip signatures)).map Placement.binding).any
          (Expr.sameBinding leaf)) = false := by
    apply List.any_eq_false.2
    intro leaf member isForeign
    rcases own leaf member with ⟨placement, isPlaced, rfl⟩
    have among :
        ((placements 0 (entities.zip signatures)).map Placement.binding).any
          (Expr.sameBinding placement.binding) = true :=
      List.any_eq_true.2
        ⟨_, List.mem_map_of_mem isPlaced, Expr.sameBinding_iff.2 ⟨rfl, rfl⟩⟩
    rw [among] at isForeign
    cases isForeign
  have checked : expression.checkBindings (widthsOf entities) = .ok () :=
    Expr.checkBindings_eq_ok (placed_of_subset identified signed own)
  simp only [finish, argumentsOf, noneForeign, Expr.reduce_of_checked checked]
  rfl

end Function
end Versor
