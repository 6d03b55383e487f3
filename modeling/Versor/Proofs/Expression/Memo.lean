import Mathlib
import Versor.Proofs.Expression.Build

/-!
# Reduction with kept results

Expressions that exist side by side form a graph: it has the operands of its
members, and no two of them have one number.  A workspace is sound for a
graph if every result kept for a member is what the member evaluates to, and
the results of its operands are kept too.
Reduction keeps workspaces sound, returns what evaluation returns
(`reduceNode_spec`), and gets stuck only at an expression with so many
operations inside one another that the stack does not hold them, whatever the
stack is (`Stack.Holds`).
-/

namespace Versor
namespace Expr

/-- Operations inside one another, not counted below nodes of which a result is kept. -/
def heightAbove
    (kept : Nat → Bool) :
    Expr → Nat
  | .bind _ _ | .constant _ _ => 0
  | .unary node _ operand => if kept node then 0 else operand.heightAbove kept + 1
  | .binary node _ left right =>
      if kept node then 0
      else max (left.heightAbove kept) (right.heightAbove kept) + 1

/-- The more results are kept, the fewer operations are left. -/
theorem heightAbove_anti
    {fewer more : Nat → Bool}
    (included : ∀ node, fewer node = true → more node = true)
    (expression : Expr) :
    expression.heightAbove more ≤ expression.heightAbove fewer := by
  induction expression with
  | bind node binding => exact le_rfl
  | constant node value => exact le_rfl
  | unary node operation operand inductionHypothesis =>
      unfold heightAbove
      split
      · exact Nat.zero_le _
      · next notMore =>
        rw [if_neg (mt (included node) notMore)]
        exact Nat.succ_le_succ inductionHypothesis
  | binary node operation left right leftHypothesis rightHypothesis =>
      unfold heightAbove
      split
      · exact Nat.zero_le _
      · next notMore =>
        rw [if_neg (mt (included node) notMore)]
        exact Nat.succ_le_succ (max_le_max leftHypothesis rightHypothesis)

end Expr

/-- Expressions side by side: operands are members too, and numbers tell members apart. -/
structure IsGraph
    (graph : Set Expr) :
    Prop where
  operands : ∀ expression ∈ graph, ∀ operand ∈ expression.operands, operand ∈ graph
  distinct :
    ∀ expression ∈ graph, ∀ other ∈ graph,
      expression.node = other.node → expression = other

namespace Workspace

/-- Whether the result of a node is kept. -/
def keeps
    (workspace : Workspace)
    (node : Nat) :
    Bool :=
  (workspace.results.lookup node).isSome

/-- The workspace in which one more result is kept. -/
def withResult
    (workspace : Workspace)
    (node : Nat)
    (result : Multivector) :
    Workspace :=
  { workspace with results := (node, result) :: workspace.results }

/-- The same workspace when another caller leaves other limits. -/
def under
    (workspace : Workspace)
    (limits : Limits) :
    Workspace :=
  { workspace with limits := limits }

/-- The results kept for a graph are right, and numbers that are free are not in use. -/
structure Sound
    (workspace : Workspace)
    (graph : Set Expr) :
    Prop where
  isGraph : IsGraph graph
  below : ∀ expression ∈ graph, expression.node < workspace.free
  kept :
    ∀ expression ∈ graph, ∀ result,
      workspace.results.lookup expression.node = some result →
      expression.evaluate = .ok result
  closed :
    ∀ expression ∈ graph, workspace.keeps expression.node = true →
      ∀ operand ∈ expression.operands, workspace.keeps operand.node = true
  unused : ∀ node, workspace.free ≤ node → workspace.results.lookup node = none

/-- Whether kept results are right is not up to the limits. -/
theorem Sound.under
    {workspace : Workspace}
    {graph : Set Expr}
    (sound : workspace.Sound graph)
    (limits : Limits) :
    (workspace.under limits).Sound graph :=
  ⟨sound.isGraph, sound.below, sound.kept, sound.closed, sound.unused⟩

/-- Nothing that was kept has been lost, and no number has been taken. -/
structure KeepsMore
    (workspace behind : Workspace) :
    Prop where
  limits : behind.limits = workspace.limits
  free : behind.free = workspace.free
  kept :
    ∀ node result,
      workspace.results.lookup node = some result →
      behind.results.lookup node = some result

namespace KeepsMore

variable {workspace between behind : Workspace}

theorem refl
    (workspace : Workspace) :
    KeepsMore workspace workspace :=
  ⟨rfl, rfl, fun _ _ found => found⟩

theorem trans
    (first : KeepsMore workspace between)
    (second : KeepsMore between behind) :
    KeepsMore workspace behind :=
  ⟨second.limits.trans first.limits, second.free.trans first.free,
    fun node result found => second.kept node result (first.kept node result found)⟩

theorem keeps
    (more : KeepsMore workspace behind)
    {node : Nat}
    (kept : workspace.keeps node = true) :
    behind.keeps node = true := by
  rcases Option.isSome_iff_exists.1 kept with ⟨result, found⟩
  exact Option.isSome_iff_exists.2 ⟨result, more.kept node result found⟩

theorem heightAbove_le
    (more : KeepsMore workspace behind)
    (expression : Expr) :
    expression.heightAbove behind.keeps ≤ expression.heightAbove workspace.keeps :=
  Expr.heightAbove_anti (fun _ => more.keeps) expression

end KeepsMore

/-- Nothing that was kept has been lost, and no number that was taken is free again. -/
structure Extends
    (workspace behind : Workspace) :
    Prop where
  limits : behind.limits = workspace.limits
  free : workspace.free ≤ behind.free
  kept : ∀ node, workspace.keeps node = true → behind.keeps node = true

theorem KeepsMore.isExtended
    {workspace behind : Workspace}
    (more : KeepsMore workspace behind) :
    workspace.Extends behind :=
  ⟨more.limits, more.free.ge, fun _ kept => more.keeps kept⟩

theorem Extends.refl
    (workspace : Workspace) :
    workspace.Extends workspace :=
  ⟨rfl, le_rfl, fun _ kept => kept⟩

theorem Extends.trans
    {workspace between behind : Workspace}
    (first : workspace.Extends between)
    (second : between.Extends behind) :
    workspace.Extends behind :=
  ⟨second.limits.trans first.limits, first.free.trans second.free,
    fun node kept => second.kept node (first.kept node kept)⟩

/-- What one workspace loses nothing of is not up to the limits. -/
theorem Extends.under
    {workspace behind : Workspace}
    (extended : workspace.Extends behind)
    (limits : Limits) :
    (workspace.under limits).Extends (behind.under limits) :=
  ⟨rfl, extended.free, extended.kept⟩

/-- Keeping a right result loses none: one kept before for the node was the same. -/
theorem Sound.keepsMore_withResult
    {workspace : Workspace}
    {graph : Set Expr}
    (sound : workspace.Sound graph)
    {expression : Expr}
    (member : expression ∈ graph)
    {result : Multivector}
    (right : expression.evaluate = .ok result) :
    workspace.KeepsMore (workspace.withResult expression.node result) where
  limits := rfl
  free := rfl
  kept node found before := by
    simp only [Workspace.withResult, List.lookup_cons]
    split
    · next same =>
      cases eq_of_beq same
      have foundRight := sound.kept expression member found before
      rw [right] at foundRight
      cases foundRight
      rfl
    · exact before

theorem Sound.lt_free_of_keeps
    {workspace : Workspace}
    {graph : Set Expr}
    (sound : workspace.Sound graph)
    {node : Nat}
    (kept : workspace.keeps node = true) :
    node < workspace.free := by
  by_contra free
  rw [keeps, sound.unused node (Nat.not_lt.1 free)] at kept
  cases kept

theorem keeps_withResult
    (workspace : Workspace)
    (node : Nat)
    (result : Multivector) :
    (workspace.withResult node result).keeps node = true := by
  simp [keeps, withResult]

theorem keeps_withResult_of_keeps
    {workspace : Workspace}
    {other : Nat}
    (kept : workspace.keeps other = true)
    (node : Nat)
    (result : Multivector) :
    (workspace.withResult node result).keeps other = true := by
  unfold keeps withResult
  rw [List.lookup_cons]
  split
  · rfl
  · exact kept

theorem keeps_of_keeps_withResult
    {workspace : Workspace}
    {node other : Nat}
    {result : Multivector}
    (kept : (workspace.withResult node result).keeps other = true) :
    other = node ∨ workspace.keeps other = true := by
  by_cases same : other = node
  · exact .inl same
  · have different : (other == node) = false := beq_eq_false_iff_ne.2 same
    simp only [keeps, withResult, List.lookup_cons, different] at kept
    exact .inr kept

/-- A right result may be kept for a member of the graph whose operands are done. -/
theorem Sound.withResult
    {workspace : Workspace}
    {graph : Set Expr}
    (sound : workspace.Sound graph)
    {expression : Expr}
    (member : expression ∈ graph)
    {result : Multivector}
    (right : expression.evaluate = .ok result)
    (operandsKept :
      ∀ operand ∈ expression.operands, workspace.keeps operand.node = true) :
    (workspace.withResult expression.node result).Sound graph where
  isGraph := sound.isGraph
  below := sound.below
  kept other inGraph found otherFound := by
    simp only [Workspace.withResult, List.lookup_cons] at otherFound
    split at otherFound
    · next same =>
      cases otherFound
      have equal := sound.isGraph.distinct other inGraph expression member (eq_of_beq same)
      exact equal ▸ right
    · exact sound.kept other inGraph found otherFound
  closed other inGraph otherKept operand isOperand := by
    apply (sound.keepsMore_withResult member right).keeps
    by_cases same : other.node = expression.node
    · have equal := sound.isGraph.distinct other inGraph expression member same
      exact operandsKept operand (equal ▸ isOperand)
    · have keptBefore : workspace.keeps other.node = true := by
        have different : (other.node == expression.node) = false :=
          beq_eq_false_iff_ne.2 same
        simpa only [keeps, Workspace.withResult, List.lookup_cons, different] using otherKept
      exact sound.closed other inGraph keptBefore operand isOperand
  unused node free := by
    have different : (node == expression.node) = false :=
      beq_eq_false_iff_ne.2 (free.trans_lt' (sound.below expression member)).ne'
    simp only [Workspace.withResult, List.lookup_cons, different]
    exact sound.unused node free

end Workspace

namespace Expr

open Build

/-- What reducing an expression in a workspace comes to. -/
structure Reduced
    (graph : Set Expr)
    (stack : Stack)
    (room : Nat)
    (expression : Expr)
    (workspace : Workspace)
    (result : Except Error Multivector)
    (behind : Workspace) :
    Prop where
  sound : behind.Sound graph
  more : workspace.KeepsMore behind
  /-- The result is right, or there was no room to find it. -/
  evaluated :
    result = expression.evaluate ∨
      result = .error .nestedTooDeeply ∧
        ¬expression.heightAbove workspace.keeps + stack.margin < room
  finished : ∀ value, result = .ok value → behind.keeps expression.node = true

@[simp]
theorem outcome_kept?
    (node : Nat)
    (workspace : Workspace) :
    outcome (kept? node) workspace = (.ok (workspace.results.lookup node), workspace) :=
  rfl

@[simp]
theorem outcome_keep
    (node : Nat)
    (result : Multivector)
    (workspace : Workspace) :
    outcome (keep node result) workspace = (.ok result, workspace.withResult node result) :=
  rfl

theorem Reduced.eq_evaluate
    {graph : Set Expr}
    {stack : Stack}
    {room : Nat}
    {expression : Expr}
    {workspace behind : Workspace}
    {value : Multivector}
    (reduced : Reduced graph stack room expression workspace (.ok value) behind) :
    .ok value = expression.evaluate := by
  rcases reduced.evaluated with right | ⟨failed, _⟩
  · exact right
  · cases failed

/-- A step that fails keeps what its operands have come to. -/
theorem Reduced.of_error
    {graph : Set Expr}
    {stack : Stack}
    {room : Nat}
    {expression : Expr}
    {workspace behind : Workspace}
    {error : Error}
    (sound : behind.Sound graph)
    (more : workspace.KeepsMore behind)
    (evaluated :
      .error error = expression.evaluate ∨
        error = .nestedTooDeeply ∧
          ¬expression.heightAbove workspace.keeps + stack.margin < room) :
    Reduced graph stack room expression workspace (.error error) behind where
  sound := sound
  more := more
  evaluated := evaluated.imp_right fun ⟨tooDeep, higher⟩ => ⟨congrArg Except.error tooDeep, higher⟩
  finished _ failed := by cases failed

/-- An expression of which no result is kept is as high as its operations make it. -/
theorem heightAbove_unary
    {kept : Nat → Bool}
    {node : Nat}
    (notKept : kept node = false)
    (operation : UnaryOperation)
    (operand : Expr) :
    (unary node operation operand).heightAbove kept = operand.heightAbove kept + 1 := by
  simp [heightAbove, notKept]

theorem heightAbove_binary
    {kept : Nat → Bool}
    {node : Nat}
    (notKept : kept node = false)
    (operation : BinaryOperation)
    (left right : Expr) :
    (binary node operation left right).heightAbove kept =
      max (left.heightAbove kept) (right.heightAbove kept) + 1 := by
  simp [heightAbove, notKept]

/-! ## One step of reduction -/

section Step

variable {stack : Stack} {room : Nat} {workspace : Workspace}

theorem outcome_finish
    (stack : Stack)
    (room node : Nat)
    (work : Work)
    (workspace : Workspace) :
    outcome (finish stack room node work) workspace =
      if room < stack.needs work.plain then (.error .nestedTooDeeply, workspace)
      else
        match work.run with
        | .ok result => (.ok result, workspace.withResult node result)
        | .error error => (.error error, workspace) := by
  unfold finish
  split
  · rfl
  · cases work.run <;> rfl

@[simp]
theorem outcome_reduceNode_zero
    (stack : Stack)
    (expression : Expr)
    (workspace : Workspace) :
    outcome (reduceNode stack 0 expression) workspace = (.error .nestedTooDeeply, workspace) := by
  cases expression <;> rfl

theorem outcome_reduceNode_of_kept
    (stack : Stack)
    (room : Nat)
    {expression : Expr}
    {result : Multivector}
    (found : workspace.results.lookup expression.node = some result) :
    outcome (reduceNode stack (room + 1) expression) workspace = (.ok result, workspace) := by
  unfold reduceNode
  rw [outcome_bind, outcome_kept?, found]
  rfl

section NotKept

variable {node : Nat} (absent : workspace.results.lookup node = none)

include absent

theorem outcome_reduceNode_bind
    (binding : Binding) :
    outcome (reduceNode stack (room + 1) (bind node binding)) workspace =
      outcome (finish stack room node (.bound binding.value)) workspace := by
  rw [reduceNode, outcome_bind, outcome_kept?, Expr.node, absent]

theorem outcome_reduceNode_constant
    (value : SpelledMultivector) :
    outcome (reduceNode stack (room + 1) (constant node value)) workspace =
      outcome (finish stack room node (.constant value)) workspace := by
  rw [reduceNode, outcome_bind, outcome_kept?, Expr.node, absent]

theorem outcome_reduceNode_unary
    (operation : UnaryOperation)
    (operand : Expr) :
    outcome (reduceNode stack (room + 1) (unary node operation operand)) workspace =
      outcome
        (reduceNode stack room operand >>= fun value =>
          finish stack room node (.unary operation value))
        workspace := by
  rw [reduceNode, outcome_bind, outcome_kept?, Expr.node, absent]

theorem outcome_reduceNode_binary
    (operation : BinaryOperation)
    (left right : Expr) :
    outcome (reduceNode stack (room + 1) (binary node operation left right)) workspace =
      outcome
        (reduceNode stack room left >>= fun first =>
          reduceNode stack room right >>= fun second =>
            finish stack room node (.binary operation first second))
        workspace := by
  rw [reduceNode, outcome_bind, outcome_kept?, Expr.node, absent]

end NotKept

/-- A reduction has no room, finds a result that is kept, or goes through the node. -/
theorem ensures_reduceNode
    {expression : Expr}
    {holds : Except Error Multivector → Workspace → Prop}
    (zero : room = 0 → holds (.error .nestedTooDeeply) workspace)
    (kept :
      ∀ result, workspace.results.lookup expression.node = some result →
        0 < room → holds (.ok result) workspace)
    (step :
      ∀ less, room = less + 1 → workspace.results.lookup expression.node = none →
        Ensures (reduceNode stack (less + 1) expression) workspace holds) :
    Ensures (reduceNode stack room expression) workspace holds := by
  cases room with
  | zero =>
      unfold Ensures
      rw [outcome_reduceNode_zero]
      exact zero rfl
  | succ less =>
      cases found : workspace.results.lookup expression.node with
      | none => exact step less rfl found
      | some result =>
          unfold Ensures
          rw [outcome_reduceNode_of_kept stack less found]
          exact kept result found less.succ_pos

theorem limits_finish
    (node : Nat)
    (work : Work) :
    Ensures (finish stack room node work) workspace fun _ behind =>
      behind.limits = workspace.limits := by
  unfold Ensures
  rw [outcome_finish]
  split
  · rfl
  · cases work.run <;> rfl

/-- A reduction does not change the limits that it takes place within. -/
theorem limits_reduceNode
    (stack : Stack)
    (room : Nat)
    (expression : Expr)
    (workspace : Workspace) :
    Ensures (reduceNode stack room expression) workspace fun _ behind =>
      behind.limits = workspace.limits := by
  induction expression generalizing room workspace with
  | bind node binding =>
      refine ensures_reduceNode (fun _ => rfl) (fun _ _ _ => rfl) ?_
      intro less _ (absent : workspace.results.lookup node = none)
      exact Ensures.congr (outcome_reduceNode_bind absent _) (limits_finish ..)
  | constant node value =>
      refine ensures_reduceNode (fun _ => rfl) (fun _ _ _ => rfl) ?_
      intro less _ (absent : workspace.results.lookup node = none)
      exact Ensures.congr (outcome_reduceNode_constant absent _) (limits_finish ..)
  | unary node operation operand inductionHypothesis =>
      refine ensures_reduceNode (fun _ => rfl) (fun _ _ _ => rfl) ?_
      intro less _ (absent : workspace.results.lookup node = none)
      apply Ensures.congr (outcome_reduceNode_unary absent _ _)
      apply Ensures.bind (inductionHypothesis less workspace)
      · exact fun _ _ same => (limits_finish ..).trans same
      · exact fun _ _ same => same
  | binary node operation left right leftHypothesis rightHypothesis =>
      refine ensures_reduceNode (fun _ => rfl) (fun _ _ _ => rfl) ?_
      intro less _ (absent : workspace.results.lookup node = none)
      apply Ensures.congr (outcome_reduceNode_binary absent _ _ _)
      apply Ensures.bind (leftHypothesis less workspace)
      · intro _ between sameBetween
        apply Ensures.bind (rightHypothesis less between)
        · exact fun _ _ same => (limits_finish ..).trans (same.trans sameBetween)
        · exact fun _ _ same => same.trans sameBetween
      · exact fun _ _ same => same

end Step

/-! ## What a reduction comes to -/

section Spec

variable
  {graph : Set Expr}
  {stack : Stack}
  {room : Nat}
  {expression : Expr}
  {workspace before : Workspace}
  (member : expression ∈ graph)

include member

/-- Without room nothing happens, and a result that is kept is right. -/
theorem ensures_reduced
    (sound : workspace.Sound graph)
    (step :
      ∀ less, workspace.keeps expression.node = false →
        workspace.results.lookup expression.node = none →
          Ensures (reduceNode stack (less + 1) expression) workspace
            (Reduced graph stack (less + 1) expression workspace)) :
    Ensures (reduceNode stack room expression) workspace
      (Reduced graph stack room expression workspace) := by
  apply ensures_reduceNode
  · intro none
    exact .of_error sound (.refl _) (.inr ⟨rfl, none ▸ Nat.not_lt_zero _⟩)
  · intro result found _
    exact
      { sound := sound
        more := .refl _
        evaluated := .inl (sound.kept expression member result found).symm
        finished := fun _ _ => by simp [Workspace.keeps, found] }
  · rintro less rfl absent
    exact step less (by simp [Workspace.keeps, absent]) absent

/-- Work that evaluates a node whose operands are done gives its result, if there is room. -/
theorem ensures_finish
    {work : Work}
    (sound : before.Sound graph)
    (more : workspace.KeepsMore before)
    (operandsKept : ∀ operand ∈ expression.operands, before.keeps operand.node = true)
    (right : work.run = expression.evaluate) :
    Ensures (finish stack room expression.node work) before
      (Reduced graph stack (room + 1) expression workspace) := by
  unfold Ensures
  rw [outcome_finish]
  split
  · next few =>
    have needs := stack.needs_le work.plain
    exact .of_error sound more (.inr ⟨rfl, by omega⟩)
  · cases ran : work.run with
    | ok value =>
        have evaluated : expression.evaluate = .ok value := right.symm.trans ran
        exact
          { sound := sound.withResult member evaluated operandsKept
            more := more.trans (sound.keepsMore_withResult member evaluated)
            evaluated := .inl evaluated.symm
            finished := fun _ _ => before.keeps_withResult expression.node value }
    | error error => exact .of_error sound more (.inl (ran.symm.trans right))

end Spec

/--
Reducing a member of a graph in a workspace that is sound for it gives what
evaluating it gives, and can only fail to do so for lack of room.
-/
theorem reduceNode_spec
    {graph : Set Expr}
    {expression : Expr}
    (member : expression ∈ graph)
    (stack : Stack)
    (room : Nat)
    {workspace : Workspace}
    (sound : workspace.Sound graph) :
    Ensures (reduceNode stack room expression) workspace
      (Reduced graph stack room expression workspace) := by
  induction expression generalizing room workspace with
  | bind node binding =>
      apply ensures_reduced member sound
      intro less (notKept : workspace.keeps node = false)
        (absent : workspace.results.lookup node = none)
      apply Ensures.congr (outcome_reduceNode_bind absent _)
      exact ensures_finish member sound (.refl workspace) (by simp [operands]) rfl
  | constant node value =>
      apply ensures_reduced member sound
      intro less (notKept : workspace.keeps node = false)
        (absent : workspace.results.lookup node = none)
      apply Ensures.congr (outcome_reduceNode_constant absent _)
      exact ensures_finish member sound (.refl workspace) (by simp [operands]) rfl
  | unary node operation operand inductionHypothesis =>
      have operandMember := sound.isGraph.operands _ member operand (.head _)
      apply ensures_reduced member sound
      intro less (notKept : workspace.keeps node = false)
        (absent : workspace.results.lookup node = none)
      apply Ensures.congr (outcome_reduceNode_unary absent _ _)
      apply Ensures.bind (inductionHypothesis operandMember less sound)
      · intro value behind reduced
        apply ensures_finish member reduced.sound reduced.more
        · exact List.forall_mem_singleton.2 (reduced.finished value rfl)
        · rw [evaluate, ← reduced.eq_evaluate]
          rfl
      · intro error behind reduced
        refine .of_error reduced.sound reduced.more ?_
        rw [heightAbove_unary notKept, evaluate]
        rcases reduced.evaluated with right | ⟨tooDeep, higher⟩
        · exact .inl (by rw [← right]; rfl)
        · exact .inr ⟨Except.error.inj tooDeep, by omega⟩
  | binary node operation left right leftHypothesis rightHypothesis =>
      have leftMember := sound.isGraph.operands _ member left (.head _)
      have rightMember := sound.isGraph.operands _ member right (.tail _ (.head _))
      apply ensures_reduced member sound
      intro less (notKept : workspace.keeps node = false)
        (absent : workspace.results.lookup node = none)
      apply Ensures.congr (outcome_reduceNode_binary absent _ _ _)
      apply Ensures.bind (leftHypothesis leftMember less sound)
      · intro first between leftReduced
        apply Ensures.bind (rightHypothesis rightMember less leftReduced.sound)
        · intro second behind rightReduced
          have more := leftReduced.more.trans rightReduced.more
          apply ensures_finish member rightReduced.sound more
          · exact
              List.forall_mem_cons.2
                ⟨rightReduced.more.keeps (leftReduced.finished first rfl),
                  List.forall_mem_singleton.2 (rightReduced.finished second rfl)⟩
          · rw [evaluate, ← leftReduced.eq_evaluate, ← rightReduced.eq_evaluate]
            rfl
        · intro error behind reduced
          refine .of_error reduced.sound (leftReduced.more.trans reduced.more) ?_
          rw [heightAbove_binary notKept, evaluate, ← leftReduced.eq_evaluate]
          rcases reduced.evaluated with right | ⟨tooDeep, higher⟩
          · exact .inl (by rw [← right]; rfl)
          · have lower := leftReduced.more.heightAbove_le right
            exact .inr ⟨Except.error.inj tooDeep, by omega⟩
      · intro error behind reduced
        refine .of_error reduced.sound reduced.more ?_
        rw [heightAbove_binary notKept, evaluate]
        rcases reduced.evaluated with right | ⟨tooDeep, higher⟩
        · exact .inl (by rw [← right]; rfl)
        · exact .inr ⟨Except.error.inj tooDeep, by omega⟩

theorem outcome_reduceUnchecked
    (expression : Expr)
    (workspace : Workspace) :
    outcome expression.reduceUnchecked workspace =
      outcome
        (expression.reduceNode workspace.limits.stack workspace.limits.stack.room) workspace :=
  rfl

/-- What a reduction comes to on the stack that is left. -/
theorem reduceUnchecked_spec
    {graph : Set Expr}
    {expression : Expr}
    (member : expression ∈ graph)
    {workspace : Workspace}
    (sound : workspace.Sound graph) :
    Ensures (reduceUnchecked expression) workspace
      (Reduced graph workspace.limits.stack workspace.limits.stack.room expression workspace) :=
  reduceNode_spec member workspace.limits.stack workspace.limits.stack.room sound

/-! ## Reduction with a check of the bindings -/

theorem outcome_reduce_false
    (widths : Nat → Except Error Nat)
    (expression : Expr)
    (workspace : Workspace) :
    outcome (expression.reduce widths false) workspace =
      outcome (expression.reduceUnchecked) workspace :=
  rfl

/-- A check of bindings comes before reduction, and does not change how that goes on. -/
theorem outcome_reduce_true
    (widths : Nat → Except Error Nat)
    (expression : Expr)
    (workspace : Workspace) :
    outcome (expression.reduce widths true) workspace =
      match expression.checkBindings widths with
      | .ok _ => outcome (expression.reduce widths false) workspace
      | .error error => (.error error, workspace) := by
  have unfolded :
      expression.reduce widths true =
        Build.ofExcept (expression.checkBindings widths) >>= fun _ =>
          expression.reduceUnchecked :=
    rfl
  rw [unfolded, outcome_bind, outcome_ofExcept]
  cases expression.checkBindings widths <;> rfl

/-- A check of bindings leaves the workspace as it is, so what is behind reduction stays so. -/
theorem reduce_behind
    {holds : Workspace → Prop}
    {expression : Expr}
    {workspace : Workspace}
    (before : holds workspace)
    (behind : holds (outcome (expression.reduceUnchecked) workspace).2)
    (widths : Nat → Except Error Nat)
    (validate : Bool) :
    holds (outcome (expression.reduce widths validate) workspace).2 := by
  cases validate with
  | false => exact behind
  | true =>
      rw [outcome_reduce_true]
      cases expression.checkBindings widths with
      | error error => exact before
      | ok => exact behind

theorem limits_reduce
    (widths : Nat → Except Error Nat)
    (validate : Bool)
    (expression : Expr)
    (workspace : Workspace) :
    (outcome (expression.reduce widths validate) workspace).2.limits = workspace.limits :=
  @reduce_behind (fun behind => behind.limits = workspace.limits) expression workspace rfl
    (limits_reduceNode _ _ expression workspace) widths validate

/-- A reduction that gives a result gives it without a check of the bindings, too. -/
theorem outcome_reduceUnchecked_of_reduce
    {widths : Nat → Except Error Nat}
    {validate : Bool}
    {expression : Expr}
    {workspace behind : Workspace}
    {value : Multivector}
    (reduced : outcome (expression.reduce widths validate) workspace = (.ok value, behind)) :
    outcome expression.reduceUnchecked workspace = (.ok value, behind) := by
  cases validate with
  | false => exact reduced
  | true =>
      rw [outcome_reduce_true] at reduced
      split at reduced
      · exact reduced
      · cases reduced

/-- A check of bindings that passes makes no difference. -/
theorem reduce_of_checked
    {widths : Nat → Except Error Nat}
    {expression : Expr}
    (checked : expression.checkBindings widths = .ok ())
    (validate : Bool) :
    expression.reduce widths validate = expression.reduceUnchecked := by
  cases validate with
  | false => rfl
  | true =>
      simp only [reduce, checked]
      rfl

end Expr

/-- A reduction leaves a sound workspace behind, whether it gives a result or fails. -/
theorem Workspace.Sound.reduce
    {graph : Set Expr}
    {workspace : Workspace}
    (sound : workspace.Sound graph)
    {expression : Expr}
    (member : expression ∈ graph)
    (widths : Nat → Except Error Nat)
    (validate : Bool) :
    (Build.outcome (expression.reduce widths validate) workspace).2.Sound graph :=
  @Expr.reduce_behind (fun reached => reached.Sound graph) _ _ sound
    (Expr.Reduced.sound (Expr.reduceUnchecked_spec member sound)) widths validate

end Versor
