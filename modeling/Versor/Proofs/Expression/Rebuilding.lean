import Versor.Expression.Spelling
import Versor.Proofs.Expression.Parts

/-!
# Expressions built anew

Fresh nodes of an expression have other numbers, and no results are kept for
them.  What an expression means, which leaves it has and how its results are
spelled does not depend on the numbers.  So kept results make no difference to
a reduction, as long as the fresh nodes leave room for one
(`reduce_rebuilt`): where it gives a result or refuses the operands of an
operation, a reduction that finds results does the same.
-/

namespace Versor
namespace Expr

/-- An expression on other nodes, which are shared where its nodes are. -/
def rebuilt
    (number : Nat → Nat) :
    Expr → Expr
  | .bind node binding => .bind (number node) binding
  | .constant node value => .constant (number node) value
  | .unary node operation operand => .unary (number node) operation (operand.rebuilt number)
  | .binary node operation left right =>
      .binary (number node) operation (left.rebuilt number) (right.rebuilt number)

variable (number : Nat → Nat)

@[simp]
theorem node_rebuilt
    (expression : Expr) :
    (expression.rebuilt number).node = number expression.node := by
  cases expression <;> rfl

theorem operands_rebuilt
    (expression : Expr) :
    (expression.rebuilt number).operands = expression.operands.map (rebuilt number) := by
  cases expression <;> rfl

theorem parts_rebuilt
    (expression : Expr) :
    (expression.rebuilt number).parts = expression.parts.map (rebuilt number) := by
  induction expression with
  | bind | constant => rfl
  | unary node operation operand inductionHypothesis =>
      rw [rebuilt, parts, parts, List.map_cons, inductionHypothesis, rebuilt]
  | binary node operation left right leftHypothesis rightHypothesis =>
      rw [rebuilt, parts, parts, List.map_cons, List.map_append, leftHypothesis,
        rightHypothesis, rebuilt]

theorem evaluate_rebuilt
    (expression : Expr) :
    (expression.rebuilt number).evaluate = expression.evaluate := by
  induction expression with
  | bind | constant => rfl
  | unary node operation operand inductionHypothesis =>
      rw [rebuilt, evaluate, evaluate, inductionHypothesis]
  | binary node operation left right leftHypothesis rightHypothesis =>
      rw [rebuilt, evaluate, evaluate, leftHypothesis, rightHypothesis]

theorem heightAbove_rebuilt
    (kept : Nat → Bool)
    (expression : Expr) :
    (expression.rebuilt number).heightAbove kept =
      expression.heightAbove fun node => kept (number node) := by
  induction expression with
  | bind | constant => rfl
  | unary node operation operand inductionHypothesis =>
      rw [rebuilt, heightAbove, heightAbove, inductionHypothesis]
  | binary node operation left right leftHypothesis rightHypothesis =>
      rw [rebuilt, heightAbove, heightAbove, leftHypothesis, rightHypothesis]

/-- The leaf at the new number of its node. -/
def Leaf.rebuilt
    (leaf : Leaf) :
    Leaf :=
  ⟨number leaf.node, leaf.binding⟩

theorem leaf?_rebuilt
    (expression : Expr) :
    (expression.rebuilt number).leaf? = expression.leaf?.map (Leaf.rebuilt number) := by
  cases expression <;> rfl

/-- A traversal that is as far on its way, on the new nodes. -/
def Traversal.rebuilt
    (traversal : Traversal) :
    Traversal :=
  ⟨traversal.pending.map (Expr.rebuilt number), traversal.entered.map number,
    traversal.found.map (Leaf.rebuilt number)⟩

variable {number} (injective : Function.Injective number)

include injective

/-! ## Leaves -/

theorem Traversal.step_rebuilt
    (traversal : Traversal) :
    (traversal.rebuilt number).step = traversal.step.rebuilt number := by
  rcases traversal with ⟨_ | ⟨next, rest⟩, entered, found⟩
  · rfl
  · have contains :
        (entered.map number).contains (next.rebuilt number).node =
          entered.contains next.node := by
      rw [node_rebuilt, Bool.eq_iff_iff, List.contains_iff_mem, List.contains_iff_mem,
        List.mem_map_of_injective injective]
    simp only [step, rebuilt, List.map_cons, contains]
    split
    · rfl
    · cases isLeaf : next.leaf? <;> simp [operands_rebuilt, leaf?_rebuilt, isLeaf]

/-- A traversal enters the new nodes as it enters the old ones, and finds the same leaves. -/
theorem Traversal.run_rebuilt
    (traversal : Traversal) :
    (traversal.rebuilt number).run = traversal.run.rebuilt number := by
  fun_induction run traversal with
  | case1 traversal ends =>
      rw [run, if_pos (by simpa [rebuilt] using ends)]
  | case2 traversal goesOn inductionHypothesis =>
      rw [run, if_neg (by simpa [rebuilt] using goesOn), step_rebuilt injective,
        inductionHypothesis]

theorem leaves_rebuilt
    (expression : Expr) :
    (expression.rebuilt number).leaves = expression.leaves := by
  have started :
      Traversal.start (expression.rebuilt number) =
        (Traversal.start expression).rebuilt number := rfl
  rw [leaves, leaves, leafNodes, leafNodes, started, Traversal.run_rebuilt injective]
  simp [Traversal.rebuilt, Leaf.rebuilt]

/-- The check of the bindings looks at leaves only. -/
theorem checkBindings_rebuilt
    (widths : Nat → Except Error Nat)
    (expression : Expr) :
    (expression.rebuilt number).checkBindings widths = expression.checkBindings widths := by
  rw [checkBindings, checkBindings, idRanges, idRanges, leaves_rebuilt injective]

/-! ## Spellings -/

omit injective in
theorem results_spell
    (state : Spelled)
    (expression : Expr) :
    (spell state expression).results = state.results := by
  induction expression generalizing state with
  | bind | constant =>
      rw [spell]
      split <;> rfl
  | unary node operation operand inductionHypothesis =>
      rw [spell]
      split
      · rfl
      · exact inductionHypothesis state
  | binary node operation left right leftHypothesis rightHypothesis =>
      rw [spell]
      split
      · rfl
      · exact (rightHypothesis _).trans (leftHypothesis state)

/-- The spellings found for the old nodes are those found for the new ones. -/
def SpelledAlike
    (number : Nat → Nat)
    (state other : Spelled) :
    Prop :=
  ∀ node, other.spellings.lookup (number node) = state.spellings.lookup node

theorem SpelledAlike.add
    {state other : Spelled}
    (alike : SpelledAlike number state other)
    (node : Nat)
    (spelling : ElementSpelling) :
    SpelledAlike number (state.add node spelling) (other.add (number node) spelling) := by
  intro place
  have same : (number place == number node) = (place == node) := by
    rw [Bool.eq_iff_iff, beq_iff_eq, beq_iff_eq, injective.eq_iff]
  rw [Spelled.add, Spelled.add, List.lookup_cons, List.lookup_cons, same, alike place]

section Alike

omit injective

variable {state other : Spelled} (alike : SpelledAlike number state other)

include alike

theorem SpelledAlike.isPlainAt_eq
    (node : Nat) :
    other.isPlainAt (number node) = state.isPlainAt node := by
  rw [Spelled.isPlainAt, Spelled.isPlainAt, Spelled.spellingAt, Spelled.spellingAt, alike]

theorem SpelledAlike.resultAt_eq
    {node : Nat}
    (results : other.results.lookup (number node) = state.results.lookup node) :
    other.resultAt (number node) = state.resultAt node := by
  rw [Spelled.resultAt, Spelled.resultAt, Spelled.spellingAt, Spelled.spellingAt, alike, results]

theorem SpelledAlike.unary_eq
    {operand : Nat}
    (results : other.results.lookup (number operand) = state.results.lookup operand)
    (operation : UnaryOperation) :
    other.unary operation (number operand) = state.unary operation operand := by
  rw [Spelled.unary, Spelled.unary, alike.isPlainAt_eq, alike.resultAt_eq results]

theorem SpelledAlike.binary_eq
    {left right : Nat}
    (leftResults : other.results.lookup (number left) = state.results.lookup left)
    (rightResults : other.results.lookup (number right) = state.results.lookup right)
    (operation : BinaryOperation) :
    other.binary operation (number left) (number right) = state.binary operation left right := by
  rw [Spelled.binary, Spelled.binary, alike.isPlainAt_eq, alike.isPlainAt_eq,
    alike.resultAt_eq leftResults, alike.resultAt_eq rightResults]

end Alike

/-- Where the results of all parts agree, their spellings do. -/
theorem spell_rebuilt
    {state other : Spelled}
    {expression : Expr}
    (alike : SpelledAlike number state other)
    (results :
      ∀ part ∈ expression.parts,
        other.results.lookup (number part.node) = state.results.lookup part.node) :
    SpelledAlike number (spell state expression) (spell other (expression.rebuilt number)) := by
  induction expression generalizing state other with
  | bind node binding =>
      rw [rebuilt, spell, spell, Expr.node, Expr.node, alike]
      split
      · exact alike
      · exact alike.add injective _ _
  | constant node value =>
      rw [rebuilt, spell, spell, Expr.node, Expr.node, alike]
      split
      · exact alike
      · exact alike.add injective _ _
  | unary node operation operand inductionHypothesis =>
      rw [rebuilt, spell, spell, Expr.node, Expr.node, alike]
      have operandResults (part : Expr) (isPart : part ∈ operand.parts) :=
        results part (List.mem_cons_of_mem _ isPart)
      split
      · exact alike
      · have spelled := inductionHypothesis alike operandResults
        dsimp only
        rw [node_rebuilt, spelled.unary_eq]
        · exact spelled.add injective _ _
        · rw [results_spell, results_spell]
          exact operandResults operand operand.self_mem_parts
  | binary node operation left right leftHypothesis rightHypothesis =>
      rw [rebuilt, spell, spell, Expr.node, Expr.node, alike]
      have leftResults (part : Expr) (isPart : part ∈ left.parts) :=
        results part (List.mem_cons_of_mem _ (List.mem_append_left _ isPart))
      have rightResults (part : Expr) (isPart : part ∈ right.parts) :=
        results part (List.mem_cons_of_mem _ (List.mem_append_right _ isPart))
      split
      · exact alike
      · have leftSpelled := leftHypothesis alike leftResults
        have spelled : SpelledAlike number (spell (spell state left) right)
            (spell (spell other (left.rebuilt number)) (right.rebuilt number)) := by
          apply rightHypothesis leftSpelled
          rw [results_spell, results_spell]
          exact rightResults
        dsimp only
        rw [node_rebuilt, node_rebuilt, spelled.binary_eq]
        · exact spelled.add injective _ _
        · simp only [results_spell]
          exact leftResults left left.self_mem_parts
        · simp only [results_spell]
          exact rightResults right right.self_mem_parts

theorem spelling_rebuilt
    {results otherResults : List (Nat × Multivector)}
    {expression : Expr}
    (same :
      ∀ part ∈ expression.parts,
        otherResults.lookup (number part.node) = results.lookup part.node) :
    (expression.rebuilt number).spelling otherResults = expression.spelling results := by
  have nothing : SpelledAlike number ⟨results, []⟩ ⟨otherResults, []⟩ := fun _ => rfl
  have spelled := spell_rebuilt injective nothing same expression.node
  rw [spelling, spelling, Spelled.spellingAt, Spelled.spellingAt, node_rebuilt, spelled]

end Expr

/-! ## Fresh nodes -/

/-- The graph on other nodes. -/
theorem IsGraph.rebuilt
    {graph : Set Expr}
    (isGraph : IsGraph graph)
    {number : Nat → Nat}
    (injective : Function.Injective number) :
    IsGraph (Expr.rebuilt number '' graph) where
  operands := by
    rintro _ ⟨expression, member, rfl⟩ operand isOperand
    rw [Expr.operands_rebuilt, List.mem_map] at isOperand
    rcases isOperand with ⟨inner, isInner, rfl⟩
    exact ⟨inner, isGraph.operands expression member inner isInner, rfl⟩
  distinct := by
    rintro _ ⟨expression, member, rfl⟩ _ ⟨other, otherMember, rfl⟩ same
    rw [Expr.node_rebuilt, Expr.node_rebuilt] at same
    rw [isGraph.distinct expression member other otherMember (injective same)]

namespace Workspace

/-- A graph has been built in a workspace anew, under other numbers, and nothing was reduced. -/
structure HasFresh
    (workspace : Workspace)
    (graph : Set Expr)
    (number : Nat → Nat) :
    Prop where
  injective : Function.Injective number
  below : ∀ expression ∈ graph, number expression.node < workspace.free
  absent : ∀ expression ∈ graph, workspace.keeps (number expression.node) = false
  unused : ∀ node, workspace.free ≤ node → workspace.results.lookup node = none

theorem HasFresh.under
    {workspace : Workspace}
    {graph : Set Expr}
    {number : Nat → Nat}
    (fresh : workspace.HasFresh graph number)
    (limits : Limits) :
    (workspace.under limits).HasFresh graph number :=
  ⟨fresh.injective, fresh.below, fresh.absent, fresh.unused⟩

theorem HasFresh.sound
    {workspace : Workspace}
    {graph : Set Expr}
    {number : Nat → Nat}
    (fresh : workspace.HasFresh graph number)
    (isGraph : IsGraph graph) :
    workspace.Sound (Expr.rebuilt number '' graph) where
  isGraph := isGraph.rebuilt fresh.injective
  below := by
    rintro _ ⟨expression, member, rfl⟩
    rw [Expr.node_rebuilt]
    exact fresh.below expression member
  kept := by
    rintro _ ⟨expression, member, rfl⟩ result found
    have absent := fresh.absent expression member
    rw [Expr.node_rebuilt] at found
    rw [keeps, found] at absent
    cases absent
  closed := by
    rintro _ ⟨expression, member, rfl⟩ kept
    have absent := fresh.absent expression member
    rw [Expr.node_rebuilt, absent] at kept
    cases kept
  unused := fresh.unused

/-- The nodes of a graph can be built anew in the same workspace, under the next numbers. -/
theorem Sound.hasFresh
    {workspace : Workspace}
    {graph : Set Expr}
    (sound : workspace.Sound graph) :
    ({ workspace with free := workspace.free + workspace.free } : Workspace).HasFresh graph
      (· + workspace.free) where
  injective := add_left_injective workspace.free
  below expression member := Nat.add_lt_add_right (sound.below expression member) _
  absent expression _ := by
    simp [keeps, sound.unused _ (Nat.le_add_left workspace.free expression.node)]
  unused node taken := sound.unused node ((Nat.le_add_left _ _).trans taken)

/-- What is kept for new nodes is kept for the old ones. -/
def Covers
    (workspace : Workspace)
    (graph : Set Expr)
    (number : Nat → Nat)
    (fresh : Workspace) :
    Prop :=
  ∀ expression ∈ graph,
    fresh.keeps (number expression.node) = true → workspace.keeps expression.node = true

end Workspace

namespace Expr

open Build

/-- The results are the same, unless fresh nodes lack room, which says something of them. -/
def FollowsFresh
    {Result : Type}
    (isDeep : Prop)
    (fresh result : Except Error Result) :
    Prop :=
  isDeep ∧ fresh = .error .nestedTooDeeply ∨ result = fresh

/-- A step after which fresh nodes are followed may go on with any that follows them. -/
theorem FollowsFresh.bind
    {Result Next : Type}
    {isDeep : Prop}
    {step freshStep : Build Result}
    {next freshNext : Result → Build Next}
    {workspace fresh : Workspace}
    (steps : FollowsFresh isDeep (outcome freshStep fresh).1 (outcome step workspace).1)
    (nexts :
      ∀ value behind freshBehind,
        outcome step workspace = (.ok value, behind) →
        outcome freshStep fresh = (.ok value, freshBehind) →
          FollowsFresh isDeep (outcome (freshNext value) freshBehind).1
            (outcome (next value) behind).1) :
    FollowsFresh isDeep (outcome (freshStep >>= freshNext) fresh).1
      (outcome (step >>= next) workspace).1 := by
  rw [outcome_bind, outcome_bind]
  generalize outcome freshStep fresh = freshReached at steps nexts ⊢
  generalize outcome step workspace = reached at steps nexts ⊢
  rcases freshReached with ⟨freshResult, freshBehind⟩
  rcases reached with ⟨result, behind⟩
  rcases steps with ⟨deep, tooDeep⟩ | same
  · cases tooDeep
    exact .inl ⟨deep, rfl⟩
  · cases same
    cases freshResult with
    | error error => exact .inr rfl
    | ok value => exact nexts value behind freshBehind rfl rfl

/-- The work at a node comes to the same at another node. -/
theorem followsFresh_finish
    (isDeep : Prop)
    (stack : Stack)
    (room node other : Nat)
    (work : Work)
    (workspace fresh : Workspace) :
    FollowsFresh isDeep (outcome (finish stack room other work) fresh).1
      (outcome (finish stack room node work) workspace).1 := by
  rw [outcome_finish, outcome_finish]
  split
  · exact .inr rfl
  · cases work.run <;> exact .inr rfl

section Fresh

variable
  {graph : Set Expr}
  {number : Nat → Nat}
  (injective : Function.Injective number)
  {workspace fresh : Workspace}
  (sound : workspace.Sound graph)
  (freshSound : fresh.Sound (rebuilt number '' graph))
  (covers : workspace.Covers graph number fresh)

include sound freshSound

/-- A result that is kept is the one that is found on fresh nodes, if they leave room for it. -/
theorem followsFresh_of_keeps
    {expression : Expr}
    (member : expression ∈ graph)
    (kept : workspace.keeps expression.node = true)
    (stack : Stack)
    (room : Nat) :
    FollowsFresh True
      (outcome ((expression.rebuilt number).reduceNode stack (room + 1)) fresh).1
      (outcome (expression.reduceNode stack (room + 1)) workspace).1 := by
  rcases Option.isSome_iff_exists.1 kept with ⟨value, found⟩
  have evaluated := sound.kept expression member value found
  have copied := Set.mem_image_of_mem (rebuilt number) member
  have again := reduceNode_spec copied stack (room + 1) freshSound
  rcases Reduced.evaluated again with right | ⟨tooDeep, _⟩
  · rw [evaluate_rebuilt, evaluated] at right
    rw [outcome_reduceNode_of_kept stack room found]
    exact .inr right.symm
  · exact .inl ⟨trivial, tooDeep⟩

include injective covers

/-- Behind a reduction that gives a result, that and the results of its parts are kept. -/
theorem covers_of_reduceNode
    {expression : Expr}
    (member : expression ∈ graph)
    {stack : Stack}
    {room : Nat}
    {value : Multivector}
    {behind freshBehind : Workspace}
    {result : Except Error Multivector}
    (reached : outcome (expression.reduceNode stack room) workspace = (.ok value, behind))
    (freshReached :
      outcome ((expression.rebuilt number).reduceNode stack room) fresh = (result, freshBehind)) :
    behind.Covers graph number freshBehind := by
  have reduced := (reduceNode_spec member stack room sound).of_outcome reached
  have copied := Set.mem_image_of_mem (rebuilt number) member
  have adds :=
    (reduceNode_adds freshSound.isGraph copied stack room fresh).of_outcome freshReached
  intro other otherMember kept
  rcases Workspace.Adds.kept adds _ kept with before | ⟨part, isPart, same⟩
  · exact reduced.more.keeps (covers other otherMember before)
  · rw [parts_rebuilt, List.mem_map] at isPart
    rcases isPart with ⟨old, isOld, rfl⟩
    rw [node_rebuilt] at same
    rw [← injective same]
    exact reduced.sound.keeps_part member (reduced.finished value rfl) isOld

omit injective sound freshSound in
/-- Where no result is kept for an old node, none is found for it or for the new one. -/
theorem lookups_eq_none
    {expression : Expr}
    (member : expression ∈ graph)
    (notKept : ¬ workspace.keeps expression.node = true) :
    workspace.results.lookup expression.node = none ∧
      fresh.results.lookup (number expression.node) = none := by
  constructor
  · exact Option.not_isSome_iff_eq_none.1 notKept
  · exact Option.not_isSome_iff_eq_none.1 fun kept => notKept (covers expression member kept)

omit injective in
/-- What is left to show is about calls that there is room for, at nodes without a result. -/
theorem followsFresh_of_new
    {expression : Expr}
    (member : expression ∈ graph)
    (stack : Stack)
    (room : Nat)
    (new :
      ∀ rest, room = rest + 1 →
        workspace.results.lookup expression.node = none →
        fresh.results.lookup (number expression.node) = none →
          FollowsFresh True (outcome ((expression.rebuilt number).reduceNode stack room) fresh).1
            (outcome (expression.reduceNode stack room) workspace).1) :
    FollowsFresh True (outcome ((expression.rebuilt number).reduceNode stack room) fresh).1
      (outcome (expression.reduceNode stack room) workspace).1 := by
  cases room with
  | zero =>
      rw [outcome_reduceNode_zero, outcome_reduceNode_zero]
      exact .inr rfl
  | succ room =>
      by_cases kept : workspace.keeps expression.node = true
      · exact followsFresh_of_keeps sound freshSound member kept stack room
      · rcases lookups_eq_none covers member kept with ⟨absent, freshAbsent⟩
        exact new room rfl absent freshAbsent

/-- Results that are kept make no difference where fresh nodes leave room. -/
theorem reduceNode_followsFresh
    {expression : Expr}
    (member : expression ∈ graph)
    (stack : Stack)
    (room : Nat) :
    FollowsFresh True (outcome ((expression.rebuilt number).reduceNode stack room) fresh).1
      (outcome (expression.reduceNode stack room) workspace).1 := by
  induction expression generalizing room workspace fresh with
  | bind node binding =>
      apply followsFresh_of_new sound freshSound covers member
      rintro room rfl absent freshAbsent
      rw [Expr.node] at absent freshAbsent
      rw [rebuilt, outcome_reduceNode_bind freshAbsent, outcome_reduceNode_bind absent]
      exact followsFresh_finish ..
  | constant node value =>
      apply followsFresh_of_new sound freshSound covers member
      rintro room rfl absent freshAbsent
      rw [Expr.node] at absent freshAbsent
      rw [rebuilt, outcome_reduceNode_constant freshAbsent, outcome_reduceNode_constant absent]
      exact followsFresh_finish ..
  | unary node operation operand inductionHypothesis =>
      have operandMember := sound.isGraph.operands _ member operand (.head _)
      apply followsFresh_of_new sound freshSound covers member
      rintro room rfl absent freshAbsent
      rw [Expr.node] at absent freshAbsent
      rw [rebuilt, outcome_reduceNode_unary freshAbsent, outcome_reduceNode_unary absent]
      apply (inductionHypothesis sound freshSound covers operandMember room).bind
      intro value behind freshBehind _ _
      exact followsFresh_finish ..
  | binary node operation left right leftHypothesis rightHypothesis =>
      have leftMember := sound.isGraph.operands _ member left (.head _)
      have rightMember := sound.isGraph.operands _ member right (.tail _ (.head _))
      apply followsFresh_of_new sound freshSound covers member
      rintro room rfl absent freshAbsent
      rw [Expr.node] at absent freshAbsent
      rw [rebuilt, outcome_reduceNode_binary freshAbsent, outcome_reduceNode_binary absent]
      apply (leftHypothesis sound freshSound covers leftMember room).bind
      intro first between freshBetween reached freshReached
      have soundBetween :=
        ((reduceNode_spec leftMember stack room sound).of_outcome reached).sound
      have freshBetweenSound :=
        ((reduceNode_spec (Set.mem_image_of_mem _ leftMember) stack room freshSound).of_outcome
          freshReached).sound
      have coversBetween :=
        covers_of_reduceNode injective sound freshSound covers leftMember reached freshReached
      apply (rightHypothesis soundBetween freshBetweenSound coversBetween rightMember room).bind
      intro second behind freshBehind _ _
      exact followsFresh_finish ..

end Fresh

/-! ## Reductions in a workspace with fresh nodes -/

/-- Operations inside one another, where no result is kept. -/
def height
    (expression : Expr) :
    Nat :=
  expression.heightAbove fun _ => false

section HasFresh

variable
  {graph : Set Expr}
  {number : Nat → Nat}
  {workspace fresh : Workspace}
  (sound : workspace.Sound graph)
  (hasFresh : fresh.HasFresh graph number)
  {expression : Expr}
  (member : expression ∈ graph)

include sound hasFresh member

/--
A reduction comes to what it comes to on fresh nodes, unless it lacks room there, which
takes too many operations inside one another.
-/
theorem reduceNode_rebuilt
    (stack : Stack)
    (room : Nat) :
    FollowsFresh (¬expression.height + stack.margin < room)
      (outcome ((expression.rebuilt number).reduceNode stack room) fresh).1
      (outcome (expression.reduceNode stack room) workspace).1 := by
  have freshSound := hasFresh.sound sound.isGraph
  have covers : workspace.Covers graph number fresh := by
    intro other otherMember kept
    rw [hasFresh.absent other otherMember] at kept
    cases kept
  rcases
      reduceNode_followsFresh hasFresh.injective sound freshSound covers member stack room with
    ⟨_, tooDeep⟩ | same
  · by_cases lower : expression.height + stack.margin < room
    -- With room, both results are what the expression evaluates to.
    · have fits (kept : Nat → Bool) : expression.heightAbove kept + stack.margin < room := by
        have notHigher := @heightAbove_anti (fun _ => false) kept (by simp) expression
        exact (Nat.add_le_add_right notHigher _).trans_lt lower
      have copied := Set.mem_image_of_mem (rebuilt number) member
      have reduced := reduceNode_spec member stack room sound
      have again := reduceNode_spec copied stack room freshSound
      rcases Reduced.evaluated reduced with right | ⟨_, above⟩
      · rcases Reduced.evaluated again with freshRight | ⟨_, above⟩
        · rw [evaluate_rebuilt] at freshRight
          exact .inr (right.trans freshRight.symm)
        · rw [heightAbove_rebuilt] at above
          exact absurd (fits _) above
      · exact absurd (fits _) above
    · exact .inl ⟨lower, tooDeep⟩
  · exact .inr same

/-- Reductions that give a result spell it as they do on fresh nodes. -/
theorem spelling_eq_of_reduceNode
    {stack freshStack : Stack}
    {room freshRoom : Nat}
    {value freshValue : Multivector}
    {behind freshBehind : Workspace}
    (reached : outcome (expression.reduceNode stack room) workspace = (.ok value, behind))
    (freshReached :
      outcome ((expression.rebuilt number).reduceNode freshStack freshRoom) fresh =
        (.ok freshValue, freshBehind)) :
    (expression.rebuilt number).spelling freshBehind.results =
      expression.spelling behind.results := by
  have copied := Set.mem_image_of_mem (rebuilt number) member
  have reduced := (reduceNode_spec member stack room sound).of_outcome reached
  have again :=
    (reduceNode_spec copied freshStack freshRoom (hasFresh.sound sound.isGraph)).of_outcome
      freshReached
  apply spelling_rebuilt hasFresh.injective
  intro part isPart
  have partMember := sound.isGraph.part_mem member isPart
  have isCopy : part.rebuilt number ∈ (expression.rebuilt number).parts := by
    rw [parts_rebuilt]
    exact List.mem_map_of_mem isPart
  have kept := reduced.sound.keeps_part member (reduced.finished value rfl) isPart
  have copyKept := again.sound.keeps_part copied (again.finished freshValue rfl) isCopy
  rcases Option.isSome_iff_exists.1 kept with ⟨result, found⟩
  rcases Option.isSome_iff_exists.1 copyKept with ⟨other, otherFound⟩
  have right := reduced.sound.kept part partMember result found
  have otherRight :=
    again.sound.kept _ (Set.mem_image_of_mem (rebuilt number) partMember) other otherFound
  rw [evaluate_rebuilt, right] at otherRight
  rw [node_rebuilt] at otherFound
  rw [found, otherFound, Except.ok.inj otherRight]

/-! ## Reductions with a check of the bindings -/

/-- The check of the bindings comes to the same on fresh nodes, too. -/
theorem reduce_rebuilt
    (sameLimits : fresh.limits = workspace.limits)
    (widths : Nat → Except Error Nat)
    (validate : Bool) :
    FollowsFresh (¬workspace.limits.stack.Holds expression.height)
      (outcome ((expression.rebuilt number).reduce widths validate) fresh).1
      (outcome (expression.reduce widths validate) workspace).1 := by
  have reduced :
      FollowsFresh (¬workspace.limits.stack.Holds expression.height)
        (outcome (expression.rebuilt number).reduceUnchecked fresh).1
        (outcome expression.reduceUnchecked workspace).1 := by
    rw [outcome_reduceUnchecked, outcome_reduceUnchecked, sameLimits]
    exact reduceNode_rebuilt sound hasFresh member workspace.limits.stack _
  cases validate with
  | false => exact reduced
  | true =>
      rw [outcome_reduce_true, outcome_reduce_true, checkBindings_rebuilt hasFresh.injective]
      cases expression.checkBindings widths with
      | ok => exact reduced
      | error error => exact .inr rfl

theorem spelling_eq_of_reduce
    {widths : Nat → Except Error Nat}
    {validate : Bool}
    {value freshValue : Multivector}
    {behind freshBehind : Workspace}
    (reached : outcome (expression.reduce widths validate) workspace = (.ok value, behind))
    (freshReached :
      outcome ((expression.rebuilt number).reduce widths validate) fresh =
        (.ok freshValue, freshBehind)) :
    (expression.rebuilt number).spelling freshBehind.results =
      expression.spelling behind.results := by
  exact
    spelling_eq_of_reduceNode sound hasFresh member (outcome_reduceUnchecked_of_reduce reached)
      (outcome_reduceUnchecked_of_reduce freshReached)

end HasFresh

end Expr
end Versor
