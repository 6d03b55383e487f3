import Versor.Proofs.Expression.Overlap
import Versor.Proofs.Expression.Parts
import Versor.Proofs.Expression.Soundness
import Versor.Proofs.Expression.Vocabulary

/-!
# Expressions that callers build

A caller builds leaves, combines expressions that are there already and reduces some of
them on the way (`Action`); one that fails leaves the expressions as they were.
Whatever the actions, each expression is over one algebra, its constants have no
indeterminates and its grade parts are of grades of the algebra (`Expr.IsBuilt`), which
every action keeps (`Store.IsSound.step`).

That is what reduction needs: on every stack it fails for no other reason than that the
stack does not hold the operations inside one another, and with a check of the bindings if
that finds an overlap (`Store.reduces_after`).
-/

namespace Versor

open Build Correspondence

namespace Expr

/-! ## What constructors and operators make -/

/-- Parts are only taken of grades that occur in the algebra. -/
def GradesInside : Expr → Prop
  | .bind _ _ | .constant _ _ => True
  | .unary _ operation operand => operation.IsFor operand.algebra ∧ operand.GradesInside
  | .binary _ _ left right => left.GradesInside ∧ right.GradesInside

/-- Expressions as the constructors and the operators make them. -/
structure IsBuilt
    (expression : Expr) :
    Prop where
  wellFormed : expression.WellFormed
  gradesInside : expression.GradesInside

/-- All nodes are over one algebra, and constants and grades are what they have to be there. -/
structure IsUniform
    (expression : Expr) :
    Prop where
  algebras : ∀ part ∈ expression.parts, part.algebra.Agrees expression.algebra
  constants :
    ∀ node value, .constant node value ∈ expression.parts → value.value.isConstant = true
  grades :
    ∀ node grade operand, .unary node (.grade grade) operand ∈ expression.parts →
      0 ≤ grade ∧ grade ≤ (expression.algebra.dimension : Rat)

theorem IsBuilt.of_mem_operands
    {expression operand : Expr}
    (built : expression.IsBuilt)
    (isOperand : operand ∈ expression.operands) :
    operand.IsBuilt ∧ operand.algebra.Agrees expression.algebra := by
  rcases built with ⟨wellFormed, gradesInside⟩
  cases expression with
  | bind | constant => cases isOperand
  | unary node operation inner =>
      cases List.mem_singleton.1 isOperand
      exact ⟨⟨wellFormed, gradesInside.2⟩, rfl⟩
  | binary node operation left right =>
      rcases List.mem_cons.1 isOperand with rfl | isRight
      · exact ⟨⟨wellFormed.1, gradesInside.1⟩, rfl⟩
      · cases List.mem_singleton.1 isRight
        exact ⟨⟨wellFormed.2.1, gradesInside.2⟩, wellFormed.2.2.symm⟩

/-- Parts of a built expression are built, over the algebra of the whole. -/
theorem IsBuilt.part
    {expression part : Expr}
    (built : expression.IsBuilt)
    (isPart : part ∈ expression.parts) :
    part.IsBuilt ∧ part.algebra.Agrees expression.algebra := by
  rcases mem_parts_iff.1 isPart with rfl | ⟨operand, isOperand, inOperand⟩
  · exact ⟨built, rfl⟩
  · have smaller := sizeOf_lt_of_mem_operands isOperand
    have operandBuilt := built.of_mem_operands isOperand
    have partBuilt := operandBuilt.1.part inOperand
    exact ⟨partBuilt.1, partBuilt.2.trans operandBuilt.2⟩
termination_by sizeOf expression

theorem IsBuilt.isUniform
    {expression : Expr}
    (built : expression.IsBuilt) :
    expression.IsUniform where
  algebras part isPart := (built.part isPart).2
  constants node value isPart := (built.part isPart).1.wellFormed.2.1
  grades node grade operand isPart := by
    rcases built.part isPart with ⟨partBuilt, agrees⟩
    have inside : 0 ≤ grade ∧ grade ≤ (operand.algebra.dimension : Rat) :=
      partBuilt.gradesInside.1
    rwa [show operand.algebra.dimension = expression.algebra.dimension from
      agrees.dimension_eq] at inside

end Expr

/-- A multivector that a constant is made of: it is in range, and nothing in it is a double. -/
structure SpelledMultivector.IsAdmitted
    (value : SpelledMultivector) :
    Prop where
  inRange : value.value.InRange
  isExact : value.isExact = true

/-- Numbers, constants and operators keep to expressions as they are built. -/
theorem Expr.persistent_isBuilt :
    Expr.Persistent Expr.IsBuilt (fun _ => True) SpelledMultivector.IsAdmitted where
  algebra _ _ := trivial
  multiple algebra value blade spelling _ below := by
    refine ⟨Multivector.inRange_ofEntries ?_, rfl⟩
    intro entry member
    rw [List.mem_singleton.1 member]
    exact below
  constant node value admitted isConstant :=
    ⟨⟨admitted.inRange, isConstant, admitted.isExact⟩, trivial⟩
  unary node operation operand isFor built := ⟨built.wellFormed, isFor, built.gradesInside⟩
  binary node operation left right leftBuilt rightBuilt agree :=
    ⟨⟨leftBuilt.wellFormed, rightBuilt.wellFormed, agree⟩,
      leftBuilt.gradesInside, rightBuilt.gradesInside⟩

/--
What formulas may refer to so that expressions are built: entities with blades of their
algebra, valid multivectors of exact numbers, and expressions that exist and are built.
-/
def Vocabulary.built
    (graph : Set Expr) :
    Vocabulary where
  layout := Layout.InRange
  algebra _ := True
  constant value := value.value.Valid ∧ value.isExact = true
  expression value := value ∈ graph ∧ value.IsBuilt

theorem Formula.Within.admitted_built
    {graph : Set Expr}
    {formula : Formula}
    (within : formula.Within (.built graph)) :
    formula.Admitted (growth graph Expr.persistent_isBuilt) :=
  within.admitted_growth (fun _ inRange _ _ _ => ⟨inRange, trivial⟩)
    (fun _ constant => ⟨constant.1.inRange, constant.2⟩) fun _ existing => existing

/-! ## Steps of a caller -/

/-- The expressions that a caller has, and the workspace that they were built in. -/
structure Store where
  expressions : List Expr
  workspace : Workspace

/--
What a caller does next: build an expression from those at hand by a constructor, an
operator or several of them, or reduce the expression at a place within the limits that
are left there.
-/
inductive Action
  | build (formula : Formula)
  | reduce (place : Nat) (validate : Bool) (limits : Limits)

namespace Store

variable (widths : Nat → Except Error Nat)

/-- The store behind an action; one that fails adds no expression. -/
def step
    (store : Store) :
    Action → Store
  | .build formula =>
      let reached := outcome (formula.instantiate store.expressions []) store.workspace
      match reached.1 with
      | .ok (.expression built) => ⟨store.expressions ++ [built], reached.2⟩
      | _ => ⟨store.expressions, reached.2⟩
  | .reduce place validate limits =>
      match store.expressions[place]? with
      | some expression =>
          ⟨store.expressions,
            (outcome (expression.reduce widths validate) (store.workspace.under limits)).2⟩
      | none => store

/-- The store behind several actions. -/
def after
    (store : Store)
    (actions : List Action) :
    Store :=
  actions.foldl (step widths) store

/-- The store of a caller that has built nothing yet. -/
def empty
    (free : Nat)
    (limits : Limits) :
    Store :=
  ⟨[], ⟨free, [], limits⟩⟩

/-- The expressions are built, side by side in a graph for which the workspace is right. -/
def IsSound
    (store : Store) :
    Prop :=
  ∃ graph, store.workspace.Sound graph ∧
    ∀ expression ∈ store.expressions, expression ∈ graph ∧ expression.IsBuilt

end Store

/-- An action that refers to nothing but the expressions at hand. -/
def Action.IsOwn : Action → Prop
  | .build formula => formula.Within (.built ∅)
  | .reduce _ _ _ => True

namespace Store

variable {widths : Nat → Except Error Nat} {store : Store}

theorem isSound_empty
    (free : Nat)
    (limits : Limits) :
    (empty free limits).IsSound :=
  ⟨∅, Workspace.sound_empty free limits, by simp [empty]⟩

/-- Building keeps a store sound, whether it comes to an expression, to something else or fails. -/
theorem IsSound.step_build
    (sound : store.IsSound)
    {formula : Formula}
    (within : formula.Within (.built ∅)) :
    (store.step widths (.build formula)).IsSound := by
  rcases sound with ⟨graph, workspaceSound, areBuilt⟩
  let stage : Stage ∅ := ⟨store.workspace, graph, workspaceSound, Set.empty_subset graph⟩
  have related :
      List.Forall₂ ((growth ∅ Expr.persistent_isBuilt).Related stage) store.expressions
        store.expressions :=
    List.forall₂_same.2 fun expression member => ⟨rfl, areBuilt expression member⟩
  rcases Formula.instantiate_simulates within.admitted_built related .nil with
    ⟨behind, before, reached, follows⟩
  have behindSound :
      (outcome (formula.instantiate store.expressions []) store.workspace).2.Sound
        behind.graph :=
    reached ▸ behind.sound
  have kept :
      ∀ expression ∈ store.expressions, expression ∈ behind.graph ∧ expression.IsBuilt := by
    intro expression member
    rcases areBuilt expression member with ⟨inGraph, built⟩
    exact ⟨before.graph inGraph, built⟩
  unfold step
  dsimp only
  split
  · next built found =>
    rcases follows _ found with ⟨other, _, holds⟩
    cases holds with
    | expression added =>
        refine ⟨behind.graph, behindSound, ?_⟩
        intro expression member
        rcases List.mem_append.1 member with before | isLast
        · exact kept expression before
        · cases List.mem_singleton.1 isLast
          exact added.2
  · exact ⟨behind.graph, behindSound, kept⟩

/-- Reducing keeps a store sound, whether it gives a result or not. -/
theorem IsSound.step_reduce
    (sound : store.IsSound)
    (place : Nat)
    (validate : Bool)
    (limits : Limits) :
    (store.step widths (.reduce place validate limits)).IsSound := by
  rcases sound with ⟨graph, workspaceSound, areBuilt⟩
  unfold step
  dsimp only
  split
  · next expression found =>
    have member := (areBuilt expression (List.mem_of_getElem? found)).1
    exact ⟨graph, (workspaceSound.under limits).reduce member widths validate, areBuilt⟩
  · exact ⟨graph, workspaceSound, areBuilt⟩

theorem IsSound.step
    (sound : store.IsSound)
    {action : Action}
    (isOwn : action.IsOwn) :
    (store.step widths action).IsSound := by
  cases action with
  | build formula => exact sound.step_build isOwn
  | reduce place validate limits => exact sound.step_reduce place validate limits

/-- Every store that actions lead to is sound, by what each of them does. -/
theorem IsSound.after
    (sound : store.IsSound)
    {actions : List Action}
    (areOwn : ∀ action ∈ actions, action.IsOwn) :
    (store.after widths actions).IsSound := by
  induction actions generalizing store with
  | nil => exact sound
  | cons action rest inductionHypothesis =>
      rcases List.forall_mem_cons.1 areOwn with ⟨isOwn, others⟩
      exact inductionHypothesis (sound.step isOwn) others

end Store

/-! ## Reducing what has been built -/

namespace Expr

theorem AllLeaves.part
    {holds : Binding → Prop}
    {expression part : Expr}
    (leaves : expression.AllLeaves holds)
    (isPart : part ∈ expression.parts) :
    part.AllLeaves holds := by
  induction expression with
  | bind | constant =>
      cases List.mem_singleton.1 isPart
      exact leaves
  | unary node operation operand inductionHypothesis =>
      rcases List.mem_cons.1 isPart with rfl | inOperand
      · exact leaves
      · exact inductionHypothesis leaves inOperand
  | binary node operation left right leftHypothesis rightHypothesis =>
      rcases List.mem_cons.1 isPart with rfl | below
      · exact leaves
      · rcases List.mem_append.1 below with inLeft | inRight
        · exact leftHypothesis leaves.1 inLeft
        · exact rightHypothesis leaves.2 inRight

/-- The bound entities have slots to be counted, as their constructors leave them. -/
def IsSized
    (widths : Nat → Except Error Nat)
    (expression : Expr) :
    Prop :=
  expression.AllLeaves fun binding => ∃ width, widths binding.entity = .ok width

/-- Where the entities have slots, the check of the bindings fails for an overlap only. -/
theorem IsSized.kind_of_checkBindings
    {widths : Nat → Except Error Nat}
    {expression : Expr}
    (sized : expression.IsSized widths)
    {error : Error}
    (refused : expression.checkBindings widths = .error error) :
    error.kind = .bindingOverlap := by
  have each :
      ∀ binding ∈ distinctBindings expression.leaves,
        ∃ range, rangeOf widths expression.leaves binding = .ok range ∧ True := by
    intro binding member
    have isLeaf := (distinctBindings_spec expression.leaves).1 binding member
    rcases forall_mem_leaves sized binding isLeaf with ⟨width, found⟩
    have ranged : ∃ range, rangeOf widths expression.leaves binding = .ok range := by
      rw [rangeOf, found]
      exact ⟨_, rfl⟩
    exact ranged.imp fun _ isRange => ⟨isRange, trivial⟩
  rcases exists_mapM_eq_ok each with ⟨ranges, collected, _⟩
  have ordered := idRanges_of_mapM collected
  rcases search : findOverlap? (ranges.foldr insertRange []) with _ | ⟨first, second⟩
  · rw [checkBindings_of_findOverlap?_eq_none ordered search] at refused
    cases refused
  · rw [checkBindings_of_findOverlap?_eq_some ordered search] at refused
    cases refused
    rfl

/-- What reducing an expression comes to, and what all of its parts evaluate to on the way. -/
structure Reduces
    (widths : Nat → Except Error Nat)
    (workspace : Workspace)
    (expression : Expr) :
    Prop where
  /-- Without a check there is a result, or the stack does not hold the operations. -/
  unchecked :
    (∃ value behind,
        outcome (expression.reduce widths false) workspace = (.ok value, behind) ∧
          expression.ReducesTo value) ∨
      ¬workspace.limits.stack.Holds (expression.heightAbove workspace.keeps) ∧
        ∃ behind,
          outcome (expression.reduce widths false) workspace =
            (.error .nestedTooDeeply, behind)
  /-- With a check there is the same, unless the check fails. -/
  checked :
    outcome (expression.reduce widths true) workspace =
      match expression.checkBindings widths with
      | .ok _ => outcome (expression.reduce widths false) workspace
      | .error error => (.error error, workspace)
  overlap :
    expression.IsSized widths →
      ∀ error, expression.checkBindings widths = .error error → error.kind = .bindingOverlap
  /-- What parts evaluate to is accepted by the checks of a multivector. -/
  valid :
    ∀ part ∈ expression.parts, ∃ value, part.evaluate = .ok value ∧ value.IsValidCanonical

theorem IsBuilt.reduces
    {expression : Expr}
    (built : expression.IsBuilt)
    {graph : Set Expr}
    (member : expression ∈ graph)
    {workspace : Workspace}
    (sound : workspace.Sound graph)
    (widths : Nat → Except Error Nat) :
    expression.Reduces widths workspace := by
  rcases reduce_sound sound member built.wellFormed widths with ⟨unchecked, checked⟩
  refine
    { unchecked := unchecked
      checked := checked
      overlap := fun sized _ refused => sized.kind_of_checkBindings refused
      valid := ?_ }
  intro part isPart
  rcases exists_evaluate (built.part isPart).1.wellFormed with ⟨value, evaluated, denotes⟩
  exact ⟨value, evaluated, denotes.isValidCanonical⟩

end Expr

/--
Whatever a caller has built by constructors and operators, with steps that failed and
reductions on the way, is over one algebra with constants and grades as they have to be,
and within all limits it reduces: nothing but a stack that does not hold its operations
comes in between, and with a check of the bindings an overlap that is found.
-/
theorem Store.reduces_after
    {widths : Nat → Except Error Nat}
    {free : Nat}
    {before : Limits}
    {actions : List Action}
    (areOwn : ∀ action ∈ actions, action.IsOwn)
    {expression : Expr}
    (member : expression ∈ ((empty free before).after widths actions).expressions)
    (limits : Limits) :
    expression.IsUniform ∧
      expression.Reduces widths
        (((empty free before).after widths actions).workspace.under limits) := by
  rcases (isSound_empty free before).after areOwn with ⟨graph, sound, areBuilt⟩
  rcases areBuilt expression member with ⟨inGraph, built⟩
  exact ⟨built.isUniform, built.reduces inGraph (sound.under limits) widths⟩

/-- Bind a scalar, which is the first thing to do. -/
def Action.bindScalar : Action :=
  .build (.leaf (.bind 0 (.scalar .projective) (.integer 0)))

/-- A number on the left, a grade that does not occur, a reduction, and a number on the right. -/
theorem Store.reduces_after_mixedSteps :
    let actions : List Action :=
      [.bindScalar,
        .build (.binary .subtract (.number (.integer 1)) (.argument 0)),
        .build (.unary (.grade (.integer 5)) (.argument 1)),
        .reduce 1 true .usual,
        .build (.binary .vee (.unary .dual (.argument 1)) (.number (.integer 2)))]
    let store := (empty 0 .usual).after (fun _ => .ok 1) actions
    (∀ action ∈ actions, action.IsOwn) ∧
      ∃ expression ∈ store.expressions,
        expression.kindName = "regressive" ∧ expression.IsSized (fun _ => .ok 1) ∧
          expression.IsUniform ∧
            expression.Reduces (fun _ => .ok 1) (store.workspace.under .usual) := by
  intro actions store
  have scalars : Layout.InRange (.scalar .projective) :=
    Layout.inRange_of_kind (show Kind.scalar ≠ Kind.generic by decide)
  have areOwn : ∀ action ∈ actions, action.IsOwn := by
    simp [actions, Action.bindScalar, Action.IsOwn, Formula.Within, LeafForm.Within,
      Vocabulary.built, scalars]
  have kinds :
      store.expressions.map Expr.kindName = ["bind", "difference", "regressive"] := by
    decide +kernel
  have present : "regressive" ∈ store.expressions.map Expr.kindName := by simp [kinds]
  rcases List.mem_map.1 present with ⟨expression, member, kind⟩
  have sized : expression.IsSized fun _ => .ok 1 :=
    expression.allLeaves_hasLeaf.mono fun _ _ => ⟨1, rfl⟩
  exact ⟨areOwn, expression, member, kind, sized, reduces_after areOwn member .usual⟩

/-! ## Expressions that do not reduce -/

/-- Change the sign of the expression that was built last. -/
def Action.negateLast : Action :=
  .build (.unary .negate (.argument (-1)))

theorem Store.step_negateLast
    (widths : Nat → Except Error Nat)
    (others : List Expr)
    (last : Expr)
    (workspace : Workspace) :
    step widths ⟨others ++ [last], workspace⟩ .negateLast =
      ⟨others ++ [last] ++ [.unary workspace.free .negate last], workspace.advanced⟩ := by
  have found : memberAt (others ++ [last]) (-1) = .ok last := by
    refine memberAt_eq_ok.2 ⟨others.length, ?_, by simp⟩
    simp [placeAmong]
  have instantiated :
      outcome
          ((Formula.unary .negate (.argument (-1))).instantiate (others ++ [last]) [])
          workspace =
        (.ok (.expression (.unary workspace.free .negate last)), workspace.advanced) := by
    simp only [Formula.instantiate, outcome_bind, outcome_ofExcept, found]
    rfl
  unfold step Action.negateLast
  simp only [instantiated]

/-- Changing signs again and again puts that many operations inside one another. -/
theorem Store.after_negateLast
    (widths : Nat → Except Error Nat)
    (operand : Expr)
    (others : List Expr)
    (limits : Limits)
    (first more count : Nat) :
    ∃ before,
      after widths
          ⟨others ++ [.negations operand first more], ⟨first + more, [], limits⟩⟩
          (List.replicate count .negateLast) =
        ⟨before ++ [.negations operand first (more + count)],
          ⟨first + (more + count), [], limits⟩⟩ := by
  induction count generalizing others more with
  | zero => exact ⟨others, rfl⟩
  | succ count inductionHypothesis =>
      rw [List.replicate_succ, after, List.foldl_cons, step_negateLast, ← Nat.succ_add_eq_add_succ]
      exact inductionHypothesis (others ++ [.negations operand first more]) (more + 1)

/-- Bind a scalar and change its sign a number of times. -/
def Action.negating
    (count : Nat) :
    List Action :=
  .bindScalar :: List.replicate count .negateLast

theorem Action.isOwn_negating
    (count : Nat) :
    ∀ action ∈ negating count, action.IsOwn := by
  intro action member
  rcases List.mem_cons.1 member with rfl | inRest
  · exact Layout.inRange_of_kind (show Kind.scalar ≠ Kind.generic by decide)
  · cases List.eq_of_mem_replicate inRest
    trivial

theorem Store.after_negating
    (widths : Nat → Except Error Nat)
    (limits : Limits)
    (count : Nat) :
    ∃ before,
      (empty 0 limits).after widths (Action.negating count) =
        ⟨before ++ [.negations (.scalarLeaf 0 0) 1 count], ⟨1 + count, [], limits⟩⟩ := by
  have bound :
      step widths (empty 0 limits) .bindScalar =
        ⟨[] ++ [.negations (.scalarLeaf 0 0) 1 0], ⟨1 + 0, [], limits⟩⟩ :=
    rfl
  rcases after_negateLast widths (.scalarLeaf 0 0) [] limits 1 0 count with ⟨before, reached⟩
  rw [Nat.zero_add] at reached
  refine ⟨before, ?_⟩
  rw [Action.negating, after, List.foldl_cons, bound]
  exact reached

/-- On no stack can a caller reduce everything that may be built on it. -/
theorem Store.refuses_negations :
    ¬∃ limits : Limits, ∀ actions : List Action,
        (∀ action ∈ actions, action.IsOwn) →
          ∀ expression ∈ ((empty 0 limits).after (fun _ => .ok 1) actions).expressions,
            (outcome (expression.reduce (fun _ => .ok 1) false)
                ((empty 0 limits).after (fun _ => .ok 1) actions).workspace).1 ≠
              .error .nestedTooDeeply := by
  rintro ⟨limits, reduces⟩
  rcases after_negating (fun _ => .ok 1) limits limits.stack.room with ⟨before, reached⟩
  refine
    reduces (Action.negating limits.stack.room) (Action.isOwn_negating _)
      (.negations (.scalarLeaf 0 0) 1 limits.stack.room) ?_ ?_
  · rw [reached]
    simp
  · rw [reached, Expr.outcome_reduce_false, Expr.outcome_reduceUnchecked]
    exact
      congrArg Prod.fst
        (Expr.outcome_reduceNode_negations rfl (.scalarLeaf 0 0) 1 limits.stack le_rfl)

end Versor
