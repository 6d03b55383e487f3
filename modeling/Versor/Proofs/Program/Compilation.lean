import Versor.Proofs.Expression.Soundness
import Versor.Proofs.Program.Meaning
import Versor.Proofs.Program.Tree

/-!
# Compilation is correct

A program that a function is compiled to computes the expression which the
function returns, in the geometric algebra of the metric, at every index of
the batch (`build_computes`).  Functions may use arguments, numbers and
constants of the algebra of their arguments.  Arithmetic is exact, and the
one thing that can come in between is a stack that does not hold the
operations inside one another; no stack holds those of all functions
(`build_refuses_negating`).
-/

noncomputable section

namespace Versor

open Build

/-! ## The meaning of a function's result -/

/-- The element that an entity stands for at an index of the batch. -/
def Entity.elementAt
    (entity : Entity ℚ)
    (index : List Nat) :
    Reference.Element ℚ :=
  entity.layout.valueAt fun slot =>
    entity.storage.get (Tensor.stretchIndex entity.batchShape index ++ [slot])

/-- The element that a bound entity stands for at an index of the batch. -/
def Binding.elementAt
    (entities : List (Entity ℚ))
    (index : List Nat)
    (binding : Binding) :
    Reference.Element ℚ :=
  match entities.find? fun entity => entity.identity == binding.entity with
  | some entity => entity.elementAt index
  | none => 0

/-- What a result holds on a blade: blades that a program leaves out have none. -/
def Program.coefficientAt
    (program : Program ℚ)
    (result : Tensor ℚ)
    (index : List Nat)
    (blade : Blade) :
    ℚ :=
  if blade ∈ program.blades then result.get (index ++ [program.blades.idxOf blade]) else 0

/-- A result holds the meaning of an expression at every index of the batch. -/
structure Program.Computes
    (program : Program ℚ)
    (metric : Metric)
    (expression : Expr)
    (entities : List (Entity ℚ))
    (batch : List Nat)
    (result : Tensor ℚ) :
    Prop where
  shape : result.shape = batch ++ [program.blades.length]
  coefficients :
    ∀ index ∈ Tensor.indices batch, ∀ blade,
      program.coefficientAt result index blade =
        expression.interpret metric (Binding.elementAt entities index)
          (Blade.vectors blade)

/-- Constants of an algebra, as the validating constructor makes them of exact numbers. -/
def SpelledMultivector.IsConstantOf
    (algebra : Algebra)
    (value : SpelledMultivector) :
    Prop :=
  value.value.InRange ∧ value.isExact = true ∧ value.value.algebra.Agrees algebra

/-- Numbers and constants of an algebra, captured ones among them. -/
def Vocabulary.constantsOf
    (algebra : Algebra)
    (graph : Set Expr) :
    Vocabulary where
  layout _ := False
  algebra other := other.Agrees algebra
  constant := SpelledMultivector.IsConstantOf algebra
  expression value :=
    value ∈ graph ∧ value.WellFormed ∧ value.AllLeaves (fun _ => False) ∧
      value.algebra.Agrees algebra

/-- Entities of an algebra with storage of the width of their layout. -/
structure Entity.IsOf
    (algebra : Algebra)
    (entity : Entity ℚ) :
    Prop where
  agrees : entity.algebra.Agrees algebra
  inRange : entity.layout.InRange
  width : entity.storage.shape.getLast? = some entity.layout.width

/-- The structures of entities whose storage has the width of their layout. -/
def signaturesOf
    (entities : List (Entity ℚ)) :
    List Signature :=
  entities.map fun entity => ⟨entity.layout, entity.layout.width⟩

/-- Where the entities of a function are placed. -/
def placed
    (entities : List (Entity ℚ)) :
    List (Placement ℚ) :=
  placements 0 (entities.zip (signaturesOf entities))

/-- Well-formed expressions of an algebra over the arguments of a function. -/
structure Expr.IsOver
    (entities : List (Entity ℚ))
    (algebra : Algebra)
    (expression : Expr) :
    Prop where
  wellFormed : expression.WellFormed
  leaves :
    expression.AllLeaves fun binding =>
      ∃ placement ∈ placed entities, binding = placement.binding
  agrees : expression.algebra.Agrees algebra

section Entities

variable
  {algebra : Algebra}
  {entities : List (Entity ℚ)}
  (areOf : ∀ entity ∈ entities, entity.IsOf algebra)

include areOf

theorem signed_signaturesOf :
    Signed entities (signaturesOf entities) := by
  refine List.forall₂_map_right_iff.2 (List.forall₂_same.2 fun entity member => ?_)
  simp [Entity.signature, Entity.width, (areOf entity member).width, bind, Except.bind]

omit areOf in
theorem mem_placed
    {placement : Placement ℚ}
    (member : placement ∈ placed entities) :
    placement.entity ∈ entities ∧
      placement.signature = ⟨placement.entity.layout, placement.entity.layout.width⟩ := by
  have pair := mem_of_mem_placements placement member
  rw [signaturesOf, ← List.map_prod_left_eq_zip] at pair
  rcases List.mem_map.1 pair with ⟨entity, inEntities, same⟩
  rcases Prod.mk.inj same with ⟨sameEntity, sameSignature⟩
  rw [← sameEntity, ← sameSignature]
  exact ⟨inEntities, rfl⟩

omit areOf in
theorem map_entity_placed :
    (placed entities).map Placement.entity = entities := by
  rw [placed, map_entity_placements, signaturesOf, List.map_fst_zip (by simp)]

/-- The arguments of a function are placed entities of the algebra. -/
theorem isOf_placed
    {placement : Placement ℚ}
    (member : placement ∈ placed entities) :
    placement.IsOf algebra where
  agrees := (areOf _ (mem_placed member).1).agrees
  signature := (mem_placed member).2
  width := (areOf _ (mem_placed member).1).width

omit areOf in
/-- Numbers, constants and operators keep to well-formed expressions of the algebra. -/
theorem persistent_isOver :
    Expr.Persistent (Expr.IsOver entities algebra) (fun other => other.Agrees algebra)
      (SpelledMultivector.IsConstantOf algebra) where
  algebra expression isOver := isOver.agrees
  multiple other value blade spelling agrees below := by
    refine ⟨Multivector.inRange_ofEntries fun entry member => ?_, rfl, agrees⟩
    rw [List.mem_singleton.1 member]
    exact below
  constant node value isConstantOf isConstant :=
    ⟨⟨isConstantOf.1, isConstant, isConstantOf.2.1⟩, trivial, isConstantOf.2.2⟩
  unary node operation operand _ isOver := ⟨isOver.wellFormed, isOver.leaves, isOver.agrees⟩
  binary node operation left right leftIsOver rightIsOver agree :=
    ⟨⟨leftIsOver.wellFormed, rightIsOver.wellFormed, agree⟩,
      ⟨leftIsOver.leaves, rightIsOver.leaves⟩, leftIsOver.agrees⟩

omit areOf in
theorem elementAt_binding
    (identified : Identified entities)
    {placement : Placement ℚ}
    (member : placement ∈ placed entities)
    (index : List Nat) :
    placement.binding.elementAt entities index = placement.entity.elementAt index := by
  unfold Binding.elementAt
  have found := identified.find? (mem_placed member).1
  simp only [Placement.binding, found]

/-- A program made of what an expression evaluates to computes the expression. -/
theorem exists_computes
    (identified : Identified entities)
    {batch : List Nat}
    (broadcast : Tensor.commonShape (entities.map Entity.batchShape) = .ok batch)
    {expression : Expr}
    (isOver : expression.IsOver entities algebra)
    {value : Multivector}
    (evaluated : expression.evaluate = .ok value)
    (identity : Nat)
    (spelling : ElementSpelling)
    (standard : ElementType) :
    let program :=
      Program.exactly identity value spelling ((placed entities).map Placement.input)
    ∃ result, program.run standard entities = .ok result ∧
      program.Computes algebra.metric expression entities batch result := by
  intro program
  have shapes :
      (placed entities).map (fun placement => placement.entity.batchShape) =
        entities.map Entity.batchShape := by
    calc (placed entities).map (fun placement => placement.entity.batchShape)
        = ((placed entities).map Placement.entity).map Entity.batchShape := by
          rw [List.map_map]
          rfl
      _ = entities.map Entity.batchShape := by rw [map_entity_placed]
  have binds :
      expression.AllLeaves fun binding =>
        ∃ placement ∈ placed entities, placement.Binds (Binding.elementAt entities) binding := by
    apply isOver.leaves.mono
    rintro _ ⟨placement, member, rfl⟩
    exact ⟨placement, member, rfl, rfl, elementAt_binding identified member⟩
  have disjoint : (placed entities).Pairwise Placement.Disjoint :=
    (placements_pairwise 0 _).imp Or.inl
  rcases
      Program.exists_run_exactly (fun _ member => isOf_placed areOf member) disjoint
        (shapes ▸ broadcast) isOver.wellFormed isOver.agrees binds evaluated identity spelling
        standard with
    ⟨result, ran, shape, meaning⟩
  rw [map_entity_placed] at ran
  refine ⟨result, ran, shape, fun index member blade => ?_⟩
  rw [← meaning index (Tensor.mem_indices.1 member), Program.coefficientAt]
  have distinct : value.blades.Nodup := value.blades_sortedLT.nodup
  split
  · next inBlades =>
    have below : value.blades.idxOf blade < value.blades.length :=
      List.idxOf_lt_length_of_mem inBlades
    have coefficient :
        program.layout.valueAt (fun slot => result.get (index ++ [slot]))
            (Blade.vectors value.blades[value.blades.idxOf blade]) =
          result.get (index ++ [value.blades.idxOf blade]) :=
      Layout.valueAt_generic_getElem _ distinct below
    rw [List.getElem_idxOf] at coefficient
    exact coefficient.symm
  · next absent => exact (Layout.valueAt_generic_of_not_mem _ absent).symm

end Entities

/-! ## Compilation -/

/-- The expressions that a function over constants of an algebra returns are over its arguments. -/
theorem Function.isOver_of_tree
    {function : Function}
    {algebra : Algebra}
    {entities : List (Entity ℚ)}
    (areOf : ∀ entity ∈ entities, entity.IsOf algebra)
    {graph : Set Expr}
    {workspace : Workspace}
    (sound : workspace.Sound graph)
    (within : function.body.Within (.constantsOf algebra graph)) :
    Ensures (function.tree entities) workspace fun result behind =>
      ∃ larger,
        Grown entities (signaturesOf entities) (Expr.IsOver entities algebra) graph workspace
          result behind larger := by
  have signed := signed_signaturesOf areOf
  have isOver_bind :
      ∀ placement ∈ placed entities, ∀ node,
        Expr.IsOver entities algebra (.bind node placement.binding) := by
    intro placement member node
    have isOf := areOf _ (mem_placed member).1
    exact ⟨isOf.inRange, ⟨placement, member, rfl⟩, isOf.agrees⟩
  have captured :
      ∀ value, (Vocabulary.constantsOf algebra graph).expression value →
        value ∈ graph ∧ Expr.IsOver entities algebra value := by
    rintro value ⟨member, wellFormed, closed, agrees⟩
    exact ⟨member, wellFormed, closed.mono fun _ impossible => impossible.elim, agrees⟩
  have occurs :
      ∀ other ∈ entities.head?.map Entity.algebra, other.Agrees algebra := by
    intro other head
    rcases Option.mem_map.1 head with ⟨entity, isHead, rfl⟩
    exact (areOf entity (List.mem_of_mem_head? isHead)).agrees
  exact
    tree_spec persistent_isOver (fun _ impossible => False.elim impossible)
      (fun value isConstantOf => isConstantOf) captured within occurs signed isOver_bind sound

/--
Compiling a function over constants of an algebra for entities of the algebra
gives a program that computes the expression which the function returns, with
or without a check of the bindings, unless the stack does not hold the
operations inside one another and the compilation stops there.
-/
theorem Function.build_computes
    {function : Function}
    {algebra : Algebra}
    {entities : List (Entity ℚ)}
    (areOf : ∀ entity ∈ entities, entity.IsOf algebra)
    (identified : Identified entities)
    {batch : List Nat}
    (broadcast : Tensor.commonShape (entities.map Entity.batchShape) = .ok batch)
    {graph : Set Expr}
    {workspace : Workspace}
    (sound : workspace.Sound graph)
    (within : function.body.Within (.constantsOf algebra graph))
    {arguments : Function.Arguments}
    {expression : Expr}
    {between : Workspace}
    (returned :
      outcome (function.tree entities) workspace = (.ok (arguments, expression), between))
    (validate : Bool)
    (standard : ElementType) :
    (∃ program behind result,
      outcome (function.build entities validate) workspace = (.ok program, behind) ∧
        program.run standard entities = .ok result ∧
        program.Computes algebra.metric expression entities batch result) ∨
      ¬workspace.limits.stack.Holds (expression.heightAbove between.keeps) ∧
        ∃ behind,
          outcome (function.build entities validate : Build (Program ℚ)) workspace =
            (.error .nestedTooDeeply, behind) := by
  have grown := isOver_of_tree areOf sound within
  unfold Ensures at grown
  rw [returned] at grown
  rcases grown with ⟨larger, grown⟩
  rcases grown.built arguments expression rfl with ⟨sameArguments, member, isOver⟩
  have built :
      outcome (function.build entities validate : Build (Program ℚ)) workspace =
        outcome
          (expression.reduceUnchecked >>= fun value =>
            Program.ofReduced expression value ((placed entities).map Placement.input))
          between := by
    rw [build_eq, outcome_bind, returned, sameArguments]
    dsimp only
    have own := Expr.forall_mem_leaves isOver.leaves
    rw [finish_eq function identified (signed_signaturesOf areOf) validate _ own]
    rfl
  rw [built, outcome_bind, ← grown.limits]
  rcases Expr.outcome_reduceUnchecked_cases grown.sound member isOver.wellFormed with
    ⟨value, behind, reduced, evaluated⟩ | ⟨higher, behind, stopped⟩
  · rcases
        exists_computes areOf identified broadcast isOver evaluated behind.free
          (expression.spelling behind.results) standard with
      ⟨storage, ran, computes⟩
    rw [reduced]
    refine .inl ⟨_, behind.advanced, storage, ?_, ran, computes⟩
    exact
      (Program.outcome_ofReduced expression value _ behind).trans
        (congrArg (Prod.mk · behind.advanced) (Program.ofMultivector_eq_ok _ _ _ _))
  · rw [stopped]
    exact .inr ⟨higher, behind, rfl⟩

/-- A batch of two scalars. -/
def scalars : Entity ℚ :=
  ⟨0, .scalar .projective, ⟨.float64, [2, 1], #[2, 3]⟩⟩

theorem isOf_scalars :
    ∀ entity ∈ [scalars], entity.IsOf .projective := by
  intro entity member
  rw [List.mem_singleton.1 member]
  exact ⟨rfl, Layout.inRange_of_kind (show Kind.scalar ≠ Kind.generic by decide), rfl⟩

theorem identified_scalars :
    Identified [scalars] := by
  intro entity member other otherMember _
  rw [List.mem_singleton.1 member, List.mem_singleton.1 otherMember]

/-- The geometric product of the argument with itself. -/
def squaring : Function :=
  ⟨.custom 0, "square", true, .binary .multiply (.argument 0) (.argument 0)⟩

theorem build_computes_squaring :
    let square := Expr.binary 2 .geometric (Expr.scalarLeaf 1 0) (Expr.scalarLeaf 1 0)
    ∃ program behind result,
      outcome (squaring.build [scalars] true) ⟨1, [], .usual⟩ = (.ok program, behind) ∧
        program.run .float64 [scalars] = .ok result ∧
        program.Computes Algebra.projective.metric square [scalars] [2] result := by
  intro square
  have returned :
      outcome (squaring.tree [scalars]) ⟨1, [], .usual⟩ =
        (.ok (argumentsOf 1 (placed [scalars]), square), ⟨3, [], .usual⟩) :=
    rfl
  have within : squaring.body.Within (.constantsOf .projective ∅) := ⟨trivial, trivial⟩
  rcases
    Function.build_computes isOf_scalars identified_scalars rfl
      (Workspace.sound_empty 1 .usual) within returned true .float64 with
    computed | ⟨higher, _⟩
  · exact computed
  · exact absurd (by decide : Limits.usual.stack.Holds 1) higher

/-! ## Deep results -/

/-- The argument with its sign changed a number of times. -/
def Formula.negations : Nat → Formula
  | 0 => .argument 0
  | count + 1 => .unary .negate (negations count)

/-- A function that changes the sign of its argument a number of times. -/
def negating
    (count : Nat) :
    Function :=
  ⟨.custom 1, "negate", true, Formula.negations count⟩

theorem outcome_instantiate_negations
    (leaf : Expr)
    (count : Nat)
    (workspace : Workspace) :
    outcome ((Formula.negations count).instantiate [leaf] []) workspace =
      (.ok (.expression (Expr.negations leaf workspace.free count)),
        workspace.advancedBy count) := by
  induction count with
  | zero => rfl
  | succ count inductionHypothesis =>
      rw [Formula.negations, Formula.instantiate, outcome_bind, inductionHypothesis]
      rfl

theorem outcome_tree_negating
    (count : Nat)
    (limits : Limits) :
    outcome ((negating count).tree [scalars]) ⟨1, [], limits⟩ =
      (.ok (argumentsOf 1 (placed [scalars]),
          Expr.negations (Expr.scalarLeaf 1 0) 2 count),
        ⟨2 + count, [], limits⟩) := by
  have bound :
      outcome (Function.bindAll (Function.algebraOf [scalars]) 0 [scalars]) ⟨1, [], limits⟩ =
        (.ok (argumentsOf 1 (placed [scalars])), ⟨2, [], limits⟩) :=
    rfl
  have instantiated :=
    outcome_instantiate_negations (Expr.scalarLeaf 1 0) count ⟨2, [], limits⟩
  rw [Function.tree, outcome_bind, bound]
  change
    outcome
      ((Formula.negations count).instantiate [Expr.scalarLeaf 1 0] [] >>= fun result => _) _ = _
  rw [outcome_bind, instantiated]
  rfl

theorem leaves_negations
    {holds : Binding → Prop}
    {operand : Expr}
    (leaves : operand.AllLeaves holds)
    (first count : Nat) :
    (Expr.negations operand first count).AllLeaves holds := by
  induction count with
  | zero => exact leaves
  | succ count inductionHypothesis => exact inductionHypothesis

/-- On no stack are all the functions compiled that change a sign again and again. -/
theorem build_refuses_negating :
    (∀ limits : Limits, ∀ count, ∃ arguments expression between,
        outcome ((negating count).tree [scalars]) ⟨1, [], limits⟩ =
          (.ok (arguments, expression), between)) ∧
      ∀ limits : Limits, ∃ count,
        (outcome ((negating count).build [scalars] true : Build (Program ℚ))
            ⟨1, [], limits⟩).1 =
          .error .nestedTooDeeply := by
  have own :
      (Expr.scalarLeaf 1 0).AllLeaves fun binding =>
        ∃ placement ∈ placed [scalars], binding = placement.binding :=
    ⟨⟨scalars, ⟨.scalar .projective, 1⟩, 0⟩, List.mem_singleton_self _, rfl⟩
  refine
    ⟨fun limits count => ⟨_, _, _, outcome_tree_negating count limits⟩,
      fun limits => ⟨limits.stack.room, ?_⟩⟩
  have finished :=
    Function.finish_eq (negating limits.stack.room) identified_scalars
      (signed_signaturesOf isOf_scalars) true 1
        (Expr.forall_mem_leaves (leaves_negations own 2 limits.stack.room))
  rw [Function.build_eq, outcome_bind, outcome_tree_negating]
  dsimp only
  rw [placed, finished, outcome_bind, Expr.outcome_reduceUnchecked,
    Expr.outcome_reduceNode_negations rfl _ _ limits.stack le_rfl]

end Versor
end
