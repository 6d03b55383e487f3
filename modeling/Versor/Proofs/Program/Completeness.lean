import Versor.Proofs.Program.Columns
import Versor.Proofs.Program.Compilation

/-!
# Complete programs run

A program is complete if each of its output slots has a step and the factors
of its steps are slots of its inputs.  On entities that match it, a complete
program runs exactly if its constant terms fit the type of what is computed,
whatever the arithmetic: shapes that stretch to a common batch can be
multiplied and added, and nothing else can fail (`run_of_isComplete`).

The programs that functions over constants are compiled to are complete, for
entities of whichever algebras (`Function.compiledTo_of_build`), and entities
of one algebra match the programs that they are compiled for
(`Function.isComplete_of_build`).
-/

namespace Versor

/-- What succeeds if constants fit a type, and is refused for their size if they do not. -/
inductive RunsIf
    {Result : Type}
    (fits : Prop)
    (holds : Result → Prop) :
    Except Error Result → Prop
  | ran
    {result : Result}
    (areFit : fits)
    (held : holds result) :
    RunsIf fits holds (.ok result)
  | refused (unfit : ¬ fits) : RunsIf fits holds (.error .entryTooLarge)

namespace RunsIf

variable
  {Result Next : Type}
  {fits : Prop}
  {holds : Result → Prop}
  {step : Except Error Result}

theorem congr
    {others : Prop}
    (same : fits ↔ others)
    (runs : RunsIf fits holds step) :
    RunsIf others holds step := by
  cases runs with
  | ran areFit held => exact .ran (same.1 areFit) held
  | refused unfit => exact .refused (mt same.2 unfit)

/-- Steps one after the other need what each of them needs. -/
theorem bind
    {nextFits : Prop}
    {nextHolds : Next → Prop}
    {next : Result → Except Error Next}
    (runs : RunsIf fits holds step)
    (nexts : ∀ result, holds result → RunsIf nextFits nextHolds (next result)) :
    RunsIf (fits ∧ nextFits) nextHolds (step >>= next) := by
  cases runs with
  | refused unfit => exact .refused fun both => unfit both.1
  | @ran result areFit held =>
      have later := nexts result held
      apply later.congr
      exact (and_iff_right areFit).symm

/-- A list of steps needs what its members need. -/
theorem mapM
    {Member : Type}
    {fits : Member → Prop}
    {holds : Member → Result → Prop}
    {step : Member → Except Error Result}
    {members : List Member}
    (each : ∀ member ∈ members, RunsIf (fits member) (holds member) (step member)) :
    RunsIf (∀ member ∈ members, fits member) (List.Forall₂ holds members)
      (members.mapM step) := by
  induction members with
  | nil => exact .ran (by simp) .nil
  | cons member rest inductionHypothesis =>
      rcases List.forall_mem_cons.1 each with ⟨first, others⟩
      rw [List.mapM_cons]
      apply RunsIf.congr List.forall_mem_cons.symm
      apply first.bind
      intro result held
      have later := inductionHypothesis others
      generalize rest.mapM step = results? at later ⊢
      cases later with
      | ran areFit related => exact .ran areFit (.cons held related)
      | refused unfit => exact .refused unfit

end RunsIf

variable {Number : Type}

/-- A step with factors, or a constant term that fits a type. -/
def Step.Fits
    [Arithmetic Number]
    (type : ElementType)
    (step : Step Number) :
    Prop :=
  step.ids = [] → Arithmetic.fits type step.coefficient = true

namespace Program

open Tensor (Stretches)

/-- The ids of the slots of inputs. -/
def slotIds
    (inputs : List Input) :
    Set SourceId :=
  { id | ∃ input ∈ inputs, ∃ place < input.signature.width, id = input.first.id place }

/-- Output slots have steps and steps output slots, and what steps multiply are slots of inputs. -/
structure IsComplete
    (program : Program Number) :
    Prop where
  computed : ∀ slot < program.blades.length, program.stepsOf slot ≠ []
  inside : ∀ step ∈ program.steps, step.slot < program.blades.length
  factors : ∀ step ∈ program.steps, ∀ id ∈ step.ids, id ∈ slotIds program.inputs

/-- Entities of the algebra and of the structures that a program is for. -/
structure Matches
    (program : Program Number)
    (entities : List (Entity Number)) :
    Prop where
  agree : ∀ entity ∈ entities, entity.algebra.Agrees program.algebra
  structured :
    List.Forall₂
      (fun entity input =>
        ∃ signature, entity.signature = .ok signature ∧
          signature.plain = input.signature.plain)
      entities program.inputs

/-- The constant terms of a program fit a type. -/
def ConstantsFit
    [Arithmetic Number]
    (program : Program Number)
    (type : ElementType) :
    Prop :=
  ∀ step ∈ program.steps, step.Fits type

/-! ## Columns -/

/-- Columns that stretch to a batch, those of some inputs among them. -/
structure Covers
    (batch : List Nat)
    (inputs : List Input)
    (columns : Columns Number) :
    Prop where
  stretch : ∀ column ∈ columns, Stretches column.2.shape batch
  found : ∀ id ∈ slotIds inputs, ∃ tensor, (id, tensor) ∈ columns

variable
  {batch : List Nat}
  {inputs : List Input}
  {columns : Columns Number}

theorem Covers.exists_column
    (covers : Covers batch inputs columns)
    {id : SourceId}
    (isSlot : id ∈ slotIds inputs) :
    ∃ tensor, column columns id = .ok tensor ∧ Stretches tensor.shape batch := by
  unfold column
  cases lookup : columns.lookup id with
  | none =>
      rcases covers.found id isSlot with ⟨tensor, inColumns⟩
      have absent := List.lookup_eq_none_iff.1 lookup _ inColumns
      simp at absent
  | some tensor =>
      rcases List.lookup_eq_some_iff.1 lookup with ⟨before, behind, same, _⟩
      have inColumns : (id, tensor) ∈ columns := by simp [same]
      exact ⟨tensor, rfl, covers.stretch _ inColumns⟩

variable [Arithmetic Number]

theorem Covers.columnsOf
    (covers : Covers batch inputs columns)
    {entity : Entity Number}
    (stretches : Stretches entity.batchShape batch)
    {input : Input}
    {width : Nat}
    (isWidth : width = input.signature.width) :
    Covers batch (input :: inputs) (columnsOf entity input.first width ++ columns) where
  stretch := by
    intro column member
    rcases List.mem_append.1 member with inFirst | inColumns
    · rcases List.mem_map.1 inFirst with ⟨slot, _, rfl⟩
      exact stretches
    · exact covers.stretch column inColumns
  found := by
    rintro _ ⟨other, member, place, below, rfl⟩
    rcases List.mem_cons.1 member with rfl | inInputs
    · have inRange : place ∈ (List.range width).reverse := by simpa [isWidth] using below
      exact ⟨_, List.mem_append_left _ (List.mem_map_of_mem inRange)⟩
    · rcases covers.found _ ⟨other, inInputs, place, below, rfl⟩ with ⟨tensor, inColumns⟩
      exact ⟨tensor, List.mem_append_right _ inColumns⟩

/-- Entities that match pass the checks, and their slots are collected. -/
theorem exists_collect_of_matches
    {program : Program Number}
    {entities : List (Entity Number)}
    {others : List Input}
    (covers : Covers batch inputs columns)
    (agree : ∀ entity ∈ entities, entity.algebra.Agrees program.algebra)
    (structured :
      List.Forall₂
        (fun entity input =>
          ∃ signature, entity.signature = .ok signature ∧
            signature.plain = input.signature.plain)
        entities others)
    (stretch : ∀ entity ∈ entities, Stretches entity.batchShape batch) :
    ∃ result, program.collect columns (entities.zip others) = .ok result ∧
      Covers batch (others.reverse ++ inputs) result := by
  induction structured generalizing inputs columns with
  | nil => exact ⟨columns, rfl, covers⟩
  | @cons entity input entities others matched _ inductionHypothesis =>
      rcases matched with ⟨signature, signed, same⟩
      rcases List.forall_mem_cons.1 agree with ⟨agrees, restAgree⟩
      rcases List.forall_mem_cons.1 stretch with ⟨stretches, restStretch⟩
      have isWidth : signature.width = input.signature.width := congrArg (·.width) same
      rw [List.zip_cons_cons, collect_cons agrees signed same, List.reverse_cons,
        List.append_assoc]
      exact inductionHypothesis (covers.columnsOf stretches isWidth) restAgree restStretch

/-! ## Steps -/

section Steps

variable (covers : Covers batch inputs columns)

/-- Tensors that stretch to a batch can be combined there. -/
theorem exists_zipWith_of_stretches
    {left right : Tensor Number}
    (leftStretches : Stretches left.shape batch)
    (rightStretches : Stretches right.shape batch)
    (type kind : ElementType)
    (operation : Number → Number → Number) :
    ∃ result, Tensor.zipWith type kind operation left right = .ok result ∧
      Stretches result.shape batch := by
  have leftSpreads : left.Spreads batch fun index =>
      left.get (Tensor.stretchIndex left.shape index) := ⟨leftStretches, fun _ _ => rfl⟩
  have rightSpreads : right.Spreads batch fun index =>
      right.get (Tensor.stretchIndex right.shape index) := ⟨rightStretches, fun _ _ => rfl⟩
  rcases Tensor.exists_zipWith leftSpreads rightSpreads type kind operation with
    ⟨result, combined, spreads⟩
  exact ⟨result, combined, spreads.stretches⟩

include covers

theorem exists_multiplySlots_of_covers
    {start : Tensor Number}
    (stretches : Stretches start.shape batch)
    {ids : List SourceId}
    (areSlots : ∀ id ∈ ids, id ∈ slotIds inputs) :
    ∃ result, multiplySlots columns start ids = .ok result ∧ Stretches result.shape batch := by
  induction ids generalizing start with
  | nil => exact ⟨start, rfl, stretches⟩
  | cons id rest inductionHypothesis =>
      rcases List.forall_mem_cons.1 areSlots with ⟨isSlot, restAreSlots⟩
      rcases covers.exists_column isSlot with ⟨factor, found, factorStretches⟩
      rcases exists_zipWith_of_stretches stretches factorStretches _ _ _ with
        ⟨product, multiplied, productStretches⟩
      rcases inductionHypothesis productStretches restAreSlots with ⟨result, reached, reaches⟩
      refine ⟨result, ?_, reaches⟩
      rw [multiplySlots, found]
      change (start.mul factor >>= fun product => multiplySlots columns product rest) = _
      rw [Tensor.mul, multiplied]
      exact reached

theorem stepValue_of_covers
    (type : ElementType)
    {step : Step Number}
    (areSlots : ∀ id ∈ step.ids, id ∈ slotIds inputs) :
    RunsIf (step.Fits type) (fun result => Stretches result.shape batch)
      (stepValue columns type batch step) := by
  rcases step with ⟨slot, coefficient, ids⟩
  cases ids with
  | nil =>
      show RunsIf _ _ (Tensor.fill type batch coefficient)
      rw [Tensor.fill]
      split
      · next fits => exact .ran (fun _ => fits) (.refl batch)
      · next unfit => exact .refused fun fits => unfit (fits rfl)
  | cons first rest =>
      rcases List.forall_mem_cons.1 areSlots with ⟨isSlot, restAreSlots⟩
      rcases covers.exists_column isSlot with ⟨start, found, stretches⟩
      rcases exists_multiplySlots_of_covers covers stretches restAreSlots with
        ⟨product, multiplied, productStretches⟩
      have value :
          stepValue columns type batch ⟨slot, coefficient, first :: rest⟩ =
            if Arithmetic.isOne coefficient then .ok product
            else .ok (product.scale coefficient) := by
        simp only [stepValue, found, multiplied, bind, Except.bind]
      have hasFactors : Step.Fits type ⟨slot, coefficient, first :: rest⟩ :=
        fun none => absurd none (List.cons_ne_nil first rest)
      rw [value]
      split
      · exact .ran hasFactors productStretches
      · exact .ran hasFactors productStretches

theorem sumSteps_of_covers
    (type : ElementType)
    {start : Tensor Number}
    (stretches : Stretches start.shape batch)
    {steps : List (Step Number)}
    (areSlots : ∀ step ∈ steps, ∀ id ∈ step.ids, id ∈ slotIds inputs) :
    RunsIf (∀ step ∈ steps, step.Fits type) (fun result => Stretches result.shape batch)
      (sumSteps columns type batch start steps) := by
  induction steps generalizing start with
  | nil => exact .ran (by simp) stretches
  | cons step rest inductionHypothesis =>
      rcases List.forall_mem_cons.1 areSlots with ⟨stepAreSlots, restAreSlots⟩
      apply RunsIf.congr List.forall_mem_cons.symm
      apply (stepValue_of_covers covers type stepAreSlots).bind
      intro value valueStretches
      rcases exists_zipWith_of_stretches stretches valueStretches _ _ _ with
        ⟨total, added, totalStretches⟩
      rw [Tensor.add, added]
      exact inductionHypothesis totalStretches restAreSlots

theorem slotValue_of_covers
    (type : ElementType)
    {steps : List (Step Number)}
    (nonempty : steps ≠ [])
    (areSlots : ∀ step ∈ steps, ∀ id ∈ step.ids, id ∈ slotIds inputs) :
    RunsIf (∀ step ∈ steps, step.Fits type) (fun _ => True)
      (slotValue columns type batch steps) := by
  cases steps with
  | nil => exact absurd rfl nonempty
  | cons first rest =>
      rcases List.forall_mem_cons.1 areSlots with ⟨firstAreSlots, restAreSlots⟩
      apply RunsIf.congr List.forall_mem_cons.symm
      apply (stepValue_of_covers covers type firstAreSlots).bind
      intro start stretches
      have summed := sumSteps_of_covers covers type stretches restAreSlots
      generalize sumSteps columns type batch start rest = total? at summed ⊢
      cases summed with
      | ran areFit _ => exact .ran areFit trivial
      | refused unfit => exact .refused unfit

end Steps

/-! ## Runs -/

/-- The steps of all output slots are all steps. -/
theorem IsComplete.constantsFit_iff
    {program : Program Number}
    (complete : program.IsComplete)
    (type : ElementType) :
    (∀ slot ∈ List.range program.blades.length, ∀ step ∈ program.stepsOf slot,
        step.Fits type) ↔
      program.ConstantsFit type := by
  constructor
  · intro fits step member
    have inRange := List.mem_range.2 (complete.inside step member)
    exact fits step.slot inRange step (List.mem_filter.2 ⟨member, beq_self_eq_true _⟩)
  · intro fits slot _ step member
    exact fits step (List.mem_of_mem_filter member)

/--
On entities that match it a complete program computes a tensor of the output
type over the common batch, unless a constant term does not fit that type.
-/
theorem run_of_isComplete
    {program : Program Number}
    (complete : program.IsComplete)
    {entities : List (Entity Number)}
    (matched : program.Matches entities)
    {batch : List Nat}
    (broadcast : Tensor.commonShape (entities.map Entity.batchShape) = .ok batch)
    (standard : ElementType) :
    RunsIf (program.ConstantsFit (outputType standard entities))
      (fun result =>
        result.type = outputType standard entities ∧
          result.shape = batch ++ [program.blades.length])
      (program.run standard entities) := by
  have arity : entities.length = program.inputs.length := matched.structured.length_eq
  have stretch : ∀ entity ∈ entities, Stretches entity.batchShape batch := by
    intro entity member
    exact Tensor.stretches_of_commonShape broadcast _ (List.mem_map_of_mem member)
  have start : Covers batch [] ([] : Columns Number) := ⟨by simp, by simp [slotIds]⟩
  rcases exists_collect_of_matches start matched.agree matched.structured stretch with
    ⟨columns, collected, covers⟩
  have sameSlots : slotIds (program.inputs.reverse ++ []) = slotIds program.inputs := by
    simp [slotIds]
  have slots :
      RunsIf (program.ConstantsFit (outputType standard entities))
        (List.Forall₂ (fun _ _ => True) (List.range program.blades.length))
        ((List.range program.blades.length).mapM fun slot =>
          slotValue columns (outputType standard entities) batch (program.stepsOf slot)) := by
    apply RunsIf.congr (complete.constantsFit_iff _)
    apply RunsIf.mapM
    intro slot inRange
    apply slotValue_of_covers covers _ (complete.computed slot (List.mem_range.1 inRange))
    intro step member
    rw [sameSlots]
    exact complete.factors step (List.mem_of_mem_filter member)
  have value :
      program.run standard entities =
        ((List.range program.blades.length).mapM fun slot =>
            slotValue columns (outputType standard entities) batch (program.stepsOf slot)) >>=
          fun parts => .ok (Tensor.stack (outputType standard entities) batch parts) := by
    unfold run
    simp only [collected, broadcast, bind, Except.bind]
    rw [if_neg (not_not.2 arity)]
    rfl
  rw [value]
  generalize
    ((List.range program.blades.length).mapM fun slot =>
      slotValue columns (outputType standard entities) batch (program.stepsOf slot)) = parts?
    at slots ⊢
  cases slots with
  | refused unfit => exact .refused unfit
  | ran areFit each =>
      apply RunsIf.ran areFit
      have count := each.length_eq
      rw [List.length_range] at count
      exact ⟨rfl, by simp [Tensor.stack, Tensor.ofFn, count]⟩

/-! ## Programs that are made -/

theorem of_stepFor_eq_ok
    {blades : List Blade}
    {entry : Entry}
    {step : Step Number}
    (made : stepFor blades entry = .ok step) :
    step.slot = blades.idxOf entry.blade ∧ step.ids = entry.ids := by
  unfold stepFor at made
  split at made
  · cases made
    exact ⟨rfl, rfl⟩
  · cases made

theorem exists_of_ofMultivector_eq_ok
    {identity : Nat}
    {value : Multivector}
    {spelling : ElementSpelling}
    {inputs : List Input}
    {program : Program Number}
    (made : ofMultivector identity value spelling inputs = .ok program) :
    ∃ steps, value.entries.mapM (stepFor value.blades) = .ok steps ∧
      program = ⟨identity, value, value.blades, spelling, steps, inputs⟩ := by
  rw [ofMultivector_eq] at made
  unfold Except.map at made
  split at made
  · cases made
  · next steps flattened =>
    cases made
    exact ⟨steps, flattened, rfl⟩

/-- The program of a multivector is complete if the ids there are slots of the inputs. -/
theorem isComplete_of_ofMultivector
    {identity : Nat}
    {value : Multivector}
    {spelling : ElementSpelling}
    {inputs : List Input}
    {program : Program Number}
    (made : ofMultivector identity value spelling inputs = .ok program)
    (areSlots : ∀ entry ∈ value.entries, ∀ id ∈ entry.ids, id ∈ slotIds inputs) :
    program.IsComplete := by
  rcases exists_of_ofMultivector_eq_ok made with ⟨steps, flattened, rfl⟩
  have each := mapM_eq_ok.1 flattened
  constructor
  case computed =>
    intro slot below
    have onBlade : value.blades[slot] ∈ value.blades := List.getElem_mem below
    rcases Multivector.mem_blades.1 onBlade with ⟨entry, member, same⟩
    rcases exists_of_mem_forall₂ each.flip member with ⟨step, inSteps, isStep⟩
    have isSlot : step.slot = slot := by
      rw [(of_stepFor_eq_ok isStep).1, same, value.blades_sortedLT.nodup.idxOf_getElem]
    exact List.ne_nil_of_mem (List.mem_filter.2 ⟨inSteps, beq_iff_eq.2 isSlot⟩)
  case inside =>
    intro step inSteps
    rcases exists_of_mem_forall₂ each inSteps with ⟨entry, member, isStep⟩
    rw [(of_stepFor_eq_ok isStep).1]
    exact List.idxOf_lt_length_of_mem (Multivector.mem_blades.2 ⟨entry, member, rfl⟩)
  case factors =>
    intro step inSteps
    rcases exists_of_mem_forall₂ each inSteps with ⟨entry, member, isStep⟩
    rw [(of_stepFor_eq_ok isStep).2]
    exact areSlots entry member

end Program

/-! ## Programs of functions -/

/-- Constants of algebras that occur, as the validating constructor makes them of exact numbers. -/
def SpelledMultivector.IsConstantAmong
    (occurs : Algebra → Prop)
    (value : SpelledMultivector) :
    Prop :=
  value.value.InRange ∧ value.isExact = true ∧ occurs value.value.algebra

/-- Numbers and constants of algebras that occur, captured ones among them. -/
def Vocabulary.constantsAmong
    (occurs : Algebra → Prop)
    (graph : Set Expr) :
    Vocabulary where
  layout _ := False
  algebra := occurs
  constant := SpelledMultivector.IsConstantAmong occurs
  expression value :=
    value ∈ graph ∧ value.WellFormed ∧ value.AllLeaves (fun _ => False) ∧ occurs value.algebra

/-- Well-formed expressions of algebras that occur, whose leaves are among given bindings. -/
structure Expr.IsAmong
    (own : Binding → Prop)
    (occurs : Algebra → Prop)
    (expression : Expr) :
    Prop where
  wellFormed : expression.WellFormed
  leaves : expression.AllLeaves own
  occurring : occurs expression.algebra

/-- Numbers, constants and operators keep to expressions among given bindings. -/
theorem Expr.persistent_isAmong
    (own : Binding → Prop)
    (occurs : Algebra → Prop) :
    Expr.Persistent (Expr.IsAmong own occurs) occurs
      (SpelledMultivector.IsConstantAmong occurs) where
  algebra expression isAmong := isAmong.occurring
  multiple other value blade spelling isOccurring below := by
    refine ⟨Multivector.inRange_ofEntries ?_, rfl, isOccurring⟩
    intro entry member
    rw [List.mem_singleton.1 member]
    exact below
  constant node value isConstantAmong isConstant :=
    ⟨⟨isConstantAmong.1, isConstant, isConstantAmong.2.1⟩, trivial, isConstantAmong.2.2⟩
  unary node operation operand _ isAmong :=
    ⟨isAmong.wellFormed, isAmong.leaves, isAmong.occurring⟩
  binary node operation left right leftIsAmong rightIsAmong agree :=
    ⟨⟨leftIsAmong.wellFormed, rightIsAmong.wellFormed, agree⟩,
      ⟨leftIsAmong.leaves, rightIsAmong.leaves⟩, leftIsAmong.occurring⟩

namespace Function

open Build

/-- Entities as their constructors leave them: with blades of their algebra and a slot for each. -/
structure AreSized
    (entities : List (Entity Number)) :
    Prop where
  inRange : ∀ entity ∈ entities, entity.layout.InRange
  width : ∀ entity ∈ entities, entity.storage.shape.getLast? = some entity.layout.width

/-- Entities of an algebra with storage of the width of their layout, whatever the numbers. -/
structure AreOf
    (algebra : Algebra)
    (entities : List (Entity Number)) :
    Prop where
  agree : ∀ entity ∈ entities, entity.algebra.Agrees algebra
  inRange : ∀ entity ∈ entities, entity.layout.InRange
  width : ∀ entity ∈ entities, entity.storage.shape.getLast? = some entity.layout.width

theorem AreOf.areSized
    {algebra : Algebra}
    {entities : List (Entity Number)}
    (areOf : AreOf algebra entities) :
    AreSized entities :=
  ⟨areOf.inRange, areOf.width⟩

theorem forall₂_input
    {entities : List (Entity Number)}
    {signatures : List Signature}
    (signed : Signed entities signatures)
    (base : Nat) :
    List.Forall₂
      (fun entity input =>
        ∃ signature, entity.signature = .ok signature ∧
          signature.plain = input.signature.plain)
      entities ((placements base (entities.zip signatures)).map Placement.input) := by
  induction signed generalizing base with
  | nil => exact .nil
  | cons first _ inductionHypothesis => exact .cons ⟨_, first, rfl⟩ (inductionHypothesis _)

variable
  {function : Function}
  {entities : List (Entity Number)}
  {signatures : List Signature}
  {graph : Set Expr}
  {workspace : Workspace}
  (areSized : AreSized entities)
  (sound : workspace.Sound graph)

include areSized

theorem AreSized.width_of_mem
    (signed : Signed entities signatures)
    {base : Nat}
    {placement : Placement Number}
    (member : placement ∈ placements base (entities.zip signatures)) :
    placement.entity ∈ entities ∧
      placement.signature.width = placement.entity.layout.width := by
  have pair := mem_of_mem_placements placement member
  have inEntities := (List.of_mem_zip pair).1
  refine ⟨inEntities, ?_⟩
  have width := (of_signature_eq_ok (List.forall₂_zip signed pair)).2
  rw [Entity.width, areSized.width _ inEntities] at width
  exact (Except.ok.inj width).symm

include sound

/-- What a function over constants returns is among the bindings of its arguments. -/
theorem isAmong_of_tree
    {occurs : Algebra → Prop}
    (occurring : ∀ entity ∈ entities, occurs entity.algebra)
    (within : function.body.Within (.constantsAmong occurs graph))
    (signed : Signed entities signatures) :
    let own (binding : Binding) : Prop :=
      ∃ placement ∈ placements 0 (entities.zip signatures), binding = placement.binding
    Ensures (function.tree entities) workspace fun result behind =>
      ∃ larger,
        Grown entities signatures (Expr.IsAmong own occurs) graph workspace result behind
          larger := by
  intro own
  have captured :
      ∀ value, (Vocabulary.constantsAmong occurs graph).expression value →
        value ∈ graph ∧ value.IsAmong own occurs := by
    rintro value ⟨member, wellFormed, closed, isOccurring⟩
    exact
      ⟨member, wellFormed, closed.mono fun _ impossible => impossible.elim, isOccurring⟩
  have occursFirst : ∀ other ∈ entities.head?.map Entity.algebra, occurs other := by
    intro other head
    rcases Option.mem_map.1 head with ⟨entity, isHead, rfl⟩
    exact occurring entity (List.mem_of_mem_head? isHead)
  have leaves :
      ∀ placement ∈ placements 0 (entities.zip signatures), ∀ node,
        Expr.IsAmong own occurs (.bind node placement.binding) := by
    intro placement member node
    have inEntities := (areSized.width_of_mem signed member).1
    exact
      ⟨areSized.inRange _ inEntities, ⟨placement, member, rfl⟩, occurring _ inEntities⟩
  exact
    tree_spec (Expr.persistent_isAmong own occurs) (fun _ impossible => False.elim impossible)
      (fun _ isConstantAmong => isConstantAmong) captured within occursFirst signed leaves sound

/-- What a program is that a function over constants has been compiled to. -/
structure CompiledTo
    (occurs : Algebra → Prop)
    (entities : List (Entity Number))
    (signatures : List Signature)
    (program : Program Number) :
    Prop where
  signed : Signed entities signatures
  inputs : program.inputs = (placements 0 (entities.zip signatures)).map Placement.input
  complete : program.IsComplete
  blades : program.blades = program.value.blades
  inRange : program.value.InRange
  occurring : occurs program.algebra

/-- A function over constants is compiled to a complete program in range. -/
theorem compiledTo_of_build
    [Arithmetic Number]
    {occurs : Algebra → Prop}
    (occurring : ∀ entity ∈ entities, occurs entity.algebra)
    (within : function.body.Within (.constantsAmong occurs graph))
    {validate : Bool}
    {program : Program Number}
    {behind : Workspace}
    (built : outcome (function.build entities validate) workspace = (.ok program, behind)) :
    ∃ signatures, CompiledTo occurs entities signatures program := by
  rw [build_eq] at built
  rcases exists_of_outcome_bind built with ⟨⟨arguments, expression⟩, between, returned, finished⟩
  rcases exists_signed_of_tree returned with ⟨signatures, _, signed⟩
  rcases (isAmong_of_tree areSized sound occurring within signed).of_outcome returned with
    ⟨larger, grown⟩
  rcases grown.built arguments expression rfl with ⟨rfl, member, isAmong⟩
  rcases exists_of_outcome_finish finished with ⟨value, last, reduced, made⟩
  have isReduced := (Expr.reduceUnchecked_spec member grown.sound).of_outcome reduced
  have evaluated : expression.evaluate = .ok value := isReduced.eq_evaluate.symm
  have denotes := Expr.denotes_of_evaluate isAmong.wellFormed evaluated
  have leaves :
      expression.AllLeaves fun binding =>
        ∀ slot < binding.layout.width,
          binding.first.id slot ∈
            Program.slotIds ((placements 0 (entities.zip signatures)).map Placement.input) := by
    apply isAmong.leaves.mono
    rintro _ ⟨placement, isPlaced, rfl⟩ slot below
    have width := (areSized.width_of_mem signed isPlaced).2
    exact ⟨placement.input, List.mem_map_of_mem isPlaced, slot, below.trans_eq width.symm, rfl⟩
  have areSlots := Expr.mem_ids_of_evaluate isAmong.wellFormed leaves evaluated
  have complete := Program.isComplete_of_ofMultivector made areSlots
  rcases Program.exists_of_ofMultivector_eq_ok made with ⟨steps, _, rfl⟩
  have occursThere : occurs value.algebra := by
    rw [denotes.algebra]
    exact isAmong.occurring
  exact ⟨signatures, signed, rfl, complete, rfl, denotes.inRange, occursThere⟩

omit areSized in
/--
A function over constants of an algebra is compiled to a complete program, and
the entities that it is compiled for match the program.
-/
theorem isComplete_of_build
    [Arithmetic Number]
    {algebra : Algebra}
    (areOf : AreOf algebra entities)
    (within : function.body.Within (.constantsOf algebra graph))
    {validate : Bool}
    {program : Program Number}
    {behind : Workspace}
    (built : outcome (function.build entities validate) workspace = (.ok program, behind)) :
    program.IsComplete ∧ program.Matches entities := by
  rcases compiledTo_of_build areOf.areSized sound areOf.agree within built with
    ⟨signatures, compiledTo⟩
  refine ⟨compiledTo.complete, ?_, ?_⟩
  · intro entity inEntities
    exact (areOf.agree entity inEntities).trans compiledTo.occurring.symm
  · rw [compiledTo.inputs]
    exact forall₂_input compiledTo.signed 0

end Function
end Versor
