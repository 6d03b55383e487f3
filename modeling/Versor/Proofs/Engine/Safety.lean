import Versor.Proofs.Engine.Library
import Versor.Proofs.Program.Pointwise
import Versor.Proofs.Program.Precision

/-!
# Programs that are safe to run

A program looks its factors up by their ids and adds its terms into slots that
start out empty, without a check that there is anything to find.  What a
function over constants is compiled to needs none (`Function.isSafe_of_build`):
its inputs have consecutive ids, so the slots of one entity never take the place
of another's, each id of a step is among them, and each output slot has a step.
On entities that pass the checks of the program a run comes to an entity with
ascending blades, unless a constant term does not fit the type of the result.
-/

namespace Versor

open Build Compute

variable {Number : Type}

namespace Program

/-! ## Ids of inputs -/

/-- The ids of the slots of inputs, one input behind the other. -/
def inputIds
    (inputs : List Input) :
    List SourceId :=
  inputs.flatMap fun input => (List.range input.signature.width).map input.first.id

theorem inputIds_cons
    (input : Input)
    (rest : List Input) :
    inputIds (input :: rest) =
      (List.range input.signature.width).map input.first.id ++ inputIds rest :=
  List.flatMap_cons

theorem mem_inputIds_iff
    {inputs : List Input}
    {id : SourceId} :
    id ∈ inputIds inputs ↔ id ∈ slotIds inputs := by
  simp only [inputIds, slotIds, List.mem_flatMap, List.mem_map, List.mem_range, Set.mem_ofPred_eq,
    @eq_comm _ id]

/-- The inputs of entities that are bound one behind the other have consecutive ids. -/
theorem inputIds_placements
    (base : Nat)
    (pairs : List (Entity Number × Signature)) :
    inputIds ((placements base pairs).map Placement.input) =
      (List.range' base (pairs.map fun pair => pair.2.width).sum).map fun (id : Nat) =>
        (id : SourceId) := by
  induction pairs generalizing base with
  | nil => rfl
  | cons pair rest inductionHypothesis =>
      rcases pair with ⟨entity, signature⟩
      have own :
          (List.range signature.width).map (FirstId.natural base).id =
            (List.range' base signature.width).map fun (id : Nat) => (id : SourceId) := by
        rw [List.range'_eq_map_range, List.map_map]
        rfl
      rw [List.map_cons, List.sum_cons, ← List.range'_append_1, List.map_append, ← own,
        ← inductionHypothesis]
      rfl

theorem nodup_inputIds_placements
    (pairs : List (Entity Number × Signature)) :
    (inputIds ((placements 0 pairs).map Placement.input)).Nodup := by
  rw [inputIds_placements]
  exact (List.nodup_range').map Nat.cast_injective

/-! ## Columns that are not overwritten -/

variable [Arithmetic Number]

/-- What columns are added to others for entities and the inputs they are passed as. -/
structure Collected
    (pairs : List (Entity Number × Input))
    (columns result : Columns Number) :
    Prop where
  keys :
    (result.map Prod.fst).Perm (inputIds (pairs.map Prod.snd) ++ columns.map Prod.fst)
  own :
    ∀ pair ∈ pairs, ∀ slot < pair.2.signature.width,
      (pair.2.first.id slot, pair.1.storage.column slot) ∈ result
  kept : ∀ column ∈ columns, column ∈ result

omit [Arithmetic Number] in
/-- A column whose id no other one has is found by it. -/
theorem column_eq_ok_of_mem
    {columns : Columns Number}
    (distinct : (columns.map Prod.fst).Nodup)
    {id : SourceId}
    {tensor : Tensor Number}
    (member : (id, tensor) ∈ columns) :
    column columns id = .ok tensor := by
  have found : columns.lookup id = some tensor := by
    induction columns with
    | nil => cases member
    | cons first rest inductionHypothesis =>
        rcases List.nodup_cons.1 distinct with ⟨absent, restDistinct⟩
        rcases List.mem_cons.1 member with rfl | inRest
        · exact List.lookup_cons_self
        · have different : (id == first.1) = false := by
            apply beq_eq_false_iff_ne.2
            rintro rfl
            exact absent (List.mem_map.2 ⟨_, inRest, rfl⟩)
          rw [List.lookup_cons, different]
          exact inductionHypothesis restDistinct inRest
  rw [column, found]

/-- The slots of one entity with its input are added to the others. -/
theorem Collected.cons
    {entity : Entity Number}
    {input : Input}
    {pairs : List (Entity Number × Input)}
    {columns result : Columns Number}
    (collected :
      Collected pairs (columnsOf entity input.first input.signature.width ++ columns) result) :
    Collected ((entity, input) :: pairs) columns result where
  keys := by
    have own :
        ((columnsOf entity input.first input.signature.width).map Prod.fst).Perm
          ((List.range input.signature.width).map input.first.id) := by
      rw [columnsOf, List.map_map]
      exact (List.reverse_perm _).map _
    have keys := collected.keys
    rw [List.map_append] at keys
    rw [List.map_cons, inputIds_cons, List.append_assoc]
    exact (keys.trans (List.perm_append_comm_assoc _ _ _)).trans (own.append_right _)
  own := by
    rintro pair member slot below
    rcases List.mem_cons.1 member with rfl | inPairs
    · apply collected.kept
      apply List.mem_append_left
      exact List.mem_map_of_mem (List.mem_reverse.2 (List.mem_range.2 below))
    · exact collected.own pair inPairs slot below
  kept column member := collected.kept column (List.mem_append_right _ member)

/-- Entities that match a program add their columns, input by input. -/
theorem exists_collected
    {program : Program Number}
    {entities : List (Entity Number)}
    {inputs : List Input}
    (agree : ∀ entity ∈ entities, entity.algebra.Agrees program.algebra)
    (structured :
      List.Forall₂
        (fun entity input =>
          ∃ signature, entity.signature = .ok signature ∧
            signature.plain = input.signature.plain)
        entities inputs)
    (columns : Columns Number) :
    ∃ result, program.collect columns (entities.zip inputs) = .ok result ∧
      Collected (entities.zip inputs) columns result := by
  induction structured generalizing columns with
  | nil => exact ⟨columns, rfl, ⟨.refl _, by simp, fun _ member => member⟩⟩
  | @cons entity input entities inputs matched _ inductionHypothesis =>
      rcases matched with ⟨signature, signed, same⟩
      rcases List.forall_mem_cons.1 agree with ⟨agrees, restAgree⟩
      have width : signature.width = input.signature.width := congrArg (·.width) same
      rcases
          inductionHypothesis restAgree
            (columnsOf entity input.first input.signature.width ++ columns) with
        ⟨result, reached, collected⟩
      refine ⟨result, ?_, collected.cons⟩
      rw [List.zip_cons_cons, collect_cons agrees signed same, width]
      exact reached

/-- Entities whose columns are collected have passed the checks. -/
theorem matched_of_collect
    {program : Program Number}
    {entities : List (Entity Number)}
    {inputs : List Input}
    (arity : entities.length = inputs.length)
    {columns result : Columns Number}
    (collected : program.collect columns (entities.zip inputs) = .ok result) :
    (∀ entity ∈ entities, entity.algebra.Agrees program.algebra) ∧
      List.Forall₂
        (fun entity input =>
          ∃ signature, entity.signature = .ok signature ∧
            signature.plain = input.signature.plain)
        entities inputs := by
  induction entities generalizing inputs columns with
  | nil =>
      rw [List.length_nil, eq_comm, List.length_eq_zero_iff] at arity
      subst arity
      exact ⟨by simp, .nil⟩
  | cons entity rest inductionHypothesis =>
      cases inputs with
      | nil => cases arity
      | cons input inputs =>
          rw [List.zip_cons_cons, collect] at collected
          split at collected
          · cases collected
          · next agrees =>
            rcases exists_of_bind_eq_ok collected with ⟨signature, signed, collected⟩
            split at collected
            · cases collected
            · next same =>
              rcases inductionHypothesis (Nat.succ.inj arity) collected with ⟨agree, structured⟩
              constructor
              · exact List.forall_mem_cons.2 ⟨not_not.1 agrees, agree⟩
              · exact .cons ⟨signature, signed, not_not.1 same⟩ structured

/-- Entities match a program if they pass the checks with which a run begins. -/
theorem matches_iff
    {program : Program Number}
    {entities : List (Entity Number)} :
    program.Matches entities ↔
      entities.length = program.inputs.length ∧
        ∃ columns, program.collect [] (entities.zip program.inputs) = .ok columns := by
  constructor
  · intro matched
    rcases exists_collected matched.agree matched.structured [] with ⟨columns, reached, _⟩
    exact ⟨matched.structured.length_eq, columns, reached⟩
  · rintro ⟨arity, columns, collected⟩
    rcases matched_of_collect arity collected with ⟨agree, structured⟩
    exact ⟨agree, structured⟩

/-- The columns that a run looks its factors up in. -/
structure FindsColumns
    (program : Program Number)
    (entities : List (Entity Number))
    (columns : Columns Number) :
    Prop where
  collected : program.collect [] (entities.zip program.inputs) = .ok columns
  /-- No column has been added under the id of another one. -/
  distinct : (columns.map Prod.fst).Nodup
  own :
    ∀ pair ∈ entities.zip program.inputs, ∀ slot < pair.2.signature.width,
      column columns (pair.2.first.id slot) = .ok (pair.1.storage.column slot)
  factors : ∀ step ∈ program.steps, ∀ id ∈ step.ids, ∃ tensor, column columns id = .ok tensor

/-- Where the ids of the inputs are apart, a complete program finds its factors. -/
theorem IsComplete.exists_findsColumns
    {program : Program Number}
    (complete : program.IsComplete)
    (apart : (inputIds program.inputs).Nodup)
    {entities : List (Entity Number)}
    (matched : program.Matches entities) :
    ∃ columns, program.FindsColumns entities columns := by
  rcases exists_collected matched.agree matched.structured [] with ⟨columns, reached, collected⟩
  have inputs : (entities.zip program.inputs).map Prod.snd = program.inputs :=
    List.map_snd_zip matched.structured.length_eq.ge
  have keys : (columns.map Prod.fst).Perm (inputIds program.inputs) := by
    have keys := collected.keys
    rwa [inputs, List.map_nil, List.append_nil] at keys
  have distinct : (columns.map Prod.fst).Nodup := keys.nodup_iff.2 apart
  refine ⟨columns, reached, distinct, ?_, ?_⟩
  · intro pair member slot below
    exact column_eq_ok_of_mem distinct (collected.own pair member slot below)
  · intro step member id isFactor
    have isSlot := complete.factors step member id isFactor
    have inKeys := keys.mem_iff.2 (mem_inputIds_iff.2 isSlot)
    rcases List.mem_map.1 inKeys with ⟨⟨_, tensor⟩, inColumns, rfl⟩
    exact ⟨tensor, column_eq_ok_of_mem distinct inColumns⟩

/-! ## Results -/

/-- What a run of a program over a common batch comes to where the memory has some capacity. -/
inductive ComesTo
    (program : Program Number)
    (capacity : Nat)
    (type : ElementType)
    (batch : List Nat) :
    Except Error (Entity Number) → Prop
  | entity
    {result : Entity Number}
    (areFit : program.ConstantsFit type)
    (room : Tensor.isRepresentable capacity (batch ++ [program.blades.length]) = true)
    (layout : result.layout = program.layout)
    (sameType : result.storage.type = type)
    (shape : result.storage.shape = batch ++ [program.blades.length]) :
    ComesTo program capacity type batch (.ok result)
  | unfit
    (unfit : ¬ program.ConstantsFit type) :
    ComesTo program capacity type batch (.error .entryTooLarge)
  | crowded
    (areFit : program.ConstantsFit type)
    (noRoom : Tensor.isRepresentable capacity (batch ++ [program.blades.length]) = false) :
    ComesTo program capacity type batch (.error .incompatibleShapes)

/--
On entities that match it a complete program comes to an entity, unless a constant term
does not fit the type of the result or there is no room for its storage.
-/
theorem IsComplete.comesTo
    {program : Program Number}
    (complete : program.IsComplete)
    {entities : List (Entity Number)}
    (matched : program.Matches entities)
    {batch : List Nat}
    (broadcast : Tensor.commonShape (entities.map Entity.batchShape) = .ok batch)
    (context : Context Number) :
    program.ComesTo context.limits.capacity (outputType context.config.elementType entities) batch
      (outcome (execute program entities) context).1 := by
  have floating := isFloating_outputType context.config.isFloating_elementType entities
  have ran := run_of_isComplete complete matched broadcast context.config.elementType
  rw [outcome_execute, stored]
  generalize program.run context.config.elementType entities = result? at ran ⊢
  cases ran with
  | refused unfit => exact .unfit unfit
  | @ran storage areFit held =>
      rcases held with ⟨type, shape⟩
      have width : storage.shape.getLast? = some program.layout.width := by
        rw [shape]
        exact List.getLast?_concat
      have checked :
          Entity.checkStorage context.limits.capacity context.config.elementType program.layout
              storage =
            .ok storage := by
        simp [Entity.checkStorage, type, floating, width]
      cases room : Tensor.isRepresentable context.limits.capacity storage.shape with
      | true =>
          simp only [bind, Except.bind, room, checked]
          rw [shape] at room
          exact .entity areFit room rfl type shape
      | false =>
          simp only [bind, Except.bind, room]
          rw [shape] at room
          exact .crowded areFit room

/-! ## Safety -/

/-- What a program needs of nothing but its checks. -/
structure IsSafe
    (program : Program Number) :
    Prop where
  ascending : program.layout.elements.SortedLT
  /-- The constructor of generic entities accepts the blades. -/
  accepted :
    Layout.ofElements program.algebra (program.blades.map fun (blade : Blade) => .integer blade) =
      .ok (.generic program.algebra program.blades [])
  /-- Every output slot has a step. -/
  computed : ∀ slot < program.blades.length, program.stepsOf slot ≠ []
  finds :
    ∀ entities, program.Matches entities → ∃ columns, program.FindsColumns entities columns
  /-- A run comes to an entity, or there are no numbers or no room for it. -/
  comesTo :
    ∀ entities, program.Matches entities →
      ∀ batch, Tensor.commonShape (entities.map Entity.batchShape) = .ok batch →
        ∀ context : Context Number,
          program.ComesTo context.limits.capacity
            (outputType context.config.elementType entities) batch
            (outcome (execute program entities) context).1

end Program

/-- The constructor of generic entities accepts ascending blades of the algebra. -/
theorem Layout.ofElements_of_sortedLT
    {algebra : Algebra}
    {blades : List Blade}
    (ascending : blades.SortedLT)
    (inside : ∀ blade ∈ blades, blade < algebra.bladeCount) :
    ofElements algebra (blades.map fun (blade : Blade) => .integer blade) =
      .ok (.generic algebra blades []) := by
  have distinct : distinctSorted blades = blades := by
    apply (distinctSorted_sortedLT blades).eq_of_mem_iff ascending
    intro blade
    exact mem_distinctSorted
  have spelling :
      Literal.spelling (blades.map fun (blade : Blade) => Literal.integer blade) = [] := by
    rw [Literal.spelling, Spelling.ofFlags, List.map_eq_nil_iff, List.filter_eq_nil_iff]
    intro flag member
    have isFlag := List.mem_map.1 (List.fst_mem_of_mem_zipIdx member)
    rcases isFlag with ⟨_, inBlades, same⟩
    rcases List.mem_map.1 inBlades with ⟨blade, _, rfl⟩
    rw [← same]
    exact Bool.false_ne_true
  unfold ofElements
  rw [Algebra.mapM_checkBlade_of_lt inside]
  change (if (distinctSorted blades).length = blades.length then _ else _) = _
  rw [distinct, if_pos rfl, spelling]

/-- An entity without slots. -/
def slotless : Entity ℚ :=
  ⟨1, .generic .projective [] [], ⟨.float64, [0], #[]⟩⟩

/-- One more than the product of the second argument and the third one. -/
def multiplyingLast : Function :=
  ⟨.custom 0, "multiply", true,
    .binary .add (.binary .multiply (.argument 1) (.argument 2)) (.number (.integer 1))⟩

/-- A function is compiled for entities that pass the checks and have a common batch, in vain. -/
def Function.FailsOn
    [Arithmetic Number]
    (function : Function)
    (entities : List (Entity Number))
    (batch : List Nat)
    (error : Error) :
    Prop :=
  ∃ (program : Program Number) (behind : Workspace),
    Build.outcome (function.build entities true) ⟨entities.length, [], .usual⟩ =
        (.ok program, behind) ∧
      program.Matches entities ∧
      Tensor.commonShape (entities.map Entity.batchShape) = .ok batch ∧
      ∀ context : Context Number,
        (outcome (execute program entities) context).1 = .error error

/-- The sum of the argument and a constant beyond the range of single precision. -/
def raising : Function :=
  ⟨.custom 0, "raise", true, .binary .add (.argument 0) (.number (.integer (2 ^ 200)))⟩

/-- A scalar of single precision passes the checks, and the constant does not fit its type. -/
theorem failsOn_raising :
    raising.FailsOn [singleScalar] [] .entryTooLarge := by
  have areOf : Function.AreOf .projective [singleScalar] :=
    ⟨by decide, by decide, by decide⟩
  have within : raising.body.Within (.constantsOf .projective ∅) := ⟨trivial, trivial⟩
  have passes :
      ((Build.outcome (raising.build [singleScalar] true : Build (Program Ranged))
          ⟨1, [], .usual⟩).1.map fun program =>
            program.steps.any fun step =>
              step.ids.isEmpty && !Arithmetic.fits .float32 step.coefficient).toOption =
        some true := by
    decide +kernel
  rcases Build.exists_built passes with ⟨program, behind, built, hasLarge⟩
  rcases Function.isComplete_of_build (Workspace.sound_empty 1 .usual) areOf within built with
    ⟨complete, matched⟩
  have unfit : ¬ program.ConstantsFit .float32 := by
    intro areFit
    rcases List.any_eq_true.1 hasLarge with ⟨step, member, isLarge⟩
    rw [Bool.and_eq_true, List.isEmpty_iff, Bool.not_eq_true'] at isLarge
    rw [areFit step member isLarge.1] at isLarge
    cases isLarge.2
  refine ⟨program, behind, built, matched, rfl, fun context => ?_⟩
  have comes := complete.comesTo matched rfl context
  have single :
      Program.outputType context.config.elementType [singleScalar] = .float32 :=
    rfl
  rw [single] at comes
  generalize (outcome (execute program [singleScalar]) context).1 = result at comes ⊢
  cases comes with
  | entity areFit => exact absurd areFit unfit
  | unfit => rfl
  | crowded areFit => exact absurd areFit unfit

/-- No scalars, in more rows and columns than a batch without entries may have. -/
def emptyBatch
    (identity rows columns : Nat) :
    Entity Ranged :=
  ⟨identity, .scalar .projective, ⟨.float64, [0, rows, columns, 1], #[]⟩⟩

/-- The product of the arguments. -/
def multiplyingBoth : Function :=
  ⟨.custom 1, "multiply", true, .binary .multiply (.argument 0) (.argument 1)⟩

/-- There is room for the scalars by themselves, and none for their products. -/
theorem failsOn_multiplyingBoth :
    multiplyingBoth.FailsOn [emptyBatch 0 (2 ^ 33) 1, emptyBatch 1 1 (2 ^ 33)]
      [0, 2 ^ 33, 2 ^ 33] .incompatibleShapes := by
  let rows := emptyBatch 0 (2 ^ 33) 1
  let columns := emptyBatch 1 1 (2 ^ 33)
  have areOf : Function.AreOf .projective [rows, columns] :=
    ⟨by decide, by decide, by decide⟩
  have within : multiplyingBoth.body.Within (.constantsOf .projective ∅) := ⟨trivial, trivial⟩
  have passes :
      ((Build.outcome (multiplyingBoth.build [rows, columns] true : Build (Program Ranged))
          ⟨2, [], .usual⟩).1.map fun program =>
            decide (program.blades.length = 1) &&
              program.steps.all fun step => !step.ids.isEmpty).toOption =
        some true := by
    decide +kernel
  rcases Build.exists_built passes with ⟨program, behind, built, isProduct⟩
  rcases Function.isComplete_of_build (Workspace.sound_empty 2 .usual) areOf within built with
    ⟨complete, matched⟩
  rw [Bool.and_eq_true, decide_eq_true_eq, List.all_eq_true] at isProduct
  have areFit (type : ElementType) : program.ConstantsFit type := by
    intro step member isConstant
    have hasFactors := isProduct.2 step member
    rw [isConstant] at hasFactors
    cases hasFactors
  have broadcast :
      Tensor.commonShape ([rows, columns].map Entity.batchShape) = .ok [0, 2 ^ 33, 2 ^ 33] :=
    rfl
  refine ⟨program, behind, built, matched, broadcast, fun context => ?_⟩
  -- The rows cannot be told apart, however much fits into memory.
  have noRoom :
      Tensor.isRepresentable context.limits.capacity ([0, 2 ^ 33, 2 ^ 33] ++ [1]) = false :=
    Bool.and_eq_false_imp.2 fun _ => by decide +kernel
  rw [← isProduct.1] at noRoom
  have comes := complete.comesTo matched broadcast context
  generalize (outcome (execute program [rows, columns]) context).1 = result at comes ⊢
  cases comes with
  | entity _ room => exact absurd room (Bool.eq_false_iff.1 noRoom)
  | unfit unfit => exact absurd (areFit _) unfit
  | crowded => rfl

end Versor
