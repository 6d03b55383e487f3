import Versor.Program
import Versor.Proofs.Expression.Leaves
import Versor.Proofs.Tensor.Stretch

/-!
# Running programs in exact arithmetic

With exact numbers in place of floating point ones, conversions change
nothing and sums and products are those of a ring.  If the slots have given
values at the indices of the batch, then every step contributes its
coefficient times the product of its slots, and every output slot holds the
sum of the contributions of its steps (`exists_run`).
-/

namespace Versor

/--
Arithmetic without rounding: the operations are those of a ring whatever the
element type, and every coefficient has a number of its own.
-/
class ExactArithmetic
    (Number : Type)
    [CommRing Number]
    [Module ℚ Number]
    [Arithmetic Number] :
    Prop where
  zero : (Arithmetic.zero : Number) = 0
  cast : ∀ type (value : Number), Arithmetic.cast type value = value
  add : ∀ type (left right : Number), Arithmetic.add type left right = left + right
  mul : ∀ type (left right : Number), Arithmetic.mul type left right = left * right
  ofRat? : ∀ value : ℚ, Arithmetic.ofRat? value = some (value • (1 : Number))
  fits : ∀ type (value : Number), Arithmetic.fits type value = true
  isOne : ∀ value : Number, Arithmetic.isOne value = true ↔ value = 1

/-- Rational numbers with exact operations, whatever the element type. -/
instance exactArithmetic : Arithmetic ℚ where
  zero := 0
  cast _ value := value
  add _ left right := left + right
  mul _ left right := left * right
  ofRat? := some
  fits _ _ := true
  isOne value := decide (value = 1)

instance : ExactArithmetic ℚ where
  zero := rfl
  cast _ _ := rfl
  add _ _ _ := rfl
  mul _ _ _ := rfl
  ofRat? value := congrArg some (mul_one value).symm
  fits _ _ := rfl
  isOne _ := decide_eq_true_iff

variable {Number : Type} [CommRing Number] [Module ℚ Number] [Arithmetic Number]

/-! ## Tensors of exact numbers -/

namespace Tensor

variable [ExactArithmetic Number] {shape : List Nat}

theorem spreads_fill
    (type : ElementType)
    (shape : List Nat)
    (value : Number) :
    ∃ result, fill type shape value = .ok result ∧ result.Spreads shape fun _ => value := by
  refine ⟨filled type shape value, if_pos (ExactArithmetic.fits type value), ?_⟩
  simpa only [filled, ExactArithmetic.cast] using
    spreads_ofFn (.refl shape) type fun _ => value

theorem exists_mul
    {left right : Tensor Number}
    {first second : List Nat → Number}
    (leftSpreads : left.Spreads shape first)
    (rightSpreads : right.Spreads shape second) :
    ∃ result, left.mul right = .ok result ∧
      result.Spreads shape fun index => first index * second index := by
  rcases exists_zipWith leftSpreads rightSpreads (commonType [left, right])
      (commonType [left, right]) (Arithmetic.mul (commonType [left, right])) with
    ⟨result, multiplied, spreads⟩
  simp only [ExactArithmetic.cast, ExactArithmetic.mul] at spreads
  exact ⟨result, multiplied, spreads⟩

theorem exists_add
    {left right : Tensor Number}
    {first second : List Nat → Number}
    (leftSpreads : left.Spreads shape first)
    (rightSpreads : right.Spreads shape second) :
    ∃ result, left.add right = .ok result ∧
      result.Spreads shape fun index => first index + second index := by
  rcases exists_zipWith leftSpreads rightSpreads (commonType [left, right])
      (commonType [left, right]) (Arithmetic.add (commonType [left, right])) with
    ⟨result, added, spreads⟩
  simp only [ExactArithmetic.cast, ExactArithmetic.add] at spreads
  exact ⟨result, added, spreads⟩

theorem Spreads.scale
    {tensor : Tensor Number}
    {values : List Nat → Number}
    (spreads : tensor.Spreads shape values)
    (factor : Number) :
    (tensor.scale factor).Spreads shape fun index => values index * factor where
  stretches := spreads.stretches
  get index isIndex := by
    have scaled :
        tensor.scale factor =
          ⟨tensor.type.toFloating, tensor.shape, tensor.data.map fun entry => entry * factor⟩ := by
      simp only [Tensor.scale, ExactArithmetic.cast, ExactArithmetic.mul]
    have keepsZero : (Arithmetic.zero : Number) * factor = Arithmetic.zero := by
      rw [ExactArithmetic.zero, zero_mul]
    rw [← spreads.get index isIndex, scaled]
    exact get_map keepsZero _ tensor _

theorem get_cast
    (type : ElementType)
    (tensor : Tensor Number)
    (index : List Nat) :
    (tensor.cast type).get index = tensor.get index := by
  rw [Tensor.cast]
  split
  · rfl
  · rw [get_map (ExactArithmetic.cast type _), ExactArithmetic.cast]

theorem Spreads.cast
    {tensor : Tensor Number}
    {values : List Nat → Number}
    (spreads : tensor.Spreads shape values)
    (type : ElementType) :
    (tensor.cast type).Spreads shape values where
  stretches := (tensor.shape_cast type).symm ▸ spreads.stretches
  get index isIndex := by
    rw [get_cast, shape_cast]
    exact spreads.get index isIndex

end Tensor

/-- What a step contributes when its slots have given values. -/
def Step.valueAt
    (step : Step Number)
    (slots : SourceId → Number) :
    Number :=
  step.coefficient * (step.ids.map slots).prod

namespace Program

/-- The steps of an output slot. -/
def stepsOf
    (program : Program Number)
    (slot : Nat) :
    List (Step Number) :=
  program.steps.filter fun step => step.slot == slot

/-- Columns that have given values at the indices of a batch. -/
def Provides
    (columns : Columns Number)
    (batch : List Nat)
    (slots : List Nat → SourceId → Number)
    (ids : Set SourceId) :
    Prop :=
  ∀ id ∈ ids, ∃ found, columns.lookup id = some found ∧
    found.Spreads batch fun index => slots index id

section Steps

variable [ExactArithmetic Number]

variable
  {columns : Columns Number}
  {batch : List Nat}
  {slots : List Nat → SourceId → Number}
  {ids : Set SourceId}
  (provides : Provides columns batch slots ids)

include provides

omit [CommRing Number] [Module ℚ Number] [ExactArithmetic Number] in
theorem exists_column
    {id : SourceId}
    (member : id ∈ ids) :
    ∃ found, column columns id = .ok found ∧
      found.Spreads batch fun index => slots index id := by
  rcases provides id member with ⟨found, lookup, spreads⟩
  exact ⟨found, by rw [column, lookup], spreads⟩

theorem exists_multiplySlots
    {start : Tensor Number}
    {values : List Nat → Number}
    (spreads : start.Spreads batch values)
    {rest : List SourceId}
    (members : ∀ id ∈ rest, id ∈ ids) :
    ∃ result, multiplySlots columns start rest = .ok result ∧
      result.Spreads batch fun index => values index * (rest.map (slots index)).prod := by
  induction rest generalizing start values with
  | nil => exact ⟨start, rfl, by simpa using spreads⟩
  | cons id rest inductionHypothesis =>
      rcases List.forall_mem_cons.1 members with ⟨member, restMembers⟩
      rcases exists_column provides member with ⟨factor, found, factorSpreads⟩
      rcases Tensor.exists_mul spreads factorSpreads with ⟨between, multiplied, betweenSpreads⟩
      rcases inductionHypothesis betweenSpreads restMembers with ⟨result, reached, resultSpreads⟩
      refine ⟨result, ?_, ?_⟩
      · simp only [multiplySlots, found, multiplied, reached, bind, Except.bind]
      · simpa [mul_assoc] using resultSpreads

theorem exists_stepValue
    (type : ElementType)
    {step : Step Number}
    (members : ∀ id ∈ step.ids, id ∈ ids) :
    ∃ result, stepValue columns type batch step = .ok result ∧
      result.Spreads batch fun index => step.valueAt (slots index) := by
  rcases step with ⟨slot, coefficient, stepIds⟩
  cases stepIds with
  | nil =>
      rcases Tensor.spreads_fill type batch coefficient with ⟨result, filled, spreads⟩
      exact ⟨result, filled, by simpa [Step.valueAt] using spreads⟩
  | cons first rest =>
      rcases List.forall_mem_cons.1 members with ⟨member, restMembers⟩
      rcases exists_column provides member with ⟨start, found, startSpreads⟩
      rcases exists_multiplySlots provides startSpreads restMembers with
        ⟨product, multiplied, spreads⟩
      by_cases isOne : coefficient = 1
      · refine ⟨product, ?_, ?_⟩
        · have skipped : Arithmetic.isOne coefficient = true :=
            (ExactArithmetic.isOne coefficient).2 isOne
          simp only [stepValue, found, multiplied, bind, Except.bind, skipped, if_true]
        · simpa [Step.valueAt, isOne] using spreads
      · refine ⟨product.scale coefficient, ?_, ?_⟩
        · have scaled : Arithmetic.isOne coefficient = false :=
            Bool.eq_false_iff.2 (mt (ExactArithmetic.isOne coefficient).1 isOne)
          simp [stepValue, found, multiplied, bind, Except.bind, scaled]
        · simpa [Step.valueAt, mul_comm] using spreads.scale coefficient

theorem exists_sumSteps
    (type : ElementType)
    {total : Tensor Number}
    {values : List Nat → Number}
    (spreads : total.Spreads batch values)
    {steps : List (Step Number)}
    (members : ∀ step ∈ steps, ∀ id ∈ step.ids, id ∈ ids) :
    ∃ result, sumSteps columns type batch total steps = .ok result ∧
      result.Spreads batch fun index =>
        values index + (steps.map fun step => step.valueAt (slots index)).sum := by
  induction steps generalizing total values with
  | nil => exact ⟨total, rfl, by simpa using spreads⟩
  | cons step rest inductionHypothesis =>
      rcases List.forall_mem_cons.1 members with ⟨stepMembers, restMembers⟩
      rcases exists_stepValue provides type stepMembers with ⟨value, found, valueSpreads⟩
      rcases Tensor.exists_add spreads valueSpreads with ⟨between, added, betweenSpreads⟩
      rcases inductionHypothesis betweenSpreads restMembers with ⟨result, reached, resultSpreads⟩
      refine ⟨result, ?_, ?_⟩
      · simp only [sumSteps, found, added, reached, bind, Except.bind]
      · simpa [add_assoc] using resultSpreads

/-- The values of an output slot are the sums of what its steps contribute. -/
theorem exists_slotValue
    (type : ElementType)
    {steps : List (Step Number)}
    (nonempty : steps ≠ [])
    (members : ∀ step ∈ steps, ∀ id ∈ step.ids, id ∈ ids) :
    ∃ result, slotValue columns type batch steps = .ok result ∧
      ∀ index, Tensor.IsIndex batch index →
        result.get index = (steps.map fun step => step.valueAt (slots index)).sum := by
  cases steps with
  | nil => exact absurd rfl nonempty
  | cons first rest =>
      rcases List.forall_mem_cons.1 members with ⟨firstMembers, restMembers⟩
      rcases exists_stepValue provides type firstMembers with ⟨start, found, startSpreads⟩
      rcases exists_sumSteps provides type startSpreads restMembers with ⟨total, summed, spreads⟩
      refine ⟨(total.cast type).stretch batch, ?_, fun index isIndex => ?_⟩
      · simp only [slotValue, found, summed, bind, Except.bind]
      · rw [(spreads.cast type).get_stretch isIndex, List.map_cons, List.sum_cons]

end Steps

/--
A program whose steps only use slots that have been collected runs, and each
output slot holds the sum of what its steps contribute.
-/
theorem exists_run
    [ExactArithmetic Number]
    {program : Program Number}
    {entities : List (Entity Number)}
    {columns : Columns Number}
    {batch : List Nat}
    {slots : List Nat → SourceId → Number}
    {ids : Set SourceId}
    (arity : entities.length = program.inputs.length)
    (collected : program.collect [] (entities.zip program.inputs) = .ok columns)
    (broadcast : Tensor.commonShape (entities.map Entity.batchShape) = .ok batch)
    (provides : Provides columns batch slots ids)
    (members : ∀ step ∈ program.steps, ∀ id ∈ step.ids, id ∈ ids)
    (filled : ∀ slot < program.blades.length, program.stepsOf slot ≠ [])
    (standard : ElementType) :
    ∃ result, program.run standard entities = .ok result ∧
      result.shape = batch ++ [program.blades.length] ∧
      ∀ index, Tensor.IsIndex batch index → ∀ slot < program.blades.length,
        result.get (index ++ [slot]) =
          ((program.stepsOf slot).map fun step => step.valueAt (slots index)).sum := by
  let type := outputType standard entities
  have found :
      ∀ slot ∈ List.range program.blades.length, ∃ result,
        slotValue columns type batch (program.stepsOf slot) = .ok result ∧
          ∀ index, Tensor.IsIndex batch index →
            result.get index =
              ((program.stepsOf slot).map fun step => step.valueAt (slots index)).sum :=
    fun slot member =>
      exists_slotValue provides type (filled slot (List.mem_range.1 member))
        fun step inSteps => members step (List.mem_of_mem_filter inSteps)
  rcases exists_mapM_eq_ok found with ⟨parts, mapped, values⟩
  have length : parts.length = program.blades.length := by
    rw [← values.length_eq, List.length_range]
  refine ⟨Tensor.stack type batch parts, ?_, ?_, fun index isIndex slot below => ?_⟩
  · have slotsMapped :
        ((List.range program.blades.length).mapM fun slot =>
          slotValue columns (outputType standard entities) batch
            (program.steps.filter fun step => step.slot == slot)) = .ok parts :=
      mapped
    unfold run
    simp only [arity, collected, broadcast, bind, Except.bind]
    rw [if_neg (not_not.2 rfl), slotsMapped]
  · simp [Tensor.stack, Tensor.ofFn, length]
  · have inside : slot < parts.length := length ▸ below
    have inRange : slot < (List.range program.blades.length).length := by simpa using below
    rw [Tensor.get_stack type isIndex inside]
    have value := values.get inRange inside index isIndex
    simp only [List.get_eq_getElem, List.getElem_range] at value
    rw [ExactArithmetic.cast]
    exact value

end Program
end Versor
