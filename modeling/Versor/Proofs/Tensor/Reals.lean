import Versor.Proofs.Program.Execution
import Versor.Tensor.Elementwise

/-!
# Tensors of real numbers

Real numbers are exact, and they have the functions that the closed formulas
of motions need.  `Holds` says which values a tensor has at the indices of its
shape, and `HoldsRows` does for tensors with a last dimension that is counted
by itself.  There is one lemma for each operation on tensors that entities are
rebuilt with.
-/

noncomputable section

namespace Versor

/-! ## Shortcuts for numerals, coordinates and fractions in formulas -/

instance atLeastTwo_two : Nat.AtLeastTwo 2 :=
  inferInstance

instance neZero_three : NeZero 3 :=
  inferInstance

instance charZero_real : CharZero ℝ :=
  inferInstance

/-! ## Arithmetic -/

open scoped Classical in
/-- Real numbers with exact operations, whatever the element type. -/
instance realArithmetic : RealArithmetic ℝ where
  zero := 0
  cast _ value := value
  add _ left right := left + right
  mul _ left right := left * right
  ofRat? value := some (value : ℝ)
  fits _ _ := true
  isOne value := decide (value = 1)
  ofInt value := value
  neg _ value := -value
  abs _ value := |value|
  div _ left right := left / right
  sqrt _ value := √value
  sin _ value := Real.sin value
  cos _ value := Real.cos value
  arctan2 _ ordinate abscissa := Complex.arg ⟨abscissa, ordinate⟩
  boundType type _ := type
  less left right := decide (left < right)
  isZero value := decide (value = 0)

instance : ExactArithmetic ℝ where
  zero := rfl
  cast _ _ := rfl
  add _ _ _ := rfl
  mul _ _ _ := rfl
  ofRat? value := congrArg some (by rw [Rat.smul_def, mul_one])
  fits _ _ := rfl
  isOne _ := decide_eq_true_iff

theorem ElementType.isFloating_toFloating
    (type : ElementType) :
    type.toFloating.isFloating = true := by
  cases type <;> rfl

namespace Tensor

/-! ## Shapes -/

/-- The indices of a shape with one more dimension. -/
theorem isIndex_append_iff_exists
    {shape places : List Nat}
    {size : Nat} :
    IsIndex (shape ++ [size]) places ↔
      ∃ index place, places = index ++ [place] ∧ IsIndex shape index ∧ place < size := by
  constructor
  · intro isIndex
    rcases List.eq_nil_or_concat places with rfl | ⟨index, place, rfl⟩
    · have lengths := isIndex.length_eq
      simp at lengths
    · rw [List.concat_eq_append] at isIndex ⊢
      exact ⟨index, place, rfl, isIndex_append_iff.1 isIndex⟩
  · rintro ⟨index, place, rfl, isIndex, below⟩
    exact isIndex_append_iff.2 ⟨isIndex, below⟩

theorem stretches_append_one
    (shape : List Nat)
    (size : Nat) :
    Stretches (shape ++ [1]) (shape ++ [size]) := by
  rw [Stretches, List.reverse_append, List.reverse_append]
  exact .cons (.inl rfl) (.refl _)

theorem stretchIndex_append_one
    {shape index : List Nat}
    (isIndex : IsIndex shape index)
    (place : Nat) :
    stretchIndex (shape ++ [1]) (index ++ [place]) = index ++ [0] := by
  have lengths := isIndex.length_eq
  have self := stretchIndex_self isIndex
  rw [stretchIndex] at self ⊢
  simp only [lengths, List.length_append, List.length_singleton, Nat.sub_self,
    List.drop_zero] at self ⊢
  rw [List.zip_append lengths.symm, List.map_append, self]
  rfl

theorem offset_append_one
    {shape index : List Nat}
    (isIndex : IsIndex shape index) :
    offset (shape ++ [1]) (index ++ [0]) = offset shape index := by
  induction isIndex with
  | nil => rfl
  | @cons first size index rest _ _ inductionHypothesis =>
      have sameCount : entryCount (rest ++ [1]) = entryCount rest := by
        simp [entryCount]
      rw [List.cons_append, List.cons_append, offset, offset, inductionHypothesis, sameCount]

/-! ## Values at the indices of the shape -/

/-- A tensor of a shape with given values at its indices. -/
structure Holds
    (tensor : Tensor ℝ)
    (shape : List Nat)
    (values : List Nat → ℝ) :
    Prop where
  shape_eq : tensor.shape = shape
  get_eq : ∀ index, IsIndex shape index → tensor.get index = values index

/-- A tensor with given rows of a width at the indices of a batch. -/
def HoldsRows
    (tensor : Tensor ℝ)
    (batch : List Nat)
    (width : Nat)
    (rows : List Nat → Nat → ℝ) :
    Prop :=
  tensor.Holds (batch ++ [width]) fun index => rows index.dropLast (index.getLast?.getD 0)

variable
  {tensor : Tensor ℝ}
  {shape batch : List Nat}
  {values : List Nat → ℝ}
  {width : Nat}
  {rows : List Nat → Nat → ℝ}

theorem Holds.congr
    (holds : tensor.Holds shape values)
    {others : List Nat → ℝ}
    (same : ∀ index, IsIndex shape index → values index = others index) :
    tensor.Holds shape others where
  shape_eq := holds.shape_eq
  get_eq index isIndex := (holds.get_eq index isIndex).trans (same index isIndex)

theorem holds_ofFn
    (type : ElementType)
    (shape : List Nat)
    (entry : List Nat → ℝ) :
    (ofFn type shape entry).Holds shape entry where
  shape_eq := rfl
  get_eq _ isIndex := get_ofFn type entry isIndex

theorem Holds.spreads
    (holds : tensor.Holds shape values) :
    tensor.Spreads shape values where
  stretches := holds.shape_eq ▸ .refl shape
  get index isIndex := by
    rw [holds.shape_eq, stretchIndex_self isIndex, holds.get_eq index isIndex]

theorem Holds.cast
    (holds : tensor.Holds shape values)
    (type : ElementType) :
    (tensor.cast type).Holds shape values where
  shape_eq := (tensor.shape_cast type).trans holds.shape_eq
  get_eq index isIndex := by
    rw [get_cast]
    exact holds.get_eq index isIndex

theorem Holds.stretch
    (holds : tensor.Holds shape values)
    (stretches : Stretches shape batch) :
    (tensor.stretch batch).Holds batch fun index => values (stretchIndex shape index) where
  shape_eq := rfl
  get_eq index isIndex := by
    rw [Tensor.stretch, get_ofFn _ _ isIndex, holds.shape_eq]
    exact holds.get_eq _ (isIndex_stretchIndex stretches isIndex)

theorem holdsRows_iff :
    tensor.HoldsRows batch width rows ↔
      tensor.shape = batch ++ [width] ∧
        ∀ index, IsIndex batch index → ∀ place < width,
          tensor.get (index ++ [place]) = rows index place := by
  constructor
  · intro holds
    refine ⟨Holds.shape_eq holds, fun index isIndex place below => ?_⟩
    rw [Holds.get_eq holds _ (isIndex_append_iff.2 ⟨isIndex, below⟩)]
    simp
  · rintro ⟨shape, get⟩
    refine ⟨shape, fun places isIndex => ?_⟩
    rcases isIndex_append_iff_exists.1 isIndex with ⟨index, place, rfl, inBatch, below⟩
    simpa using get index inBatch place below

theorem HoldsRows.congr
    (holds : tensor.HoldsRows batch width rows)
    {others : List Nat → Nat → ℝ}
    (same : ∀ index, IsIndex batch index → ∀ place < width, rows index place = others index place) :
    tensor.HoldsRows batch width others := by
  rw [holdsRows_iff] at holds ⊢
  exact
    ⟨holds.1, fun index isIndex place below =>
      (holds.2 index isIndex place below).trans (same index isIndex place below)⟩

/-! ## Places of the last dimension -/

theorem HoldsRows.column
    (holds : tensor.HoldsRows batch width rows)
    {place : Nat}
    (below : place < width) :
    (tensor.column place).Holds batch fun index => rows index place := by
  rw [holdsRows_iff] at holds
  have dropped : tensor.shape.dropLast = batch := by rw [holds.1, List.dropLast_concat]
  rw [Tensor.column, dropped]
  exact (holds_ofFn ..).congr fun index isIndex => holds.2 index isIndex place below

theorem HoldsRows.columns
    (holds : tensor.HoldsRows batch width rows)
    {start stop : Nat}
    (below : stop ≤ width) :
    (tensor.columns start stop).HoldsRows batch (stop - start) fun index place =>
      rows index (start + place) := by
  rw [holdsRows_iff] at holds
  have shape : (tensor.columns start stop).shape = batch ++ [stop - start] := by
    simp [Tensor.columns, ofFn, holds.1, Nat.min_eq_left below]
  refine holdsRows_iff.2 ⟨shape, fun index isIndex place inside => ?_⟩
  have inShape : IsIndex (tensor.columns start stop).shape (index ++ [place]) :=
    shape ▸ isIndex_append_iff.2 ⟨isIndex, inside⟩
  refine (get_ofFn _ _ inShape).trans ?_
  simpa using holds.2 index isIndex (start + place) (by omega)

/-- Tensors of one shape side by side are the rows of their values. -/
theorem holdsRows_stack
    (type : ElementType)
    {parts : List (Tensor ℝ)}
    {values : List (List Nat → ℝ)}
    (hold : List.Forall₂ (fun part value => part.Holds batch value) parts values) :
    (stack type batch parts).HoldsRows batch parts.length fun index place =>
      ((values.map fun value => value index)[place]?).getD 0 := by
  refine holdsRows_iff.2 ⟨by simp [stack, ofFn], fun index isIndex place inside => ?_⟩
  have otherInside : place < values.length := hold.length_eq ▸ inside
  rw [get_stack type isIndex inside, ExactArithmetic.cast]
  refine ((hold.get inside otherInside).get_eq index isIndex).trans ?_
  simp [otherInside]

theorem Holds.withLastDimension
    (holds : tensor.Holds batch values) :
    tensor.withLastDimension.HoldsRows batch 1 fun index _ => values index := by
  have shape : tensor.withLastDimension.shape = batch ++ [1] :=
    congrArg (· ++ [1]) holds.shape_eq
  refine holdsRows_iff.2 ⟨shape, fun index isIndex place inside => ?_⟩
  rw [Nat.lt_one_iff.1 inside, ← holds.get_eq index isIndex, get, get, shape,
    offset_append_one isIndex, holds.shape_eq]
  rfl

/-- A value for each row is a value for each of its places. -/
theorem HoldsRows.spreads
    {value : List Nat → ℝ}
    (holds : tensor.HoldsRows batch 1 fun index _ => value index)
    (width : Nat) :
    tensor.Spreads (batch ++ [width]) fun index => value index.dropLast where
  stretches := Holds.shape_eq holds ▸ stretches_append_one batch width
  get places isIndex := by
    rcases isIndex_append_iff_exists.1 isIndex with ⟨index, place, rfl, inBatch, _⟩
    rw [Holds.shape_eq holds, stretchIndex_append_one inBatch,
      (holdsRows_iff.1 holds).2 index inBatch 0 Nat.one_pos, List.dropLast_concat]

/-! ## Arithmetic -/

theorem Holds.exists_zipWith
    {left right : Tensor ℝ}
    {first second : List Nat → ℝ}
    (leftHolds : left.Holds shape first)
    (rightSpreads : right.Spreads shape second)
    (type kind : ElementType)
    (operation : ℝ → ℝ → ℝ) :
    ∃ result, zipWith type kind operation left right = .ok result ∧ result.type = kind ∧
      result.Holds shape fun index => operation (first index) (second index) := by
  have leftStretches : Stretches left.shape shape := leftHolds.shape_eq ▸ .refl shape
  have common : commonShape [left.shape, right.shape] = .ok shape := by
    refine commonShape_eq ?_ (leftHolds.shape_eq ▸ .head _)
    simp [leftStretches, rightSpreads.stretches]
  refine ⟨_, by rw [zipWith, common]; rfl, rfl, (holds_ofFn ..).congr fun index isIndex => ?_⟩
  rw [leftHolds.spreads.get index isIndex, rightSpreads.get index isIndex,
    ExactArithmetic.cast, ExactArithmetic.cast]

theorem Holds.exists_div
    {left right : Tensor ℝ}
    {first second : List Nat → ℝ}
    (leftHolds : left.Holds shape first)
    (rightSpreads : right.Spreads shape second) :
    ∃ result, left.div right = .ok result ∧ result.type.isFloating = true ∧
      result.Holds shape fun index => first index / second index := by
  let type := (commonType [left, right]).toFloating
  rcases leftHolds.exists_zipWith rightSpreads type type (RealArithmetic.div type) with
    ⟨result, divided, sameType, holds⟩
  exact ⟨result, divided, sameType ▸ ElementType.isFloating_toFloating _, holds⟩

theorem Holds.exists_neg
    (holds : tensor.Holds shape values)
    (floating : tensor.type.isFloating = true) :
    ∃ result, tensor.neg = .ok result ∧ result.Holds shape fun index => -values index := by
  have notTruth : tensor.type ≠ .boolean := by
    intro truth
    rw [truth] at floating
    cases floating
  refine ⟨_, if_neg notTruth, holds.shape_eq, fun index isIndex => ?_⟩
  rw [← holds.get_eq index isIndex]
  exact get_map neg_zero _ tensor index

theorem Holds.scale
    (holds : tensor.Holds shape values)
    (factor : ℝ) :
    (tensor.scale factor).Holds shape fun index => values index * factor where
  shape_eq := holds.shape_eq
  get_eq index isIndex := by
    have scaled := (holds.spreads.scale factor).get index isIndex
    rwa [show (tensor.scale factor).shape = shape from holds.shape_eq,
      stretchIndex_self isIndex] at scaled

/-! ## Lengths and directions -/

theorem HoldsRows.exists_length
    (holds : tensor.HoldsRows batch 3 rows)
    (floating : tensor.type.isFloating = true)
    (few : batch.length < maxGatheredDimensions) :
    ∃ result, tensor.length = .ok result ∧
      result.Holds batch fun index =>
        √(rows index 0 ^ 2 + rows index 1 ^ 2 + rows index 2 ^ 2) := by
  rw [holdsRows_iff] at holds
  rcases holds with ⟨shape, get⟩
  have notMany : ¬ maxGatheredDimensions < tensor.shape.length := by
    rw [shape, List.length_append, List.length_singleton]
    omega
  have dropped : tensor.shape.dropLast = batch := by rw [shape, List.dropLast_concat]
  have last : tensor.shape.getLast?.getD 0 = 3 := by rw [shape, List.getLast?_concat]; rfl
  refine
    ⟨ofFn tensor.type batch fun index =>
      √(((List.range 3).map fun place =>
        tensor.get (index ++ [place]) * tensor.get (index ++ [place])).foldl (· + ·) 0),
      ?_, (holds_ofFn ..).congr fun index isIndex => ?_⟩
  · rw [Tensor.length, if_pos floating]
    simp only [last, dropped]
    rw [if_neg (by decide), if_neg notMany]
    rfl
  · have squares :
        (List.range 3).map (fun place =>
          tensor.get (index ++ [place]) * tensor.get (index ++ [place])) =
          [rows index 0 ^ 2, rows index 1 ^ 2, rows index 2 ^ 2] := by
      simp [List.range_succ, get index isIndex 0 (by decide), get index isIndex 1 (by decide),
        get index isIndex 2 (by decide), sq]
    rw [squares]
    simp

/-- Over too many dimensions no lengths are taken. -/
theorem HoldsRows.length_of_many
    (holds : tensor.HoldsRows batch 3 rows)
    (floating : tensor.type.isFloating = true)
    (many : ¬ batch.length < maxGatheredDimensions) :
    tensor.length = .error .tooManyDimensions := by
  rw [holdsRows_iff] at holds
  have last : tensor.shape.getLast?.getD 0 = 3 := by rw [holds.1, List.getLast?_concat]; rfl
  have tooMany : maxGatheredDimensions < tensor.shape.length := by
    rw [holds.1, List.length_append, List.length_singleton]
    omega
  rw [Tensor.length, if_pos floating]
  simp only [last]
  rw [if_neg (by decide), if_pos tooMany]

/-- Where entries are positive. -/
theorem getD_isPositive
    (tensor : Tensor ℝ)
    (place : Nat) :
    (tensor.isPositive.data[place]?).getD false =
      decide (0 < (tensor.data[place]?).getD 0) := by
  simp only [isPositive, test, Array.getElem?_map]
  cases tensor.data[place]? with
  | none => exact (decide_eq_false (lt_irrefl 0)).symm
  | some value => rfl

/-- Entries are chosen where a condition holds. -/
theorem Holds.exists_choose
    {condition : Tensor Bool}
    {accepted rejected : Tensor ℝ}
    {first second : List Nat → ℝ}
    {truth : List Nat → Prop}
    [DecidablePred truth]
    (stretches : Stretches condition.shape shape)
    (truthAt :
      ∀ index, IsIndex shape index →
        (condition.data[offset condition.shape (stretchIndex condition.shape index)]?).getD false =
          decide (truth index))
    (acceptedHolds : accepted.Holds shape first)
    (rejectedHolds : rejected.Holds shape second) :
    ∃ result, choose condition accepted rejected = .ok result ∧
      result.Holds shape fun index => if truth index then first index else second index := by
  have common : commonShape [condition.shape, accepted.shape, rejected.shape] = .ok shape := by
    refine commonShape_eq ?_ (acceptedHolds.shape_eq ▸ .tail _ (.head _))
    simp [acceptedHolds.shape_eq, rejectedHolds.shape_eq, Stretches.refl, stretches]
  refine ⟨_, by rw [choose, common]; rfl, (holds_ofFn ..).congr fun index isIndex => ?_⟩
  dsimp only
  rw [ExactArithmetic.cast, truthAt index isIndex, acceptedHolds.spreads.get index isIndex,
    rejectedHolds.spreads.get index isIndex]
  simp only [decide_eq_true_eq]

theorem HoldsRows.exists_choose
    {condition accepted rejected : Tensor ℝ}
    {positive : List Nat → ℝ}
    {others : List Nat → Nat → ℝ}
    (conditionHolds : condition.HoldsRows batch 1 fun index _ => positive index)
    (acceptedHolds : accepted.HoldsRows batch width rows)
    (rejectedHolds : rejected.HoldsRows batch width others) :
    ∃ result, choose condition.isPositive accepted rejected = .ok result ∧
      result.HoldsRows batch width fun index place =>
        if 0 < positive index then rows index place else others index place := by
  have conditionSpreads := conditionHolds.spreads width
  refine Holds.exists_choose conditionSpreads.stretches (fun index isIndex => ?_) acceptedHolds
    rejectedHolds
  rw [getD_isPositive, ← conditionSpreads.get index isIndex]
  rfl

end Tensor

end Versor

end
