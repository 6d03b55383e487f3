import Versor.Proofs.Tensor.Reals

/-!
# Functions of real analysis on tensors

A tensor that stores all its entries has the values of a function of them,
also of one that does not keep zero (`Fills.mapFloating`).  The functions that
exponential and logarithm of motors are made of are followed entry by entry.
-/

noncomputable section

namespace Versor
namespace Tensor

variable
  {tensor : Tensor ℝ}
  {shape batch : List Nat}
  {values : List Nat → ℝ}
  {width : Nat}
  {rows : List Nat → Nat → ℝ}

/-! ## All entries -/

/-- A tensor that stores given values at all indices of a shape. -/
structure Fills
    (tensor : Tensor ℝ)
    (shape : List Nat)
    (values : List Nat → ℝ) :
    Prop
    extends tensor.Holds shape values where
  size_eq : tensor.data.size = entryCount shape

theorem Fills.congr
    (fills : tensor.Fills shape values)
    {others : List Nat → ℝ}
    (same : ∀ index, IsIndex shape index → values index = others index) :
    tensor.Fills shape others where
  toHolds := fills.toHolds.congr same
  size_eq := fills.size_eq

theorem fills_ofFn
    (type : ElementType)
    (shape : List Nat)
    (entry : List Nat → ℝ) :
    (ofFn type shape entry).Fills shape entry where
  toHolds := holds_ofFn type shape entry
  size_eq := by
    rw [ofFn]
    split
    · next empty => exact empty.symm
    · simp [length_indices]

theorem HoldsRows.fills_column
    (holds : tensor.HoldsRows batch width rows)
    {place : Nat}
    (below : place < width) :
    (tensor.column place).Fills batch fun index => rows index place where
  toHolds := holds.column below
  size_eq := by
    have dropped : tensor.shape.dropLast = batch := by
      rw [(holdsRows_iff.1 holds).1, List.dropLast_concat]
    rw [Tensor.column, (fills_ofFn _ _ _).size_eq, dropped]

/-- The entry at the place of an index is the value there. -/
theorem Fills.getElem?_offset
    (fills : tensor.Fills shape values)
    {index : List Nat}
    (isIndex : IsIndex shape index) :
    tensor.data[offset shape index]? = some (values index) := by
  have inside : offset shape index < tensor.data.size := by
    rw [fills.size_eq]
    exact offset_lt isIndex
  rw [← fills.get_eq index isIndex, get, fills.shape_eq]
  simp [inside]

/-- A function of the entries is a function of what is read. -/
theorem Fills.map_data
    (fills : tensor.Fills shape values)
    (type : ElementType)
    (function : ℝ → ℝ) :
    (⟨type, tensor.shape, tensor.data.map function⟩ : Tensor ℝ).Fills shape fun index =>
      function (values index) where
  shape_eq := fills.shape_eq
  get_eq index isIndex := by
    rw [get, fills.shape_eq, Array.getElem?_map, fills.getElem?_offset isIndex]
    rfl
  size_eq := (Array.size_map ..).trans fills.size_eq

theorem Fills.exists_neg
    (fills : tensor.Fills shape values)
    (floating : tensor.type.isFloating = true) :
    ∃ result, tensor.neg = .ok result ∧ result.type = tensor.type ∧
      result.Fills shape fun index => -values index := by
  have notTruth : tensor.type ≠ .boolean := fun truth => by
    rw [truth] at floating
    cases floating
  exact ⟨_, if_neg notTruth, rfl, fills.map_data _ _⟩

theorem Fills.exists_abs
    (fills : tensor.Fills shape values)
    (floating : tensor.type.isFloating = true) :
    ∃ result, tensor.abs = .ok result ∧ result.Fills shape fun index => |values index| := by
  have notTruth : tensor.type ≠ .boolean := fun truth => by
    rw [truth] at floating
    cases floating
  exact ⟨_, if_neg notTruth, fills.map_data _ _⟩

theorem Fills.sqrt
    (fills : tensor.Fills shape values) :
    tensor.sqrt.Fills shape fun index => √(values index) :=
  fills.map_data _ _

theorem Fills.sin
    (fills : tensor.Fills shape values) :
    tensor.sin.Fills shape fun index => Real.sin (values index) :=
  fills.map_data _ _

theorem Fills.cos
    (fills : tensor.Fills shape values) :
    tensor.cos.Fills shape fun index => Real.cos (values index) :=
  fills.map_data _ _

theorem Fills.reciprocal
    (fills : tensor.Fills shape values) :
    tensor.reciprocal.Fills shape fun index => (values index)⁻¹ := by
  have inverted :
      tensor.reciprocal.Fills shape fun index => ((1 : ℤ) : ℝ) / values index :=
    fills.map_data _ _
  simpa using inverted

/-! ## Two tensors -/

section Two

variable
  {left right : Tensor ℝ}
  {first second : List Nat → ℝ}
  (leftHolds : left.Holds shape first)
  (rightHolds : right.Holds shape second)

include leftHolds rightHolds

theorem Holds.exists_mul :
    ∃ result, left.mul right = .ok result ∧
      result.Holds shape fun index => first index * second index := by
  rcases leftHolds.exists_zipWith rightHolds.spreads (commonType [left, right])
      (commonType [left, right]) (Arithmetic.mul (commonType [left, right])) with
    ⟨result, multiplied, _, holds⟩
  exact ⟨result, multiplied, holds⟩

theorem Holds.exists_arctan2 :
    ∃ result, left.arctan2 right = .ok result ∧
      result.Holds shape fun index => Complex.arg ⟨second index, first index⟩ := by
  let type := (commonType [left, right]).toFloating
  rcases leftHolds.exists_zipWith rightHolds.spreads type type (RealArithmetic.arctan2 type) with
    ⟨result, measured, _, holds⟩
  exact ⟨result, measured, holds⟩

end Two

/-- Where the entries are less than a bound. -/
theorem Fills.getD_lessThan
    (fills : tensor.Fills shape values)
    (bound : ℝ)
    {index : List Nat}
    (isIndex : IsIndex shape index) :
    ((tensor.lessThan bound).data[offset shape index]?).getD false =
      decide (values index < bound) := by
  simp only [lessThan, test, Array.getElem?_map, fills.getElem?_offset isIndex, Option.map_some,
    Option.getD_some]
  rfl

/-! ## All entries at once -/

/-- Every place below the number of entries is that of an index. -/
theorem exists_offset_eq
    {shape : List Nat}
    {place : Nat}
    (below : place < entryCount shape) :
    ∃ index, IsIndex shape index ∧ offset shape index = place := by
  induction shape generalizing place with
  | nil => exact ⟨[], .nil, (Nat.lt_one_iff.1 below).symm⟩
  | cons size rest inductionHypothesis =>
      change place < size * entryCount rest at below
      have positive : 0 < entryCount rest := Nat.pos_of_mul_pos_left (Nat.zero_lt_of_lt below)
      rcases inductionHypothesis (Nat.mod_lt place positive) with ⟨index, isIndex, same⟩
      refine ⟨place / entryCount rest :: index, .cons ?_ isIndex, ?_⟩
      · exact Nat.div_lt_of_lt_mul (Nat.mul_comm _ _ ▸ below)
      · rw [offset, same]
        exact Nat.div_add_mod' place _

/-- All entries are zero if all values are. -/
theorem Fills.exists_allZero
    (fills : tensor.Fills shape values)
    (few : shape.length ≤ maxGatheredDimensions) :
    ∃ result, tensor.allZero = .ok result ∧
      (result = true ↔ ∀ index, IsIndex shape index → values index = 0) := by
  refine ⟨_, if_neg (by rw [fills.shape_eq]; exact not_lt.2 few), ?_⟩
  rw [Array.all_eq_true']
  constructor
  · intro zeros index isIndex
    exact of_decide_eq_true (zeros _ (Array.mem_of_getElem? (fills.getElem?_offset isIndex)))
  · intro zeros entry member
    rcases Array.mem_iff_getElem?.1 member with ⟨place, found⟩
    have below := (Array.getElem?_eq_some_iff.1 found).choose
    rcases exists_offset_eq (fills.size_eq ▸ below) with ⟨index, isIndex, rfl⟩
    rw [fills.getElem?_offset isIndex] at found
    exact decide_eq_true ((Option.some.inj found).symm.trans (zeros index isIndex))

/-- Entries over too many dimensions are not looked at. -/
theorem Holds.allZero_of_many
    (holds : tensor.Holds shape values)
    (many : maxGatheredDimensions < shape.length) :
    tensor.allZero = .error .tooManyDimensions :=
  if_pos (holds.shape_eq ▸ many)

end Tensor
end Versor

end
