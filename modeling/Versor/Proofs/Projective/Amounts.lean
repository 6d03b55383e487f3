import Versor.Proofs.Projective.Transform
import Versor.Proofs.Tensor.Analysis

/-!
# Amounts

Angles, distances and coordinates are numbers or tensors, each over a batch of
its own.  Side by side they stretch to one batch, and every row has their
entries at its index (`Compute.ensures_stackAmounts`).
-/

noncomputable section

namespace Versor

open Compute

variable {limits : Limits}

/-! ## Values with entries -/

/-- A value for a slot that has the same entries in each floating point type. -/
structure Amount where
  value : SlotValue ℝ
  shape : List Nat
  entry : List Nat → ℝ
  isRead :
    ∀ type : ElementType, type.isFloating = true →
      ∃ tensor, value.toTensor type = .ok tensor ∧ tensor.Holds shape entry

namespace Amount

/-- A number as an amount. -/
def number
    (entry : ℝ) :
    Amount where
  value := .number entry
  shape := []
  entry _ := entry
  isRead type _ := ⟨_, rfl, Tensor.holds_ofFn type [] _⟩

/-- A tensor as an amount. -/
def ofTensor
    {tensor : Tensor ℝ}
    {shape : List Nat}
    {entry : List Nat → ℝ}
    (holds : tensor.Holds shape entry) :
    Amount where
  value := .tensor tensor
  shape := shape
  entry := entry
  isRead type _ := ⟨tensor.cast type, rfl, holds.cast type⟩

/-- The entry at an index of a batch that the shape stretches to. -/
def entryAt
    (amount : Amount)
    (index : List Nat) :
    ℝ :=
  amount.entry (Tensor.stretchIndex amount.shape index)

@[simp]
theorem entryAt_number
    (entry : ℝ)
    (index : List Nat) :
    (number entry).entryAt index = entry :=
  rfl

theorem entryAt_ofTensor
    {tensor : Tensor ℝ}
    {shape : List Nat}
    {entry : List Nat → ℝ}
    (holds : tensor.Holds shape entry)
    {index : List Nat}
    (isIndex : Tensor.IsIndex shape index) :
    (ofTensor holds).entryAt index = entry index :=
  congrArg entry (Tensor.stretchIndex_self isIndex)

theorem entryAt_stretch
    {amount : Amount}
    {batch target index : List Nat}
    (stretches : Tensor.Stretches amount.shape batch)
    (reaches : Tensor.Stretches batch target)
    (isIndex : Tensor.IsIndex target index) :
    amount.entryAt (Tensor.stretchIndex batch index) = amount.entryAt index := by
  rw [entryAt, Tensor.stretchIndex_stretchIndex stretches reaches isIndex, entryAt]

end Amount

/-! ## Amounts side by side -/

/-- The entries of amounts at an index, with zeros behind the last one. -/
def Amount.row
    (amounts : List Amount)
    (index : List Nat)
    (place : Nat) :
    ℝ :=
  (amounts[place]?.map fun amount => amount.entryAt index).getD 0

theorem Amount.row_stretch
    {amounts : List Amount}
    {batch target index : List Nat}
    (stretch : ∀ shape ∈ amounts.map Amount.shape, Tensor.Stretches shape batch)
    (reaches : Tensor.Stretches batch target)
    (isIndex : Tensor.IsIndex target index) :
    Amount.row amounts (Tensor.stretchIndex batch index) = Amount.row amounts index := by
  funext place
  cases found : amounts[place]? with
  | none => simp [row, found]
  | some amount =>
      have stretches : Tensor.Stretches amount.shape batch :=
        stretch _ (List.mem_map_of_mem (List.mem_of_getElem? found))
      simp [row, found, entryAt_stretch stretches reaches isIndex]

/-- Values side by side have a floating point type. -/
theorem Tensor.isFloating_valueType
    {standard : ElementType}
    (floating : standard.isFloating = true)
    (values : List (SlotValue ℝ)) :
    (Tensor.valueType standard values).isFloating = true := by
  unfold Tensor.valueType
  split
  · split
    · assumption
    · exact floating
  · exact floating

/-- Values that are read as tensors of shapes with a common one are put side by side. -/
theorem Tensor.stackValues_of_read
    {standard : ElementType}
    {values : List (SlotValue ℝ)}
    (nonempty : values ≠ [])
    {tensors : List (Tensor ℝ)}
    (read : values.mapM (SlotValue.toTensor (valueType standard values)) = .ok tensors)
    {batch : List Nat}
    (common : commonShape (tensors.map Tensor.shape) = .ok batch)
    (capacity : Nat) :
    stackValues capacity standard values =
      if isRepresentable capacity (batch ++ [values.length]) then
        .ok (stack (valueType standard values) batch (tensors.map (stretch batch)))
      else .error .incompatibleShapes := by
  simp [stackValues, nonempty, read, common, bind, Except.bind]

/-- Amounts are put side by side where there is room. -/
theorem Amount.exists_stackValues
    {amounts : List Amount}
    (nonempty : amounts ≠ [])
    {batch : List Nat}
    (common : Tensor.commonShape (amounts.map Amount.shape) = .ok batch)
    {standard : ElementType}
    (floating : standard.isFloating = true)
    (capacity : Nat) :
    ∃ storage,
      Tensor.stackValues capacity standard (amounts.map Amount.value) =
        (if Tensor.isRepresentable capacity (batch ++ [amounts.length]) then .ok storage
          else .error .incompatibleShapes) ∧
        storage.HoldsRows batch amounts.length (Amount.row amounts) := by
  have stretch := Tensor.stretches_of_commonShape common
  let type := Tensor.valueType standard (amounts.map Amount.value)
  have typeFloating : type.isFloating = true := Tensor.isFloating_valueType floating _
  choose tensor read holds using fun amount : Amount => amount.isRead type typeFloating
  have allRead :
      (amounts.map Amount.value).mapM (SlotValue.toTensor type) = .ok (amounts.map tensor) := by
    rw [mapM_eq_ok, List.forall₂_map_left_iff, List.forall₂_map_right_iff, List.forall₂_same]
    exact fun amount _ => read amount
  have shapes : (amounts.map tensor).map Tensor.shape = amounts.map Amount.shape := by
    rw [List.map_map]
    exact List.map_congr_left fun amount _ => (holds amount).shape_eq
  have stretched :
      List.Forall₂ (fun part values => Tensor.Holds part batch values)
        ((amounts.map tensor).map (Tensor.stretch batch)) (amounts.map Amount.entryAt) := by
    rw [List.map_map, List.forall₂_map_left_iff, List.forall₂_map_right_iff, List.forall₂_same]
    exact fun amount member =>
      (holds amount).stretch (stretch _ (List.mem_map_of_mem member))
  have stacked :=
    Tensor.stackValues_of_read (by simpa using nonempty) allRead (shapes ▸ common) capacity
  have rows := Tensor.holdsRows_stack type stretched
  rw [List.length_map] at stacked
  rw [List.length_map, List.length_map] at rows
  refine ⟨_, stacked, rows.congr fun index _ place _ => ?_⟩
  rw [Amount.row, List.map_map, List.getElem?_map]
  rfl

/-- Amounts side by side have a row of entries at each index. -/
theorem Compute.ensures_stackAmounts
    {certain : Prop}
    {context : Context ℝ}
    {batch : List Nat}
    (ready : context.IsReady limits)
    {amounts : List Amount}
    (nonempty : amounts ≠ [])
    (narrow : amounts.length ≤ 16)
    (common : Tensor.commonShape (amounts.map Amount.shape) = .ok batch)
    (room : certain → limits.HasRoom batch) :
    (stackValues (amounts.map Amount.value)).Ensures limits certain context fun storage _ =>
      storage.HoldsRows batch amounts.length (Amount.row amounts) := by
  rcases
      Amount.exists_stackValues nonempty common context.config.isFloating_elementType
        context.limits.capacity with
    ⟨storage, stacked, rows⟩
  refine .of_outcome ready rfl (fun isCertain => ?_) fun other found => ?_
  · have fits := (room isCertain).tensors _ narrow
    rw [← ready.limits_eq] at fits
    exact ⟨storage, by rw [stacked, if_pos fits]⟩
  · rw [stacked] at found
    split at found
    · cases found
      exact rows
    · cases found

/-- An entity with one amount for each slot. -/
theorem Compute.ensures_ofValues
    {certain : Prop}
    {context : Context ℝ}
    {batch : List Nat}
    (ready : context.IsReady limits)
    {layout : Layout}
    (projective : layout.IsProjective)
    {amounts : List Amount}
    (nonempty : amounts ≠ [])
    (width : amounts.length = layout.width)
    (common : Tensor.commonShape (amounts.map Amount.shape) = .ok batch)
    (room : certain → limits.HasRoom batch) :
    (ofValues layout (amounts.map Amount.value)).Ensures limits certain context
      (Rebuilt context batch layout (Amount.row amounts)) := by
  have narrow : amounts.length ≤ 16 := width ▸ projective.narrow
  exact
    (ensures_stackAmounts ready nonempty narrow common room).bind_rebuilt
      fun _ _ isReady _ rows =>
        ensures_wrap_rows isReady room projective (width ▸ rows) fun _ _ => rfl

/-- The slots of the rotor of an angle and an axis. -/
def rotorSlots
    (row : Nat → ℝ)
    (slot : Nat) :
    ℝ :=
  ([Real.cos (row 0 / 2), Real.sin (row 0 / 2), row 1, row 2, row 3][slot]?).getD 0

/-- The rotor of an angle and an axis stores the cosine and the sine of half the angle. -/
theorem Compute.ensures_rotor_amounts
    {certain : Prop}
    {context : Context ℝ}
    {batch : List Nat}
    (ready : context.IsReady limits)
    {angle x y z : Amount}
    (common : Tensor.commonShape ([angle, x, y, z].map Amount.shape) = .ok batch)
    (room : certain → limits.HasRoom batch) :
    (rotor angle.value x.value y.value z.value).Ensures limits certain context
      (Rebuilt context batch .rotor fun index =>
        rotorSlots (Amount.row [angle, x, y, z] index)) := by
  refine (ensures_stackAmounts ready (List.cons_ne_nil _ _) (by simp) common room).bind_rebuilt
    fun values between isReady _ rows => ?_
  have shape : values.shape.dropLast = batch := by
    rw [(Tensor.holdsRows_iff.1 rows).1, List.dropLast_concat]
  have half : (values.column 0).half.Fills batch fun index =>
      Amount.row [angle, x, y, z] index 0 / ((2 : ℤ) : ℝ) :=
    (rows.fills_column (by simp)).map_data _ _
  have column {place : Nat} (below : place < 4) :
      (values.column place).Holds batch fun index => Amount.row [angle, x, y, z] index place :=
    rows.column below
  have stacked :=
    Tensor.holdsRows_stack values.type
      (.cons half.cos.toHolds (.cons half.sin.toHolds
        (.cons (column (by decide : 1 < 4)) (.cons (column (by decide : 2 < 4))
          (.cons (column (by decide : 3 < 4)) .nil)))))
  rw [shape]
  refine
    ensures_wrap_rows isReady room Layout.IsMotor.rotor.isProjective stacked
      fun index _ => Layout.valueAt_congr _ fun slot _ => ?_
  simp [rotorSlots]

end Versor

end
