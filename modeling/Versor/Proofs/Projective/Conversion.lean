import Versor.Proofs.Projective.Sandwich
import Versor.Proofs.Projective.Selection

/-!
# Rebuilding entities from blades

An entity of a type that is rebuilt from another one has the slots which the
type reads off the element that the other one stands for
(`Compute.ensures_fromEntity`).  A point is divided by its weight, and a rotor
and a translator find their axis or direction again by a length, with a
convention of their own where it is zero.
-/

noncomputable section

namespace Versor

open Compute Reference

variable {limits : Limits}

/-! ## Directions -/

/-- A length times the direction is the vector, also where both are zero. -/
theorem length_mul_direction
    {length value : ℝ}
    (bounded : |value| ≤ length) :
    length * (if 0 < length then value / length else value) = value := by
  split
  · next positive => exact mul_div_cancel₀ value positive.ne'
  · next notPositive =>
    have vanishes : |value| ≤ 0 := bounded.trans (not_lt.1 notPositive)
    rw [abs_nonpos_iff.1 vanishes, mul_zero]

variable {batch : List Nat}

theorem Compute.exists_directionOf
    {vector length : Tensor ℝ}
    {rows : List Nat → Nat → ℝ}
    {lengths : List Nat → ℝ}
    (vectorHolds : vector.HoldsRows batch 3 rows)
    (lengthHolds : length.Holds batch lengths) :
    ∃ result, directionOf vector length = .ok result ∧
      result.HoldsRows batch 3 fun index place =>
        if 0 < lengths index then rows index place / lengths index else rows index place := by
  have column := lengthHolds.withLastDimension
  rcases Tensor.Holds.exists_div vectorHolds (column.spreads 3) with ⟨scaled, divided, _, holds⟩
  have scaledHolds :
      scaled.HoldsRows batch 3 fun index place => rows index place / lengths index :=
    holds
  rcases column.exists_choose scaledHolds vectorHolds with ⟨result, chosen, resultHolds⟩
  refine ⟨result, ?_, resultHolds⟩
  simp [directionOf, divided, chosen, bind, Except.bind]

/-- A length and a direction are found whose product is the vector. -/
theorem Compute.exists_length_directionOf
    {vector : Tensor ℝ}
    {rows : List Nat → Nat → ℝ}
    (holds : vector.HoldsRows batch 3 rows)
    (floating : vector.type.isFloating = true)
    (few : batch.length < Tensor.maxGatheredDimensions) :
    ∃ length direction, vector.length = .ok length ∧
      directionOf vector length = .ok direction ∧
      ∃ lengths directions, length.Holds batch lengths ∧
        direction.HoldsRows batch 3 directions ∧
        ∀ index, ∀ place < 3, lengths index * directions index place = rows index place := by
  rcases holds.exists_length floating few with ⟨length, measured, lengthHolds⟩
  rcases exists_directionOf holds lengthHolds with ⟨direction, divided, directionHolds⟩
  refine
    ⟨length, direction, measured, divided, _, _, lengthHolds, directionHolds,
      fun index place below => length_mul_direction (Real.abs_le_sqrt ?_)⟩
  have first := sq_nonneg (rows index 0)
  have second := sq_nonneg (rows index 1)
  have third := sq_nonneg (rows index 2)
  interval_cases place <;> linarith

/-! ## Storage of a type -/

namespace Layout

/-- What a layout with blades of the projective algebra has to satisfy to be stored. -/
structure IsProjective
    (layout : Layout) :
    Prop where
  algebra : layout.algebra = .projective
  inRange : layout.InRange
  distinct : layout.elements.Nodup
  narrow : layout.width ≤ 16

theorem IsMoved.isProjective
    {layout : Layout}
    (isMoved : layout.IsMoved) :
    layout.IsProjective := by
  cases isMoved <;> exact ⟨rfl, by decide, by decide, by decide⟩

theorem IsMotor.isProjective
    {layout : Layout}
    (isMotor : layout.IsMotor) :
    layout.IsProjective := by
  cases isMotor <;> exact ⟨rfl, by decide, by decide, by decide⟩

end Layout

namespace Compute

/-- A new entity of a layout that stands for the elements with given slots. -/
structure Rebuilt
    (context : Context ℝ)
    (batch : List Nat)
    (layout : Layout)
    (slots : List Nat → Nat → ℝ)
    (result : Entity ℝ)
    (behind : Context ℝ) :
    Prop where
  isNew : result.IsNew context behind
  layout_eq : result.layout = layout
  represents : result.Represents .projective batch fun index => layout.valueAt (slots index)

/-- What is rebuilt later is rebuilt. -/
theorem Rebuilt.of_le
    {context between behind : Context ℝ}
    {layout : Layout}
    {slots : List Nat → Nat → ℝ}
    {result : Entity ℝ}
    (rebuilt : Rebuilt between batch layout slots result behind)
    (free : context.workspace.free ≤ between.workspace.free) :
    Rebuilt context batch layout slots result behind where
  isNew := rebuilt.isNew.of_le free
  layout_eq := rebuilt.layout_eq
  represents := rebuilt.represents

variable
  {certain : Prop}
  {context : Context ℝ}
  (ready : context.IsReady limits)
  (room : certain → limits.HasRoom batch)
  {layout : Layout}
  (projective : layout.IsProjective)
  {slots : List Nat → Nat → ℝ}

include ready room projective

/-- Rows that stand for given elements make an entity that does. -/
theorem ensures_wrap_rows
    {tensor : Tensor ℝ}
    {rows : List Nat → Nat → ℝ}
    (holds : tensor.HoldsRows batch layout.width rows)
    (stands :
      ∀ index, Tensor.IsIndex batch index →
        layout.valueAt (rows index) = layout.valueAt (slots index)) :
    (wrap layout tensor).Ensures limits certain context (Rebuilt context batch layout slots) := by
  rw [Tensor.holdsRows_iff] at holds
  rcases holds with ⟨shape, entries⟩
  have width : tensor.shape.getLast? = some layout.width := by rw [shape, List.getLast?_concat]
  have representable (isCertain : certain) :
      Tensor.isRepresentable limits.capacity tensor.shape = true := by
    rw [shape]
    exact (room isCertain).tensors _ projective.narrow
  refine (ensures_wrap ready width representable).mono fun result behind _ wrapped => ?_
  rcases wrapped with ⟨isNew, sameLayout, sameShape, get⟩
  have batchShape : result.batchShape = batch := by
    rw [Entity.batchShape, sameShape, shape, List.dropLast_concat]
  refine
    ⟨isNew, sameLayout,
      { full := ⟨?_, ?_⟩
        inRange := sameLayout ▸ projective.inRange
        distinct := sameLayout ▸ projective.distinct
        batchShape_eq := batchShape
        valueAt_eq := fun index isIndex => ?_ }⟩
  · rw [Entity.algebra, sameLayout, projective.algebra]
  · rw [sameShape, sameLayout, width]
  · rw [← stands index isIndex, Entity.valueAt, sameLayout]
    refine layout.valueAt_congr fun slot below => ?_
    rw [Entity.get_slot (batchShape.symm ▸ isIndex), get, entries index isIndex slot below]

/-- Columns that stand for given elements make an entity that does. -/
theorem ensures_wrapColumns
    {columns : List (Tensor ℝ)}
    {values : List (List Nat → ℝ)}
    (hold : List.Forall₂ (fun column value => column.Holds batch value) columns values)
    (nonempty : columns ≠ [])
    (width : columns.length = layout.width)
    (stands :
      ∀ index, Tensor.IsIndex batch index →
        layout.valueAt (fun slot => ((values.map fun value => value index)[slot]?).getD 0) =
          layout.valueAt (slots index)) :
    (wrapColumns layout columns).Ensures limits certain context
      (Rebuilt context batch layout slots) := by
  have shape : ((columns.head?).map Tensor.shape).getD [] = batch := by
    cases hold with
    | nil => exact absurd rfl nonempty
    | cons first _ => exact first.shape_eq
  have rows := Tensor.holdsRows_stack (Tensor.commonType columns) hold
  rw [width] at rows
  rw [wrapColumns, shape]
  exact ensures_wrap_rows ready room projective rows stands

end Compute

/-! ## Types rebuilt from columns -/

namespace Compute

variable
  {certain : Prop}
  {context : Context ℝ}
  (ready : context.IsReady limits)
  (room : certain → limits.HasRoom batch)
  {values : Tensor ℝ}
  (floating : values.type.isFloating = true)
  {value : List Nat → Element ℝ}

include ready room floating

/-- A point is rebuilt by dividing by the weight. -/
theorem ensures_pointFrom
    (holds : values.HoldsRows batch 4 (coefficients Layout.point.elements value)) :
    (pointFrom values).Ensures limits certain context
      (Rebuilt context batch .point fun index => Layout.point.read (value index)) := by
  have weight : (values.column 3).Holds batch fun index => value index (Blade.vectors .e123) :=
    holds.column (by decide)
  have first : (values.column 2).Holds batch fun index => value index (Blade.vectors .e023) :=
    holds.column (by decide)
  have second : (values.column 1).Holds batch fun index => value index (Blade.vectors .e013) :=
    holds.column (by decide)
  have third : (values.column 0).Holds batch fun index => value index (Blade.vectors .e012) :=
    holds.column (by decide)
  rcases first.exists_neg floating with ⟨minusFirst, negatedFirst, minusFirstHolds⟩
  rcases third.exists_neg floating with ⟨minusThird, negatedThird, minusThirdHolds⟩
  rcases minusFirstHolds.exists_div weight.spreads with ⟨x, xDivided, _, xHolds⟩
  rcases second.exists_div weight.spreads with ⟨y, yDivided, _, yHolds⟩
  rcases minusThirdHolds.exists_div weight.spreads with ⟨z, zDivided, _, zHolds⟩
  rw [pointFrom]
  refine .ofOk_bind (by rw [negatedFirst]; exact xDivided) ?_
  refine .ofOk_bind yDivided ?_
  refine .ofOk_bind (by rw [negatedThird]; exact zDivided) ?_
  refine
    ensures_wrapColumns ready room Layout.IsMoved.point.isProjective
      (.cons xHolds (.cons yHolds (.cons zHolds .nil))) nofun rfl fun index _ => ?_
  refine Layout.valueAt_congr _ fun slot below => ?_
  change slot < 3 at below
  interval_cases slot <;> rfl

/-- A direction is rebuilt. -/
theorem ensures_vectorFrom
    (holds : values.HoldsRows batch 3 (coefficients Layout.vector.elements value)) :
    (vectorFrom values).Ensures limits certain context
      (Rebuilt context batch .vector fun index => Layout.vector.read (value index)) := by
  have first : (values.column 2).Holds batch fun index => value index (Blade.vectors .e023) :=
    holds.column (by decide)
  have second : (values.column 1).Holds batch fun index => value index (Blade.vectors .e013) :=
    holds.column (by decide)
  have third : (values.column 0).Holds batch fun index => value index (Blade.vectors .e012) :=
    holds.column (by decide)
  rcases first.exists_neg floating with ⟨x, xNegated, xHolds⟩
  rcases third.exists_neg floating with ⟨z, zNegated, zHolds⟩
  rw [vectorFrom]
  refine .ofOk_bind xNegated (.ofOk_bind zNegated ?_)
  refine
    ensures_wrapColumns ready room Layout.IsMoved.vector.isProjective
      (.cons xHolds (.cons second (.cons zHolds .nil))) nofun rfl fun index _ => ?_
  refine Layout.valueAt_congr _ fun slot below => ?_
  change slot < 3 at below
  interval_cases slot <;> rfl

/-- A line is rebuilt. -/
theorem ensures_lineFrom
    (holds :
      values.HoldsRows batch 6 (coefficients [.e23, .e13, .e12, .e01, .e02, .e03] value)) :
    (lineFrom values).Ensures limits certain context
      (Rebuilt context batch .line fun index => Layout.line.read (value index)) := by
  have first : (values.column 0).Holds batch fun index => value index (Blade.vectors .e23) :=
    holds.column (by decide)
  have second : (values.column 1).Holds batch fun index => value index (Blade.vectors .e13) :=
    holds.column (by decide)
  have third : (values.column 2).Holds batch fun index => value index (Blade.vectors .e12) :=
    holds.column (by decide)
  have fourth : (values.column 3).Holds batch fun index => value index (Blade.vectors .e01) :=
    holds.column (by decide)
  have fifth : (values.column 4).Holds batch fun index => value index (Blade.vectors .e02) :=
    holds.column (by decide)
  have sixth : (values.column 5).Holds batch fun index => value index (Blade.vectors .e03) :=
    holds.column (by decide)
  rcases second.exists_neg floating with ⟨y, yNegated, yHolds⟩
  rw [lineFrom]
  refine .ofOk_bind yNegated ?_
  refine
    ensures_wrapColumns ready room Layout.IsMoved.line.isProjective
      (.cons first (.cons yHolds (.cons third (.cons fourth (.cons fifth (.cons sixth .nil))))))
      nofun rfl fun index _ => ?_
  refine Layout.valueAt_congr _ fun slot below => ?_
  change slot < 6 at below
  interval_cases slot <;> rfl

variable (few : certain → batch.length < Tensor.maxGatheredDimensions)

include few

/-- A rotor is rebuilt with an axis and a sine of which only the product has to be the same. -/
theorem ensures_rotorFrom
    (holds : values.HoldsRows batch 4 (coefficients Layout.rotor.elements value)) :
    (rotorFrom values).Ensures limits certain context
      (Rebuilt context batch .rotor fun index => Layout.rotor.read (value index)) := by
  have cosine : (values.column 0).Holds batch fun index => value index (Blade.vectors 0) :=
    holds.column (by decide)
  have first : (values.column 3).Holds batch fun index => value index (Blade.vectors .e23) :=
    holds.column (by decide)
  have second : (values.column 2).Holds batch fun index => value index (Blade.vectors .e13) :=
    holds.column (by decide)
  have third : (values.column 1).Holds batch fun index => value index (Blade.vectors .e12) :=
    holds.column (by decide)
  rcases first.exists_neg floating with ⟨x, xNegated, xHolds⟩
  rcases third.exists_neg floating with ⟨z, zNegated, zHolds⟩
  have dropped : values.shape.dropLast = batch := by
    rw [(Tensor.holdsRows_iff.1 holds).1, List.dropLast_concat]
  have rows :=
    Tensor.holdsRows_stack values.type (.cons xHolds (.cons second (.cons zHolds .nil)))
  rw [rotorFrom]
  refine .ofOk_bind xNegated (.ofOk_bind zNegated ?_)
  dsimp only
  rw [dropped]
  by_cases isFew : batch.length < Tensor.maxGatheredDimensions
  · rcases exists_length_directionOf rows floating isFew with
      ⟨sine, axis, measured, divided, sines, axes, sineHolds, axisHolds, product⟩
    refine .ofOk_bind measured (.ofOk_bind divided ?_)
    refine
      ensures_wrapColumns ready room Layout.IsMotor.rotor.isProjective
        (.cons cosine (.cons sineHolds (.cons (axisHolds.column (by decide))
          (.cons (axisHolds.column (by decide))
            (.cons (axisHolds.column (by decide)) .nil))))) nofun rfl fun index _ => ?_
    rw [valueAt_rotor, valueAt_rotor]
    have x := product index 0 (by decide)
    have y := product index 1 (by decide)
    have z := product index 2 (by decide)
    refine congrArg Even.element ?_
    simp [Even.rotor, Layout.read, x, y, z]
  · exact .ofError_bind ready (rows.length_of_many floating isFew) (mt few isFew)

omit floating in
/-- A translator is rebuilt with a direction and a distance of which only the product matters. -/
theorem ensures_translatorFrom
    (holds : values.HoldsRows batch 4 (coefficients Layout.translator.elements value)) :
    (translatorFrom values).Ensures limits certain context
      (Rebuilt context batch .translator fun index => Layout.translator.read (value index)) := by
  have scalar : (values.columns 0 1).HoldsRows batch 1 fun index _ =>
      value index (Blade.vectors 0) := by
    refine (Tensor.HoldsRows.columns holds (by decide)).congr fun index _ place below => ?_
    interval_cases place
    rfl
  have shift : (values.columns 1 4).HoldsRows batch 3 fun index place =>
      coefficients Layout.translator.elements value index (1 + place) :=
    Tensor.HoldsRows.columns holds (by decide)
  rcases
      Tensor.Holds.exists_div (Tensor.Holds.scale shift (RealArithmetic.ofInt (-2)))
        (scalar.spreads 3) with
    ⟨displacement, scaled, isFloating, displacementHolds⟩
  have displaced : displacement.HoldsRows batch 3 fun index place =>
      coefficients Layout.translator.elements value index (1 + place) * -2 /
        value index (Blade.vectors 0) := by
    refine displacementHolds.congr fun index _ => ?_
    have minusTwo : (RealArithmetic.ofInt (-2) : ℝ) = -2 := by
      change (((-2 : ℤ)) : ℝ) = -2
      norm_num
    rw [minusTwo]
  rw [translatorFrom]
  refine .ofOk_bind scaled ?_
  by_cases isFew : batch.length < Tensor.maxGatheredDimensions
  · rcases exists_length_directionOf displaced isFloating isFew with
      ⟨distance, direction, measured, divided, distances, directions, distanceHolds,
        directionHolds, product⟩
    refine .ofOk_bind measured (.ofOk_bind divided ?_)
    refine
      ensures_wrapColumns ready room Layout.IsMotor.translator.isProjective
        (.cons distanceHolds (.cons (directionHolds.column (by decide))
          (.cons (directionHolds.column (by decide))
            (.cons (directionHolds.column (by decide)) .nil)))) nofun rfl fun index _ => ?_
    rw [valueAt_translator, valueAt_translator]
    have x := product index 0 (by decide)
    have y := product index 1 (by decide)
    have z := product index 2 (by decide)
    refine congrArg Even.element ?_
    simp only [Even.translator, List.map_cons, List.map_nil, List.getElem?_cons_zero,
      List.getElem?_cons_succ, Option.getD_some, x, y, z, Layout.read, one_mul]
    rfl
  · exact .ofError_bind ready (displaced.length_of_many isFloating isFew) (mt few isFew)

end Compute

/-- A rotor is not rebuilt over too many dimensions. -/
theorem Compute.rotorFrom_of_many
    {context : Context ℝ}
    {values : Tensor ℝ}
    (floating : values.type.isFloating = true)
    {rows : List Nat → Nat → ℝ}
    (holds : values.HoldsRows batch 4 rows)
    (many : Tensor.maxGatheredDimensions ≤ batch.length) :
    (outcome (rotorFrom values) context).1 = .error .tooManyDimensions := by
  have first : (values.column 3).Holds batch fun index => rows index 3 :=
    holds.column (by decide)
  have second : (values.column 2).Holds batch fun index => rows index 2 :=
    holds.column (by decide)
  have third : (values.column 1).Holds batch fun index => rows index 1 :=
    holds.column (by decide)
  rcases first.exists_neg floating with ⟨x, xNegated, xHolds⟩
  rcases third.exists_neg floating with ⟨z, zNegated, zHolds⟩
  have dropped : values.shape.dropLast = batch := by
    rw [(Tensor.holdsRows_iff.1 holds).1, List.dropLast_concat]
  have rows :=
    Tensor.holdsRows_stack values.type (.cons xHolds (.cons second (.cons zHolds .nil)))
  have refused := rows.length_of_many floating (not_lt.2 many)
  rw [rotorFrom, xNegated, zNegated, dropped]
  change
    (outcome (ofExcept (Tensor.stack values.type batch [x, values.column 2, z]).length >>= _)
      context).1 = _
  rw [refused]
  rfl

/-- A translator is not rebuilt over too many dimensions. -/
theorem Compute.translatorFrom_of_many
    {context : Context ℝ}
    {values : Tensor ℝ}
    {rows : List Nat → Nat → ℝ}
    (holds : values.HoldsRows batch 4 rows)
    (many : Tensor.maxGatheredDimensions ≤ batch.length) :
    (outcome (translatorFrom values) context).1 = .error .tooManyDimensions := by
  have scalar : (values.columns 0 1).HoldsRows batch 1 fun index _ => rows index 0 := by
    refine (Tensor.HoldsRows.columns holds (by decide)).congr fun index _ place below => ?_
    interval_cases place
    rfl
  have shift : (values.columns 1 4).HoldsRows batch 3 fun index place => rows index (1 + place) :=
    Tensor.HoldsRows.columns holds (by decide)
  rcases
      Tensor.Holds.exists_div (Tensor.Holds.scale shift (RealArithmetic.ofInt (-2)))
        (scalar.spreads 3) with
    ⟨displacement, scaled, isFloating, displacementHolds⟩
  have displaced : displacement.HoldsRows batch 3 fun index place =>
      rows index (1 + place) * RealArithmetic.ofInt (-2) / rows index 0 :=
    displacementHolds
  have refused := displaced.length_of_many isFloating (not_lt.2 many)
  rw [translatorFrom, scaled]
  change (outcome (ofExcept displacement.length >>= _) context).1 = _
  rw [refused]
  rfl

/-! ## Types rebuilt from entities -/

namespace Compute

/-- A computation and one that rebuilds an entity of its result. -/
theorem Ensures.bind_rebuilt
    {certain : Prop}
    {context : Context ℝ}
    {Result : Type}
    {computation : Compute ℝ Result}
    {holds : Result → Context ℝ → Prop}
    {next : Result → Compute ℝ (Entity ℝ)}
    {layout : Layout}
    {slots : List Nat → Nat → ℝ}
    (ensures : computation.Ensures limits certain context holds)
    (follows :
      ∀ result between, between.IsReady limits → context.workspace.free ≤ between.workspace.free →
        holds result between →
          (next result).Ensures limits certain between (Rebuilt between batch layout slots)) :
    (computation >>= next).Ensures limits certain context (Rebuilt context batch layout slots) :=
  ensures.bind fun result between ready free holding =>
    (follows result between ready free holding).mono fun _ _ _ rebuilt => rebuilt.of_le free

variable
  {certain : Prop}
  {context : Context ℝ}
  (ready : context.IsReady limits)
  {source : Entity ℝ}
  {value : List Nat → Element ℝ}
  (represents : source.Represents .projective batch value)
  (room : certain → limits.HasRoom batch)

include ready represents room

/-- A motor is rebuilt, also from storage that is not of a floating point type. -/
theorem ensures_motorOf :
    (motorOf source).Ensures limits certain context
      (Rebuilt context batch .motor fun index => Layout.motor.read (value index)) := by
  refine (ensures_selectBlades ready represents room (by decide)).bind_rebuilt
    fun values between isReady _ selected => ?_
  refine
    ensures_wrap_rows isReady room Layout.IsMotor.motor.isProjective selected.2
      fun index _ => Layout.valueAt_congr _ fun slot below => ?_
  change slot < 8 at below
  interval_cases slot <;> rfl

theorem ensures_fromEntity_plane :
    (fromEntity .plane source).Ensures limits certain context
      (Rebuilt context batch .plane fun index => Layout.plane.read (value index)) := by
  refine (ensures_selectBlades ready represents room (by decide)).bind_rebuilt
    fun values between isReady _ selected => ?_
  refine
    ensures_wrap_rows isReady room Layout.IsMoved.plane.isProjective selected.2
      fun index _ => Layout.valueAt_congr _ fun slot below => ?_
  change slot < 4 at below
  interval_cases slot <;> rfl

variable (floating : source.storage.type.isFloating = true)

include floating

/-- A line is rebuilt from the bivector part. -/
theorem ensures_lineOf :
    (lineOf source).Ensures limits certain context
      (Rebuilt context batch .line fun index => Layout.line.read (value index)) :=
  (ensures_selectBlades ready represents room (by decide)).bind_rebuilt
    fun _ _ isReady _ selected =>
      ensures_lineFrom isReady room (selected.1 floating) selected.2

/-- An entity of a type has the slots that the type reads off what another entity stands for. -/
theorem ensures_fromEntity
    {layout : Layout}
    (isTarget :
      layout.IsMoved ∨
        layout.IsMotor ∧ (certain → batch.length < Tensor.maxGatheredDimensions)) :
    (fromEntity layout.kind source).Ensures limits certain context
      (Rebuilt context batch layout fun index => layout.read (value index)) := by
  rcases isTarget with isMoved | ⟨isMotor, few⟩
  · cases isMoved with
    | plane => exact ensures_fromEntity_plane ready represents room
    | point =>
        exact (ensures_selectBlades ready represents room (by decide)).bind_rebuilt
          fun _ _ isReady _ selected =>
            ensures_pointFrom isReady room (selected.1 floating) selected.2
    | vector =>
        exact (ensures_selectBlades ready represents room (by decide)).bind_rebuilt
          fun _ _ isReady _ selected =>
            ensures_vectorFrom isReady room (selected.1 floating) selected.2
    | line => exact ensures_lineOf ready represents room floating
    | motor => exact ensures_motorOf ready represents room
  · cases isMotor with
    | rotor =>
        exact (ensures_selectBlades ready represents room (by decide)).bind_rebuilt
          fun _ _ isReady _ selected =>
            ensures_rotorFrom isReady room (selected.1 floating) few selected.2
    | translator =>
        exact (ensures_selectBlades ready represents room (by decide)).bind_rebuilt
          fun _ _ isReady _ selected =>
            ensures_translatorFrom isReady room few selected.2
    | motor => exact ensures_motorOf ready represents room

end Compute

end Versor

end
