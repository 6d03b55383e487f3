import Versor.Projective.Conversion
import Versor.Proofs.Engine.Room
import Versor.Proofs.Projective.Coordinates
import Versor.Proofs.Tensor.Analysis

/-!
# Values on blades

Reading an entity blade by blade gives the coefficients of the element that it
stands for (`Compute.ensures_selectBlades`), whether its slots are coefficients
or have to be evaluated first.
-/

noncomputable section

namespace Versor

open Compute Reference

variable {limits : Limits}

/-! ## Slots that are coefficients -/

namespace Layout

variable {layout : Layout}

theorem valueAt_of_isBladeMapped
    (mapped : layout.isBladeMapped = true)
    (slots : Nat → ℝ) :
    layout.valueAt slots = (generic layout.algebra layout.elements []).valueAt slots := by
  cases layout <;> first | rfl | cases mapped

theorem width_of_isBladeMapped
    (mapped : layout.isBladeMapped = true) :
    layout.width = layout.elements.length := by
  cases layout <;> first | rfl | cases mapped

end Layout

/-- The coefficients of an element on blades, side by side. -/
def coefficients
    (blades : List Blade)
    (value : List Nat → Element ℝ)
    (index : List Nat)
    (place : Nat) :
    ℝ :=
  ((blades.map fun blade => value index (Blade.vectors blade))[place]?).getD 0

namespace Entity

variable
  {algebra : Algebra}
  {batch : List Nat}
  {value : List Nat → Element ℝ}
  {entity : Entity ℝ}

/-- The storage of an entity has its slots as rows. -/
theorem IsFull.holdsRows
    (full : entity.IsFull algebra) :
    entity.storage.HoldsRows entity.batchShape entity.layout.width fun index slot =>
      entity.storage.get (index ++ [slot]) :=
  Tensor.holdsRows_iff.2 ⟨full.shape_eq, fun _ _ _ _ => rfl⟩

theorem IsFull.slot_eq
    (full : entity.IsFull algebra)
    {place : Nat}
    (below : place < entity.layout.width) :
    entity.slot place = .ok (entity.storage.column place) := by
  simp [slot, Entity.width, full.width, below, bind, Except.bind]

namespace Represents

/-- At the indices of the batch, an entity stands for what its layout makes of its rows. -/
theorem valueAt_rows
    (represents : entity.Represents algebra batch value)
    {index : List Nat}
    (isIndex : Tensor.IsIndex batch index) :
    entity.layout.valueAt (fun slot => entity.storage.get (index ++ [slot])) = value index := by
  have inBatch : Tensor.IsIndex entity.batchShape index := represents.batchShape_eq ▸ isIndex
  rw [← represents.valueAt_eq index isIndex, Entity.valueAt]
  simp only [get_slot inBatch]

variable
  (represents : entity.Represents algebra batch value)
  (mapped : entity.layout.isBladeMapped = true)

include represents mapped

/-- One column of what is read where slots are coefficients. -/
theorem exists_column
    (blade : Blade) :
    ∃ column,
      (if entity.layout.elements.contains blade = true then
          entity.slot (entity.layout.elements.idxOf blade)
        else .ok (Tensor.filled entity.storage.type entity.batchShape Arithmetic.zero)) =
        .ok column ∧
      column.Holds batch fun index => value index (Blade.vectors blade) := by
  have rows := represents.full.holdsRows
  rw [represents.batchShape_eq] at rows
  by_cases member : blade ∈ entity.layout.elements
  · have inside := List.idxOf_lt_length_of_mem member
    have below : entity.layout.elements.idxOf blade < entity.layout.width :=
      (Layout.width_of_isBladeMapped mapped).symm ▸ inside
    refine
      ⟨_, by rw [if_pos (List.contains_iff_mem.2 member), represents.full.slot_eq below],
        (rows.column below).congr fun index isIndex => ?_⟩
    rw [← represents.valueAt_rows isIndex, Layout.valueAt_of_isBladeMapped mapped]
    have coefficient :
        (Layout.generic entity.layout.algebra entity.layout.elements []).valueAt
            (fun slot => entity.storage.get (index ++ [slot]))
            (Blade.vectors entity.layout.elements[entity.layout.elements.idxOf blade]) =
          entity.storage.get (index ++ [entity.layout.elements.idxOf blade]) :=
      Layout.valueAt_generic_getElem _ represents.distinct inside
    rw [List.getElem_idxOf inside] at coefficient
    exact coefficient.symm
  · have absent : ¬ entity.layout.elements.contains blade = true := fun contains =>
      member (List.contains_iff_mem.1 contains)
    refine ⟨_, if_neg absent, ?_⟩
    rw [represents.batchShape_eq]
    refine (Tensor.holds_ofFn ..).congr fun index isIndex => ?_
    rw [← represents.valueAt_rows isIndex, Layout.valueAt_of_isBladeMapped mapped,
      Layout.valueAt_generic_of_not_mem _ member]
    rfl

theorem exists_selectSlots
    (blades : List Blade) :
    ∃ values, entity.selectSlots blades = .ok values ∧
      values.type = entity.storage.type ∧
      values.HoldsRows batch blades.length (coefficients blades value) := by
  rcases exists_mapM_eq_ok fun blade (_ : blade ∈ blades) =>
      represents.exists_column mapped blade with
    ⟨columns, found, hold⟩
  refine
    ⟨Tensor.stack entity.storage.type batch columns, ?_, rfl, ?_⟩
  · rw [selectSlots, found, represents.batchShape_eq]
    rfl
  · have columnsHold :
        List.Forall₂ (fun column values => column.Holds batch values) columns
          (blades.map fun blade index => value index (Blade.vectors blade)) :=
      List.forall₂_map_right_iff.2 hold.flip
    have rows := Tensor.holdsRows_stack entity.storage.type columnsHold
    rw [← hold.length_eq] at rows
    refine rows.congr fun index _ place _ => ?_
    rw [coefficients, List.map_map]
    rfl

end Represents

end Entity

/-! ## Reading an entity -/

namespace Compute

/-- The batches of a single entity have its own as the common one. -/
theorem commonShape_singleton
    (shape : List Nat) :
    Tensor.commonShape [shape] = .ok shape :=
  Tensor.commonShape_eq (by simp [Tensor.Stretches.refl]) (.head _)

theorem identified_singleton
    (entity : Entity ℝ) :
    Identified [entity] := by
  intro first firstMember second secondMember _
  rw [List.mem_singleton.1 firstMember, List.mem_singleton.1 secondMember]

/-- The identity makes a generic entity that stands for the same elements, whatever the algebra. -/
theorem ensures_identity
    {certain : Prop}
    {context : Context ℝ}
    (ready : context.IsReady limits)
    {algebra : Algebra}
    {entity : Entity ℝ}
    {batch : List Nat}
    {value : List Nat → Element ℝ}
    (represents : entity.Represents algebra batch value)
    (room : certain → limits.HasRoomFor algebra batch) :
    (applyLibrary .identity [entity]).Ensures limits certain context fun source _ =>
      source.Represents algebra batch value ∧ source.layout.isBladeMapped = true ∧
        source.storage.type.isFloating = true := by
  have broadcast : Tensor.commonShape ([entity].map Entity.batchShape) = .ok batch := by
    rw [List.map_singleton, represents.batchShape_eq, commonShape_singleton]
  have called :=
    ensures_applyLibrary ready (identified_singleton entity)
      (List.forall_mem_singleton.2 represents.full)
      (List.forall_mem_singleton.2 represents.inRange)
      (fun isCertain => ⟨batch, broadcast, room isCertain⟩) .identity
      (LibraryFunction.isOver .identity)
  refine called.mono fun source behind _ called => ⟨?_, ?_, called.isNew.floating⟩
  · have sameBatch : source.batchShape = batch :=
      Except.ok.inj (called.broadcast.symm.trans broadcast)
    have stands := called.represents
    rw [sameBatch] at stands
    exact stands.congr fun index isIndex => represents.valueAt_eq index isIndex
  · have generic := called.generic
    generalize source.layout = layout at generic
    cases layout <;> first | rfl | cases generic

variable
  {certain : Prop}
  {context : Context ℝ}
  (ready : context.IsReady limits)
  {entity : Entity ℝ}
  {batch : List Nat}
  {value : List Nat → Element ℝ}
  (represents : entity.Represents .projective batch value)
  (room : certain → limits.HasRoom batch)

include ready represents room

/-- The generic form of an entity stands for the same elements. -/
theorem ensures_toEntity :
    (toEntity entity).Ensures limits certain context fun source _ =>
      source.Represents .projective batch value ∧ source.layout.isBladeMapped = true ∧
        (entity.storage.type.isFloating = true → source.storage.type.isFloating = true) := by
  rw [toEntity]
  split
  · next isBladeList =>
    have mapped : entity.layout.isBladeMapped = true := by
      generalize entity.layout = layout at isBladeList
      cases layout <;> first | rfl | cases isBladeList
    exact .pure ready ⟨represents, mapped, id⟩
  · exact
      (ensures_identity ready represents room).mono fun source _ _ exported =>
        ⟨exported.1, exported.2.1, fun _ => exported.2.2⟩

omit represents room in
/-- Where slots are coefficients, the blades are checked and the slots are read. -/
theorem ensures_selectSlots
    {algebra : Algebra}
    (represents : entity.Represents algebra batch value)
    (mapped : entity.layout.isBladeMapped = true)
    {blades : List Blade}
    (below : ∀ blade ∈ blades, blade < algebra.bladeCount) :
    (do
        let blades ←
          ofExcept ((blades.map fun (blade : Blade) => .integer (blade : Int)).mapM
            entity.algebra.checkBlade)
        ofExcept (entity.selectSlots blades) : Compute ℝ (Tensor ℝ)).Ensures limits
      certain context fun values _ =>
        (entity.storage.type.isFloating = true → values.type.isFloating = true) ∧
          values.HoldsRows batch blades.length (coefficients blades value) := by
  have checked :
      (blades.map fun (blade : Blade) => Literal.integer (blade : Int)).mapM
          entity.algebra.checkBlade =
        .ok blades := by
    refine Algebra.mapM_checkBlade_of_lt fun blade member => ?_
    rw [represents.full.agrees.bladeCount_eq]
    exact below blade member
  rcases represents.exists_selectSlots mapped blades with ⟨values, selected, sameType, rows⟩
  exact .ofOk_bind checked (.ofOk ready selected ⟨fun given => sameType ▸ given, rows⟩)

/-- What is read on blades are the coefficients of what an entity stands for. -/
theorem ensures_selectBlades
    {blades : List Blade}
    (below : ∀ blade ∈ blades, blade < 16) :
    (selectBlades entity blades).Ensures limits certain context fun values _ =>
      (entity.storage.type.isFloating = true → values.type.isFloating = true) ∧
        values.HoldsRows batch blades.length (coefficients blades value) := by
  have inAlgebra : ∀ blade ∈ blades, blade < Algebra.projective.bladeCount :=
    Algebra.bladeCount_projective.symm ▸ below
  rw [selectBlades, select]
  split
  · next mapped => exact ensures_selectSlots ready represents mapped inAlgebra
  · refine (ensures_toEntity ready represents room).bind fun source behind isReady _ sourced => ?_
    rcases sourced with ⟨isSame, mapped, floating⟩
    refine
      (ensures_selectSlots isReady isSame mapped inAlgebra).mono fun values _ _ selected => ?_
    exact ⟨fun given => selected.1 (floating given), selected.2⟩

/-- What is read on one blade is the coefficient of what an entity stands for. -/
theorem ensures_coefficient
    {blade : Blade}
    (below : blade < 16) :
    (component entity (.integer (blade : Int))).Ensures limits certain context fun column _ =>
      (entity.storage.type.isFloating = true → column.type.isFloating = true) ∧
        column.Fills batch fun index => value index (Blade.vectors blade) := by
  have selected :=
    ensures_selectBlades ready represents room (List.forall_mem_singleton.2 below)
  exact selected.bind fun values _ isReady _ held =>
    .pure isReady ⟨held.1, held.2.fills_column Nat.one_pos⟩

end Compute

end Versor

end
