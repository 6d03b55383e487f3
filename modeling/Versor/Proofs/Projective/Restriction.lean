import Versor.Proofs.Projective.Construction
import Versor.Proofs.Projective.Exponential
import Versor.Proofs.Projective.MotorGroup

/-!
# Types as parts

An entity of a type that is rebuilt from another one stands for the part of
that one on the blades of the type (`Compute.fromEntity_restricts`); a point
divides this part by its weight, and a translator by its scalar.
-/

noncomputable section

namespace Versor

open Compute

variable {limits : Limits}

namespace Reference

/-! ## Parts on blades -/

variable {Coefficient : Type} [CommRing Coefficient]

/-- The part of an element on given blades. -/
def partOn
    (blades : List Blade)
    (element : Element Coefficient) :
    Element Coefficient :=
  element.filter fun word => word ∈ blades.map Blade.vectors

@[simp]
theorem partOn_nil
    (element : Element Coefficient) :
    partOn [] element = 0 := by
  ext word
  simp [partOn]

/-- One more blade adds its own part. -/
theorem partOn_cons
    {blade : Blade}
    {rest : List Blade}
    (distinct : blade ∉ rest)
    (element : Element Coefficient) :
    partOn (blade :: rest) element =
      Finsupp.single (Blade.vectors blade) (element (Blade.vectors blade)) +
        partOn rest element := by
  have apart : Blade.vectors blade ∉ rest.map Blade.vectors := by
    rw [List.mem_map_of_injective Blade.vectors_injective]
    exact distinct
  ext word
  rw [Finsupp.add_apply, partOn, partOn, Finsupp.filter_apply, Finsupp.filter_apply]
  by_cases same : word = Blade.vectors blade
  · subst same
    simp [apart]
  · simp [same]

/-- A sum over given blades is its own part on these. -/
theorem partOn_list_sum
    {blades : List Blade}
    {elements : List (Element Coefficient)}
    (among :
      ∀ element ∈ elements, ∃ blade ∈ blades, ∃ coefficient,
        element = Finsupp.single (Blade.vectors blade) coefficient) :
    partOn blades elements.sum = elements.sum := by
  induction elements with
  | nil => exact Finsupp.filter_zero _
  | cons first rest inductionHypothesis =>
      rcases List.forall_mem_cons.1 among with ⟨⟨blade, member, coefficient, rfl⟩, restAmong⟩
      have restPart := inductionHypothesis restAmong
      rw [partOn] at restPart ⊢
      rw [List.sum_cons, Finsupp.filter_add, restPart,
        Finsupp.filter_single_of_pos _ (List.mem_map_of_mem member)]

end Reference

open Reference

namespace Layout

/-- An entity fills no blades but those of its layout. -/
theorem partOn_valueAt
    (layout : Layout)
    (slots : Nat → ℝ) :
    partOn layout.elements (layout.valueAt slots) = layout.valueAt slots := by
  refine partOn_list_sum fun element member => ?_
  rcases List.mem_map.1 member with ⟨term, inTerms, rfl⟩
  exact ⟨term.blade, blade_mem_elements inTerms, _, rfl⟩

/-- What the part on the blades of a type is divided by. -/
def divisor
    (layout : Layout)
    (value : Element ℝ) :
    ℝ :=
  match layout with
  | .point => value (Blade.vectors .e123)
  | .translator => value (Blade.vectors 0)
  | _ => 1

/-- What motions move is read as the part on the blades of the type. -/
theorem valueAt_read_of_isMoved
    {layout : Layout}
    (isMoved : layout.IsMoved)
    (value : Element ℝ)
    (nonzero : layout.divisor value ≠ 0) :
    layout.valueAt (layout.read value) =
      (layout.divisor value)⁻¹ • partOn layout.elements value := by
  cases isMoved with
  | plane =>
      rw [valueAt_plane, Odd.element_eq]
      simp (disch := decide) [divisor, elements, partOn_cons, Odd.plane, read]
      abel
  | point =>
      change value (Blade.vectors .e123) ≠ 0 at nonzero
      rw [valueAt_point, Odd.element_eq]
      simp (disch := decide) [divisor, elements, partOn_cons, Odd.point, read, div_eq_inv_mul,
        inv_mul_cancel₀ nonzero]
      abel
  | vector =>
      rw [valueAt_vector, Odd.element_eq]
      simp (disch := decide) [divisor, elements, partOn_cons, Odd.vector, read]
      abel
  | line =>
      rw [valueAt_line, Even.element_eq]
      simp (disch := decide) [divisor, elements, partOn_cons, Even.line, read]
      abel
  | motor =>
      rw [valueAt_motor, Even.element_eq]
      simp (disch := decide) [divisor, elements, motorElements, partOn_cons, Even.motor, read]
      abel

/-- Turns and shifts are read as the part on the blades of the type. -/
theorem valueAt_read_of_isSimpleMotor
    {layout : Layout}
    (isSimple : layout.IsSimpleMotor)
    (value : Element ℝ)
    (nonzero : layout.divisor value ≠ 0) :
    layout.valueAt (layout.read value) =
      (layout.divisor value)⁻¹ • partOn layout.elements value := by
  cases isSimple with
  | rotor =>
      rw [valueAt_rotor, Even.element_eq]
      simp (disch := decide) [divisor, elements, partOn_cons, Even.rotor, read]
      abel
  | translator =>
      change value [] ≠ 0 at nonzero
      have halved (entry : ℝ) : -(1 * (entry * -2 / value [])) / 2 = (value [])⁻¹ * entry := by
        field_simp
      rw [valueAt_translator, Even.element_eq]
      simp only [Even.translator, read, Blade.vectors_zero, halved]
      simp (disch := decide) [divisor, elements, partOn_cons, inv_mul_cancel₀ nonzero,
        -Finsupp.single_mul]
      abel

/-- A type whose slots are the coefficients on its blades, undivided. -/
structure IsMapped
    (layout : Layout) :
    Prop where
  mapped : layout.isBladeMapped = true
  distinct : layout.elements.Nodup
  narrow : layout.elements.length ≤ 16
  undivided : ∀ value, layout.divisor value = 1

theorem isMapped_dualNumber :
    dualNumber.IsMapped :=
  ⟨rfl, by decide, by decide, fun _ => rfl⟩

theorem isMapped_scalar
    (algebra : Algebra) :
    (scalar algebra).IsMapped :=
  ⟨rfl, List.nodup_singleton 0, Nat.le_add_left 1 15, fun _ => rfl⟩

namespace IsMapped

variable
  {layout : Layout}
  (isMapped : layout.IsMapped)

include isMapped

theorem valueAt_getElem
    (slots : Nat → ℝ)
    {place : Nat}
    (inside : place < layout.elements.length) :
    layout.valueAt slots (Blade.vectors layout.elements[place]) = slots place := by
  rw [valueAt_of_isBladeMapped isMapped.mapped]
  exact valueAt_generic_getElem _ isMapped.distinct inside

/-- The coefficients of an element on the blades of a type are slots of the part on them. -/
theorem valueAt_coefficients
    (value : List Nat → Element ℝ)
    (index : List Nat) :
    layout.valueAt (coefficients layout.elements value index) =
      partOn layout.elements (value index) := by
  rw [← partOn_valueAt]
  ext word
  rw [partOn, partOn, Finsupp.filter_apply, Finsupp.filter_apply]
  split
  · next member =>
    rcases List.mem_map.1 member with ⟨blade, inElements, rfl⟩
    rcases List.getElem_of_mem inElements with ⟨place, inside, rfl⟩
    rw [isMapped.valueAt_getElem _ inside]
    simp [coefficients, inside]
  · rfl

/-- What an entity stands for determines its slots. -/
theorem slots_eq
    {slots others : Nat → ℝ}
    (same : layout.valueAt slots = layout.valueAt others)
    {slot : Nat}
    (below : slot < layout.width) :
    slots slot = others slot := by
  have inside : slot < layout.elements.length := width_of_isBladeMapped isMapped.mapped ▸ below
  rw [← isMapped.valueAt_getElem slots inside, same, isMapped.valueAt_getElem others inside]

end IsMapped

/-! ## Types and their storage -/

/-- The types that are rebuilt from an entity over an algebra. -/
inductive IsTyped
    (algebra : Algebra) :
    Layout → Prop
  | moved
    {layout : Layout}
    (isMoved : layout.IsMoved) :
    IsTyped algebra layout
  | simpleMotor
    {layout : Layout}
    (isSimple : layout.IsSimpleMotor) :
    IsTyped algebra layout
  | dualNumber : IsTyped algebra .dualNumber
  | scalar : IsTyped algebra (.scalar algebra)

variable
  {algebra : Algebra}
  {layout : Layout}
  (isTyped : layout.IsTyped algebra)

include isTyped

/-- Nothing is divided where an entity of a type is read again. -/
theorem divisor_valueAt
    (slots : Nat → ℝ) :
    layout.divisor (layout.valueAt slots) = 1 := by
  cases isTyped with
  | moved isMoved =>
      cases isMoved with
      | point =>
          rw [divisor, valueAt_point]
          exact Odd.element_apply _ (by decide)
      | _ => rfl
  | simpleMotor isSimple =>
      cases isSimple with
      | rotor => rfl
      | translator =>
          rw [divisor, valueAt_translator]
          exact Even.element_apply _ (by decide)
  | dualNumber => rfl
  | scalar => rfl

/-- What an entity stands for determines its slots, but for turns and shifts. -/
theorem slots_eq_of_isTyped
    (notSimple : ¬ layout.IsSimpleMotor)
    {slots others : Nat → ℝ}
    (same : layout.valueAt slots = layout.valueAt others)
    {slot : Nat}
    (below : slot < layout.width) :
    slots slot = others slot := by
  cases isTyped with
  | moved isMoved => exact slots_eq_of_isMoved isMoved same below
  | simpleMotor isSimple => exact absurd isSimple notSimple
  | dualNumber => exact isMapped_dualNumber.slots_eq same below
  | scalar => exact (isMapped_scalar algebra).slots_eq same below

/-- All types but scalars are over the projective algebra. -/
theorem IsTyped.isProjective_or :
    (layout.IsProjective ∧ ∀ other, layout.IsTyped other) ∨ layout = .scalar algebra := by
  cases isTyped with
  | moved isMoved => exact .inl ⟨isMoved.isProjective, fun _ => .moved isMoved⟩
  | simpleMotor isSimple =>
      exact .inl ⟨isSimple.isMotor.isProjective, fun _ => .simpleMotor isSimple⟩
  | dualNumber => exact .inl ⟨isProjective_dualNumber, fun _ => .dualNumber⟩
  | scalar => exact .inr rfl

end Layout

/-! ## Entities as parts -/

namespace Entity

/-- An entity of a layout that stands for parts of elements, divided as its type does. -/
structure IsPart
    (batch : List Nat)
    (layout : Layout)
    (value : List Nat → Element ℝ)
    (result : Entity ℝ) :
    Prop where
  layout_eq : result.layout = layout
  shape_eq : result.storage.shape = batch ++ [layout.width]
  valueAt_eq :
    ∀ index, Tensor.IsIndex batch index → layout.divisor (value index) ≠ 0 →
      result.valueAt index =
        (layout.divisor (value index))⁻¹ • partOn layout.elements (value index)

end Entity

namespace Compute

open Entity

/-- What is rebuilt with slots that stand for a part is that part. -/
theorem Rebuilt.isPart
    {context behind : Context ℝ}
    {batch : List Nat}
    {layout : Layout}
    {value : List Nat → Element ℝ}
    {result : Entity ℝ}
    (rebuilt :
      Rebuilt context batch layout (fun index => layout.read (value index)) result behind)
    (reads :
      ∀ element, layout.divisor element ≠ 0 →
        layout.valueAt (layout.read element) =
          (layout.divisor element)⁻¹ • partOn layout.elements element) :
    result.IsPart batch layout value where
  layout_eq := rebuilt.layout_eq
  shape_eq := by
    rw [rebuilt.represents.full.shape_eq, rebuilt.represents.batchShape_eq, rebuilt.layout_eq]
  valueAt_eq index isIndex nonzero :=
    (rebuilt.represents.valueAt_eq index isIndex).trans (reads _ nonzero)

variable
  {certain : Prop}
  {context : Context ℝ}
  {batch : List Nat}
  {value : List Nat → Element ℝ}
  {layout : Layout}

/-- Values on the blades of a type, as its slots, are the part on these blades. -/
theorem ensures_wrap_isPart
    (ready : context.IsReady limits)
    (room : certain → limits.HasRoom batch)
    (isMapped : layout.IsMapped)
    {values : Tensor ℝ}
    (holds : values.HoldsRows batch layout.elements.length (coefficients layout.elements value)) :
    (wrap layout values).Ensures limits certain context fun result _ =>
      result.IsPart batch layout value := by
  rw [Tensor.holdsRows_iff] at holds
  rcases holds with ⟨shape, entries⟩
  have sameWidth := Layout.width_of_isBladeMapped isMapped.mapped
  have width : values.shape.getLast? = some layout.width := by
    rw [shape, List.getLast?_concat, sameWidth]
  have representable (isCertain : certain) :
      Tensor.isRepresentable limits.capacity values.shape = true := by
    rw [shape]
    exact (room isCertain).tensors _ isMapped.narrow
  refine (ensures_wrap ready width representable).mono fun result behind _ wrapped => ?_
  rcases wrapped with ⟨_, sameLayout, sameShape, get⟩
  have batchShape : result.batchShape = batch := by
    rw [Entity.batchShape, sameShape, shape, List.dropLast_concat]
  refine
    ⟨sameLayout, by rw [sameShape, shape, sameWidth], fun index isIndex _ => ?_⟩
  rw [isMapped.undivided, inv_one, one_smul, ← isMapped.valueAt_coefficients value index,
    Entity.valueAt, sameLayout]
  refine layout.valueAt_congr fun slot below => ?_
  rw [Entity.get_slot (batchShape.symm ▸ isIndex), get,
    entries index isIndex slot (sameWidth ▸ below)]

/-- An entity of a type is the part of another one on the blades of the type. -/
theorem ensures_fromEntity_isPart
    (ready : context.IsReady limits)
    {source : Entity ℝ}
    (represents : source.Represents .projective batch value)
    (room : certain → limits.HasRoom batch)
    (floating : source.storage.type.isFloating = true)
    (isTyped : layout.IsTyped source.algebra)
    (few : certain → layout.IsSimpleMotor → batch.length < Tensor.maxGatheredDimensions) :
    (fromEntity layout.kind source).Ensures limits certain context fun result _ =>
      result.IsPart batch layout value := by
  cases isTyped with
  | moved isMoved =>
      refine (ensures_fromEntity ready represents room floating (.inl isMoved)).mono
        fun result behind _ rebuilt => ?_
      exact rebuilt.isPart (Layout.valueAt_read_of_isMoved isMoved)
  | simpleMotor isSimple =>
      refine (ensures_fromEntity ready represents room floating
        (.inr ⟨isSimple.isMotor, fun isCertain => few isCertain isSimple⟩)).mono
          fun result behind _ rebuilt => ?_
      exact rebuilt.isPart (Layout.valueAt_read_of_isSimpleMotor isSimple)
  | dualNumber =>
      exact (ensures_selectBlades ready represents room (by decide)).bind
        fun values between isReady _ selected =>
          ensures_wrap_isPart isReady room Layout.isMapped_dualNumber selected.2
  | scalar =>
      exact (ensures_selectBlades ready represents room (by decide)).bind
        fun values between isReady _ selected =>
          ensures_wrap_isPart isReady room (Layout.isMapped_scalar _) selected.2

/-- A turn or a shift is not rebuilt over too many dimensions. -/
theorem fromEntity_of_many
    (ready : context.IsReady limits)
    {source : Entity ℝ}
    (represents : source.Represents .projective batch value)
    (room : limits.HasRoom batch)
    (floating : source.storage.type.isFloating = true)
    (isSimple : layout.IsSimpleMotor)
    (many : Tensor.maxGatheredDimensions ≤ batch.length) :
    (outcome (fromEntity layout.kind source) context).1 = .error .tooManyDimensions := by
  cases isSimple with
  | rotor =>
      exact (ensures_selectBlades ready represents (fun _ => room) (by decide)).bind_error
        fun values between _ _ selected =>
          rotorFrom_of_many (selected.1 floating) selected.2 many
  | translator =>
      exact (ensures_selectBlades ready represents (fun _ => room) (by decide)).bind_error
        fun values between _ _ selected => translatorFrom_of_many selected.2 many

end Compute

/-! ## There and back -/

namespace Entity.IsPart

variable
  {entity back : Entity ℝ}
  (isPart : back.IsPart entity.batchShape entity.layout entity.valueAt)
  (isTyped : entity.layout.IsTyped entity.algebra)

include isPart isTyped

/-- The part of an entity on the blades of its own type is the entity. -/
theorem valueAt_eq_self
    {index : List Nat}
    (isIndex : Tensor.IsIndex entity.batchShape index) :
    back.valueAt index = entity.valueAt index := by
  have undivided : entity.layout.divisor (entity.valueAt index) = 1 :=
    Layout.divisor_valueAt isTyped _
  have values := isPart.valueAt_eq index isIndex (undivided ▸ one_ne_zero)
  rw [undivided, inv_one, one_smul] at values
  exact values.trans (Layout.partOn_valueAt _ _)

/-- The slots come back as well, but for turns and shifts. -/
theorem coincides
    (notSimple : ¬ entity.layout.IsSimpleMotor) :
    back.Coincides entity.batchShape entity where
  layout_eq := isPart.layout_eq
  entryAt_eq index isIndex slot below := by
    rw [isPart.layout_eq] at below
    have values := isPart.valueAt_eq_self isTyped isIndex
    rw [Entity.valueAt, Entity.valueAt, isPart.layout_eq] at values
    exact Layout.slots_eq_of_isTyped isTyped notSimple values below

end Entity.IsPart

namespace Compute

variable
  {certain : Prop}
  {context : Context ℝ}

/-- The generic form of an entity, read as the type of the entity again. -/
def roundTrip
    (entity : Entity ℝ) :
    Compute ℝ (Entity ℝ) := do
  fromEntity entity.layout.kind (← toEntity entity)

/-- A scalar of any algebra is its own generic form. -/
theorem ensures_roundTrip_scalar
    (ready : context.IsReady limits)
    {entity : Entity ℝ}
    (isScalar : entity.layout = .scalar entity.algebra)
    (full : entity.IsFull entity.algebra)
    (room : certain → limits.HasRoom entity.batchShape) :
    (roundTrip entity).Ensures limits certain context fun back _ =>
      back.IsPart entity.batchShape entity.layout entity.valueAt := by
  have inRange : entity.layout.InRange :=
    Layout.inRange_of_kind (by simp [isScalar, Layout.kind])
  have distinct : entity.layout.elements.Nodup := by
    rw [isScalar]
    exact List.nodup_singleton 0
  have mapped : entity.layout.isBladeMapped = true := by rw [isScalar]; rfl
  have isBladeList : entity.layout.isBladeList = true := by rw [isScalar]; rfl
  have kind : entity.layout.kind = .scalar := by rw [isScalar]; rfl
  rw [roundTrip, toEntity, if_pos isBladeList, pure_bind, kind, isScalar]
  change
    (selectBlades entity [0] >>= fun values => wrap (.scalar entity.algebra) values).Ensures limits
      _ _ _
  rw [selectBlades, select, if_pos mapped, pure_bind]
  exact
    (ensures_selectSlots ready (full.represents inRange distinct) mapped
      (List.forall_mem_singleton.2 (twoTo_pos _))).bind fun values between isReady _ selected =>
        ensures_wrap_isPart isReady room (Layout.isMapped_scalar _) selected.2

/-- Reading the generic form of an entity as its type gives what the entity stands for. -/
theorem ensures_roundTrip
    (ready : context.IsReady limits)
    {entity : Entity ℝ}
    (isTyped : entity.layout.IsTyped entity.algebra)
    (full : entity.IsFull entity.algebra)
    (floating : entity.storage.type.isFloating = true)
    (room : certain → limits.HasRoom entity.batchShape)
    (few :
      certain → entity.layout.IsSimpleMotor →
        entity.batchShape.length < Tensor.maxGatheredDimensions) :
    (roundTrip entity).Ensures limits certain context fun back _ =>
      back.IsPart entity.batchShape entity.layout entity.valueAt := by
  rcases Layout.IsTyped.isProjective_or isTyped with ⟨projective, overAll⟩ | isScalar
  · have overProjective : entity.IsFull .projective := projective.algebra ▸ full
    have represents := overProjective.represents projective.inRange projective.distinct
    exact (ensures_toEntity ready represents room).bind fun source between isReady _ sourced =>
      ensures_fromEntity_isPart isReady sourced.1 room (sourced.2.2 floating) (overAll _) few
  · exact ensures_roundTrip_scalar ready isScalar full room

/--
An entity is rebuilt as a type from the part of it on the blades of the type: a
point divides it by its weight and a translator by its scalar.  So an entity that
is read back from its generic form is the same, slot by slot, except that a rotor
or translator may split the same motor into other slots.  Neither of these two is
rebuilt over too many dimensions.
-/
theorem fromEntity_restricts
    (reached : context.IsReached) :
    (∀ (source : Entity ℝ) (layout : Layout) (batch : List Nat) (value : List Nat → Element ℝ),
      source.Represents .projective batch value → source.storage.type.isFloating = true →
        layout.IsTyped source.algebra →
        (fromEntity layout.kind source).Gives
            (context.limits.HasRoom batch ∧
              (layout.IsSimpleMotor → batch.length < Tensor.maxGatheredDimensions))
            context (fun result => result.IsPart batch layout value) ∧
          (layout.IsSimpleMotor → context.limits.HasRoom batch →
            Tensor.maxGatheredDimensions ≤ batch.length →
            (outcome (fromEntity layout.kind source) context).1 = .error .tooManyDimensions)) ∧
      ∀ entity : Entity ℝ,
        entity.layout.IsTyped entity.algebra → entity.IsFull entity.algebra →
          entity.storage.type.isFloating = true →
          (roundTrip entity).Gives
            (context.limits.HasRoom entity.batchShape ∧
              (entity.layout.IsSimpleMotor →
                entity.batchShape.length < Tensor.maxGatheredDimensions))
            context fun back =>
              back.layout = entity.layout ∧ back.storage.shape = entity.storage.shape ∧
                (∀ index, Tensor.IsIndex entity.batchShape index →
                  back.valueAt index = entity.valueAt index) ∧
                (¬ entity.layout.IsSimpleMotor → back.Coincides entity.batchShape entity) := by
  have ready := reached.isReady
  refine ⟨fun source layout batch value represents floating isTyped => ⟨?_, ?_⟩,
    fun entity isTyped full floating => ?_⟩
  · exact
      (ensures_fromEntity_isPart ready represents And.left floating isTyped And.right).gives
        fun _ _ isPart => isPart
  · exact fun isSimple room many =>
      fromEntity_of_many ready represents room floating isSimple many
  · exact
      (ensures_roundTrip ready isTyped full floating And.left And.right).gives
        fun back _ isPart =>
          ⟨isPart.layout_eq, isPart.shape_eq.trans full.shape_eq.symm,
            fun index isIndex => isPart.valueAt_eq_self isTyped isIndex,
            isPart.coincides isTyped⟩

/-! ## Some entities, read as a type -/

/-- An entity with a weight and a scalar, on blades in no order. -/
def mixedEntity : Entity ℝ :=
  .ofRow 0 (.generic .projective [.e123, 0, .e013, .e01] []) 0 [2, -2, 1, -1]

/-- A turn with a negative sine about an axis that is not normalized. -/
def backwardTurn : Entity ℝ :=
  .ofRow 1 .rotor 0 [0, -1, 0, 0, 2]

/-- An entity on the blades of a rotor, over many dimensions. -/
def deepEntity : Entity ℝ :=
  .ofRow 0 (.generic .projective [0, .e12, .e13, .e23] []) 64 [0, -1, 0, 0]

theorem isOperand_mixedEntity :
    mixedEntity.IsOperand (.start 3) :=
  Entity.isOperand_ofRow ⟨rfl, by decide, by decide, by decide⟩ rfl (by decide)

theorem isOperand_deepEntity :
    deepEntity.IsOperand (.start 3) :=
  Entity.isOperand_ofRow ⟨rfl, by decide, by decide, by decide⟩ rfl (by decide)

theorem divisor_mixedEntity
    (layout : Layout) :
    layout.divisor (mixedEntity.valueAt []) ≠ 0 := by
  have weight : mixedEntity.valueAt [] (Blade.vectors .e123) = 2 :=
    Layout.valueAt_generic_getElem _ isOperand_mixedEntity.distinct (by decide : 0 < 4)
  have scalar : mixedEntity.valueAt [] (Blade.vectors 0) = -2 :=
    Layout.valueAt_generic_getElem _ isOperand_mixedEntity.distinct (by decide : 1 < 4)
  cases layout with
  | point => exact weight.trans_ne two_ne_zero
  | translator => exact scalar.trans_ne (neg_ne_zero.2 two_ne_zero)
  | _ => exact one_ne_zero

/-- A mixed entity is read as all types, and a turn and a point come back from their forms. -/
theorem fromEntity_restricts_mixed :
    (∀ layout : Layout, layout.IsTyped .projective →
      layout.divisor (mixedEntity.valueAt []) ≠ 0 ∧
        (fromEntity layout.kind mixedEntity).Gives True (.start 3) fun result =>
          result.IsPart [] layout mixedEntity.valueAt) ∧
      (outcome (fromEntity .translator deepEntity) (.start 3)).1 = .error .tooManyDimensions ∧
      ((roundTrip backwardTurn).Gives True (.start 3) fun back =>
        back.valueAt [] = backwardTurn.valueAt []) ∧
      (roundTrip somePoint).Gives True (.start 3) fun back => back.Coincides [] somePoint := by
  have restricts := fromEntity_restricts (Context.isReached_start 3)
  have room : Limits.usual.HasRoom [] := Limits.hasRoom_usual (by decide)
  refine ⟨fun layout isTyped => ⟨divisor_mixedEntity layout, ?_⟩, ?_, ?_, ?_⟩
  · have part :=
      (restricts.1 mixedEntity layout [] mixedEntity.valueAt isOperand_mixedEntity.represents rfl
        isTyped).1
    exact ⟨fun _ => part.succeeds ⟨room, fun _ => by decide⟩, part.holds⟩
  · have deepRoom : Limits.usual.HasRoom (List.replicate 64 1) := Limits.hasRoom_usual (by decide)
    have represents := isOperand_deepEntity.represents
    rw [deepEntity, Entity.batchShape_ofRow] at represents
    exact
      (restricts.1 deepEntity .translator _ deepEntity.valueAt represents rfl
        (.simpleMotor .translator)).2 .translator deepRoom (by decide)
  · have isTyped : backwardTurn.layout.IsTyped backwardTurn.algebra := .simpleMotor .rotor
    have comesBack := restricts.2 backwardTurn isTyped ⟨rfl, rfl⟩ rfl
    exact
      ⟨fun _ => comesBack.succeeds ⟨room, fun _ => by decide⟩,
        fun back succeeded => (comesBack.holds back succeeded).2.2.1 [] .nil⟩
  · have isTyped : somePoint.layout.IsTyped somePoint.algebra := .moved .point
    have comesBack := restricts.2 somePoint isTyped ⟨rfl, rfl⟩ rfl
    exact
      ⟨fun _ => comesBack.succeeds ⟨room, fun _ => by decide⟩,
        fun back succeeded => (comesBack.holds back succeeded).2.2.2 (by rintro ⟨⟩)⟩

/-- An entity over many dimensions cannot be read as a rotor, though its rotor could be stored. -/
theorem fromEntity_rotor_refused :
    deepEntity.IsOperand (.start 3) ∧ Limits.usual.HasRoom deepEntity.batchShape ∧
      (outcome (fromEntity .rotor deepEntity) (.start 3)).1 = .error .tooManyDimensions := by
  have batchShape : deepEntity.batchShape = List.replicate 64 1 := Entity.batchShape_ofRow ..
  have room : Limits.usual.HasRoom deepEntity.batchShape :=
    batchShape ▸ Limits.hasRoom_usual (by decide)
  refine ⟨isOperand_deepEntity, room, ?_⟩
  have ready := (Context.isReached_start 3 : (Context.start 3 : Context ℝ).IsReached).isReady
  exact
    fromEntity_of_many ready isOperand_deepEntity.represents room rfl .rotor
      (by rw [batchShape]; decide)

end Compute

end Versor

end
