import Versor.Projective.Transform
import Versor.Proofs.Projective.Conversion

/-!
# Transforming, reversing and composing

The calls of the projective layer do to entities what the sandwich, the
reversion and the product do to the elements that these stand for
(`Compute.ensures_transform`, `Compute.ensures_reverse`,
`Compute.ensures_compose`).  Entities of batches that broadcast are read at the
indices of any batch which all of them stretch to.
-/

noncomputable section

namespace Versor

open Compute Reference

variable {limits : Limits}

/-! ## Motors as even elements -/

namespace Layout

/-- The even element that a motor with given slots stands for. -/
def even
    (layout : Layout)
    (slots : Nat → ℝ) :
    Even ℝ :=
  match layout with
  | .rotor => .rotor slots
  | .translator => .translator slots
  | _ => .motor slots

variable {layout : Layout}

theorem valueAt_even
    (isMotor : layout.IsMotor)
    (slots : Nat → ℝ) :
    layout.valueAt slots = (layout.even slots).element := by
  cases isMotor with
  | rotor => exact valueAt_rotor slots
  | translator => exact valueAt_translator slots
  | motor => exact valueAt_motor slots

/-- Reversion leaves the type of a motor as it is. -/
theorem exists_reversed
    (isMotor : layout.IsMotor)
    (slots : Nat → ℝ) :
    ∃ reversed, layout.even reversed = (layout.even slots).reverse := by
  cases isMotor with
  | rotor =>
      refine ⟨fun slot => if slot = 1 then -slots slot else slots slot, ?_⟩
      simp [even, Even.rotor, Even.reverse]
  | translator =>
      refine ⟨fun slot => if slot = 0 then -slots slot else slots slot, ?_⟩
      simp [even, Even.translator, Even.reverse, neg_div]
  | motor =>
      refine ⟨fun slot => if slot = 0 ∨ slot = 7 then slots slot else -slots slot, ?_⟩
      simp [even, Even.motor, Even.reverse]

/-- A motor is read back from what it stands for. -/
theorem valueAt_read_even
    (isMotor : layout.IsMotor)
    (slots : Nat → ℝ) :
    layout.valueAt (layout.read (layout.even slots).element) = (layout.even slots).element := by
  rw [valueAt_even isMotor]
  refine congrArg Even.element ?_
  cases isMotor with
  | rotor =>
      rw [read_rotor]
      simp [even, Even.rotor]
  | translator =>
      rw [read_translator]
      ext <;> simp [even, Even.translator]
  | motor => exact motor_read _

end Layout

/-! ## Entities at the indices of a larger batch -/

namespace Entity

/-- The entry of a slot at an index of a batch that the entity's own one stretches to. -/
def entryAt
    (entity : Entity ℝ)
    (index : List Nat)
    (slot : Nat) :
    ℝ :=
  entity.storage.get (Tensor.stretchIndex entity.batchShape index ++ [slot])

/-- The even element that a motor is at an index. -/
def even
    (motor : Entity ℝ)
    (index : List Nat) :
    Even ℝ :=
  motor.layout.even (motor.entryAt index)

/-- The product of the even elements that motors are at an index. -/
def evenProduct
    (motors : List (Entity ℝ))
    (index : List Nat) :
    Even ℝ :=
  (motors.map fun motor => motor.even index).prod

@[simp]
theorem evenProduct_nil :
    evenProduct [] = fun _ => 1 :=
  rfl

@[simp]
theorem evenProduct_cons
    (motor : Entity ℝ)
    (rest : List (Entity ℝ)) :
    evenProduct (motor :: rest) = fun index => motor.even index * evenProduct rest index :=
  funext fun _ => List.prod_cons

theorem valueAt_eq
    (entity : Entity ℝ)
    (index : List Nat) :
    entity.valueAt index = entity.layout.valueAt (entity.entryAt index) :=
  rfl

theorem valueAt_mem_ascending
    (entity : Entity ℝ)
    (index : List Nat) :
    entity.valueAt index ∈ ascending :=
  Layout.valueAt_mem_ascending _ _

theorem valueAt_even
    {motor : Entity ℝ}
    (isMotor : motor.layout.IsMotor)
    (index : List Nat) :
    motor.valueAt index = (motor.even index).element :=
  Layout.valueAt_even isMotor _

section Stretch

variable
  {entity : Entity ℝ}
  {batch target index : List Nat}
  (stretches : Tensor.Stretches entity.batchShape batch)
  (reaches : Tensor.Stretches batch target)
  (isIndex : Tensor.IsIndex target index)

include stretches reaches isIndex

theorem entryAt_stretch :
    entity.entryAt (Tensor.stretchIndex batch index) = entity.entryAt index := by
  funext slot
  rw [entryAt, entryAt, Tensor.stretchIndex_stretchIndex stretches reaches isIndex]

theorem valueAt_stretch :
    entity.valueAt (Tensor.stretchIndex batch index) = entity.valueAt index := by
  rw [valueAt_eq, valueAt_eq, entryAt_stretch stretches reaches isIndex]

theorem even_stretch :
    entity.even (Tensor.stretchIndex batch index) = entity.even index := by
  rw [even, even, entryAt_stretch stretches reaches isIndex]

end Stretch

/-- What an entity represents at its batch it represents at every larger one. -/
theorem Represents.valueAt_stretched
    {algebra : Algebra}
    {batch target index : List Nat}
    {value : List Nat → Element ℝ}
    {entity : Entity ℝ}
    (represents : entity.Represents algebra batch value)
    (reaches : Tensor.Stretches batch target)
    (isIndex : Tensor.IsIndex target index) :
    entity.valueAt index = value (Tensor.stretchIndex batch index) := by
  have stretches : Tensor.Stretches entity.batchShape batch :=
    represents.batchShape_eq ▸ .refl batch
  rw [← valueAt_stretch stretches reaches isIndex,
    represents.valueAt_eq _ (Tensor.isIndex_stretchIndex reaches isIndex)]

/-- An entity that can be given to a computation in a context. -/
structure IsOperand
    (context : Context ℝ)
    (entity : Entity ℝ) :
    Prop where
  full : entity.IsFull .projective
  inRange : entity.layout.InRange
  distinct : entity.layout.elements.Nodup
  taken : entity.identity < context.workspace.free

/-- An operand is known by its algebra, its storage, its blades and its identity. -/
theorem isOperand_iff
    {context : Context ℝ}
    {entity : Entity ℝ} :
    entity.IsOperand context ↔
      entity.algebra.Agrees .projective ∧
        entity.storage.shape.getLast? = some entity.layout.width ∧
          entity.layout.InRange ∧ entity.layout.elements.Nodup ∧
            entity.identity < context.workspace.free := by
  constructor
  · intro isOperand
    exact
      ⟨isOperand.full.agrees, isOperand.full.width, isOperand.inRange, isOperand.distinct,
        isOperand.taken⟩
  · rintro ⟨agrees, width, inRange, distinct, taken⟩
    exact ⟨⟨agrees, width⟩, inRange, distinct, taken⟩

instance decidableIsOperand
    (context : Context ℝ)
    (entity : Entity ℝ) :
    Decidable (entity.IsOperand context) :=
  decidable_of_iff _ isOperand_iff.symm

/-- An operand stands for what its slots stand for. -/
theorem IsOperand.represents
    {context : Context ℝ}
    {entity : Entity ℝ}
    (isOperand : entity.IsOperand context) :
    entity.Represents .projective entity.batchShape entity.valueAt :=
  isOperand.full.represents isOperand.inRange isOperand.distinct

theorem IsOperand.later
    {context behind : Context ℝ}
    {entity : Entity ℝ}
    (isOperand : entity.IsOperand context)
    (free : context.workspace.free ≤ behind.workspace.free) :
    entity.IsOperand behind where
  full := isOperand.full
  inRange := isOperand.inRange
  distinct := isOperand.distinct
  taken := isOperand.taken.trans_le free

/-- A new entity that stands for elements can be given to the next computation. -/
theorem Represents.isOperand
    {context behind : Context ℝ}
    {batch : List Nat}
    {value : List Nat → Element ℝ}
    {entity : Entity ℝ}
    (represents : entity.Represents .projective batch value)
    (isNew : entity.IsNew context behind) :
    entity.IsOperand behind where
  full := represents.full
  inRange := represents.inRange
  distinct := represents.distinct
  taken := isNew.taken

/-- Operands that are told apart by their identities. -/
structure AreOperands
    (context : Context ℝ)
    (entities : List (Entity ℝ)) :
    Prop where
  identified : Identified entities
  each : ∀ entity ∈ entities, entity.IsOperand context

namespace AreOperands

variable
  {context behind : Context ℝ}
  {entities others : List (Entity ℝ)}
  {entity : Entity ℝ}

theorem subset
    (operands : AreOperands context entities)
    (among : others ⊆ entities) :
    AreOperands context others where
  identified first firstMember second secondMember :=
    operands.identified first (among firstMember) second (among secondMember)
  each other member := operands.each other (among member)

theorem singleton
    (isOperand : entity.IsOperand context) :
    AreOperands context [entity] where
  identified := identified_singleton entity
  each := List.forall_mem_singleton.2 isOperand

theorem of_nodup
    (distinct : (entities.map Entity.identity).Nodup)
    (each : ∀ entity ∈ entities, entity.IsOperand context) :
    AreOperands context entities where
  identified _ firstMember _ secondMember same :=
    List.inj_on_of_nodup_map distinct firstMember secondMember same
  each := each

theorem later
    (operands : AreOperands context entities)
    (free : context.workspace.free ≤ behind.workspace.free) :
    AreOperands behind entities where
  identified := operands.identified
  each entity member := (operands.each entity member).later free

/-- A new entity is not one of those that were there before. -/
theorem cons
    (operands : AreOperands context entities)
    (free : context.workspace.free ≤ behind.workspace.free)
    (isNew : entity.IsNew context behind)
    (isOperand : entity.IsOperand behind) :
    AreOperands behind (entity :: entities) where
  identified := by
    have apart : ∀ other ∈ entities, other.identity ≠ entity.identity := fun other member =>
      ((operands.each other member).taken.trans_le isNew.free).ne
    intro first firstMember second secondMember same
    rcases List.mem_cons.1 firstMember with rfl | inOthers
    · rcases List.mem_cons.1 secondMember with rfl | secondInOthers
      · rfl
      · exact absurd same.symm (apart second secondInOthers)
    · rcases List.mem_cons.1 secondMember with rfl | secondInOthers
      · exact absurd same (apart first inOthers)
      · exact operands.identified first inOthers second secondInOthers same
  each := List.forall_mem_cons.2 ⟨isOperand, (operands.later free).each⟩

end AreOperands

end Entity

/-! ## Entities with one row -/

namespace Entity

/-- An entity with one row of slots, at the only index of a batch of so many dimensions. -/
def ofRow
    (identity : Nat)
    (layout : Layout)
    (dimensions : Nat)
    (row : List ℝ) :
    Entity ℝ :=
  ⟨identity, layout, ⟨.float64, List.replicate dimensions 1 ++ [row.length], row.toArray⟩⟩

variable
  (identity : Nat)
  (layout : Layout)
  (dimensions : Nat)
  (row : List ℝ)

@[simp]
theorem layout_ofRow :
    (ofRow identity layout dimensions row).layout = layout :=
  rfl

@[simp]
theorem batchShape_ofRow :
    (ofRow identity layout dimensions row).batchShape = List.replicate dimensions 1 :=
  List.dropLast_concat

theorem entryAt_ofRow
    {index : List Nat}
    (many : dimensions ≤ index.length)
    (slot : Nat) :
    (ofRow identity layout dimensions row).entryAt index slot = (row[slot]?).getD 0 := by
  have zeros :
      Tensor.stretchIndex (List.replicate dimensions 1) index = List.replicate dimensions 0 := by
    rw [Tensor.stretchIndex, List.eq_replicate_iff]
    refine ⟨by simp; omega, fun place member => ?_⟩
    rcases List.mem_map.1 member with ⟨⟨size, other⟩, inZip, rfl⟩
    rw [if_pos (List.eq_of_mem_replicate (List.of_mem_zip inZip).1)]
  have place (start : Nat) :
      Tensor.offset (List.replicate start 1 ++ [row.length]) (List.replicate start 0 ++ [slot]) =
        slot := by
    induction start with
    | zero => simp [Tensor.offset, Tensor.entryCount]
    | succ start inductionHypothesis =>
        simp [List.replicate_succ, Tensor.offset, inductionHypothesis]
  rw [entryAt, batchShape_ofRow, zeros]
  simp [ofRow, Tensor.get, place]
  rfl

theorem even_ofRow
    {index : List Nat}
    (many : dimensions ≤ index.length) :
    (ofRow identity layout dimensions row).even index =
      layout.even fun slot => (row[slot]?).getD 0 :=
  congrArg layout.even (funext (entryAt_ofRow identity layout dimensions row many))

variable {identity layout dimensions row}

theorem isOperand_ofRow
    (projective : layout.IsProjective)
    (width : row.length = layout.width)
    {context : Context ℝ}
    (taken : identity < context.workspace.free) :
    (ofRow identity layout dimensions row).IsOperand context where
  full := ⟨congrArg _ projective.algebra, by simp [ofRow, width]⟩
  inRange := projective.inRange
  distinct := projective.distinct
  taken := taken

end Entity

/-! ## Calls with operands -/

namespace Compute

open Entity

/-- A new entity with the slots that a layout reads off elements at the indices of any batch. -/
structure Made
    (context : Context ℝ)
    (layout : Layout)
    (shapes : List (List Nat))
    (value : List Nat → Element ℝ)
    (result : Entity ℝ)
    (behind : Context ℝ) :
    Prop where
  isNew : result.IsNew context behind
  isOperand : result.IsOperand behind
  layout_eq : result.layout = layout
  broadcast : Tensor.commonShape shapes = .ok result.batchShape
  valueAt_eq :
    ∀ target, Tensor.Stretches result.batchShape target →
      ∀ index, Tensor.IsIndex target index →
        result.valueAt index = layout.valueAt (layout.read (value index))

theorem Made.batchShape_eq
    {context behind : Context ℝ}
    {layout : Layout}
    {shapes : List (List Nat)}
    {value : List Nat → Element ℝ}
    {result : Entity ℝ}
    (made : Made context layout shapes value result behind)
    {batch : List Nat}
    (broadcast : Tensor.commonShape shapes = .ok batch) :
    result.batchShape = batch :=
  Except.ok.inj (made.broadcast.symm.trans broadcast)

/-- What is rebuilt from a source that stands for elements is made of these. -/
theorem Rebuilt.made
    {context between behind : Context ℝ}
    {layout : Layout}
    {shapes : List (List Nat)}
    {source result : Entity ℝ}
    {value : List Nat → Element ℝ}
    (rebuilt :
      Rebuilt between source.batchShape layout (fun index => layout.read (source.valueAt index))
        result behind)
    (free : context.workspace.free ≤ between.workspace.free)
    (broadcast : Tensor.commonShape shapes = .ok source.batchShape)
    (stands :
      ∀ target, Tensor.Stretches source.batchShape target →
        ∀ index, Tensor.IsIndex target index → source.valueAt index = value index) :
    Made context layout shapes value result behind where
  isNew := (rebuilt.of_le free).isNew
  isOperand := rebuilt.represents.isOperand rebuilt.isNew
  layout_eq := rebuilt.layout_eq
  broadcast := rebuilt.represents.batchShape_eq ▸ broadcast
  valueAt_eq target reaches index isIndex := by
    rw [rebuilt.represents.batchShape_eq] at reaches
    rw [rebuilt.represents.valueAt_stretched reaches isIndex,
      Entity.valueAt_stretch (.refl _) reaches isIndex, stands target reaches index isIndex]

/-- The entries of what is made are the slots that are read. -/
theorem Made.entryAt_eq
    {context behind : Context ℝ}
    {layout : Layout}
    {shapes : List (List Nat)}
    {value : List Nat → Element ℝ}
    {result : Entity ℝ}
    (made : Made context layout shapes value result behind)
    (isMoved : layout.IsMoved)
    {target index : List Nat}
    (reaches : Tensor.Stretches result.batchShape target)
    (isIndex : Tensor.IsIndex target index)
    {slot : Nat}
    (below : slot < layout.width) :
    result.entryAt index slot = layout.read (value index) slot := by
  have values := made.valueAt_eq target reaches index isIndex
  rw [Entity.valueAt_eq, made.layout_eq] at values
  exact Layout.slots_eq_of_isMoved isMoved values below

variable
  {context : Context ℝ}
  {entities : List (Entity ℝ)}
  {function : LibraryFunction}

/-- What a function makes of operands stands for the meaning of its body at every larger batch. -/
theorem Called.valueAt_eq
    {behind : Context ℝ}
    {result : Entity ℝ}
    (called : Called .projective function entities context result behind)
    {target index : List Nat}
    (reaches : Tensor.Stretches result.batchShape target)
    (isIndex : Tensor.IsIndex target index) :
    result.valueAt index =
      function.body.meaning Algebra.projective.metric
        (entities.map fun entity => entity.valueAt index) := by
  rw [called.represents.valueAt_stretched reaches isIndex]
  refine congrArg (function.body.meaning _) (List.map_congr_left fun entity member => ?_)
  have stretches :=
    Tensor.stretches_of_commonShape called.broadcast _ (List.mem_map_of_mem member)
  exact Entity.valueAt_stretch stretches reaches isIndex

variable
  {certain : Prop}
  (ready : context.IsReady limits)
  (operands : AreOperands context entities)
  (room : certain → limits.HaveCommonRoom (entities.map Entity.batchShape))

include ready operands room

/-- A call of the library with operands. -/
theorem ensures_call
    (function : LibraryFunction)
    (isOver : function.body.IsOver entities.length) :
    (applyLibrary function entities).Ensures limits certain context
      (Called .projective function entities context) :=
  ensures_applyLibrary ready operands.identified
    (fun entity member => (operands.each entity member).full)
    (fun entity member => (operands.each entity member).inRange)
    room function isOver

/-- A call of the library with operands whose result is read back as an entity of a type. -/
theorem ensures_callAs
    {layout : Layout}
    (isTarget :
      layout.IsMoved ∨
        layout.IsMotor ∧
          (certain →
            ∀ batch, Tensor.commonShape (entities.map Entity.batchShape) = .ok batch →
              batch.length < Tensor.maxGatheredDimensions))
    (function : LibraryFunction)
    (isOver : function.body.IsOver entities.length) :
    (do
        let result ← applyLibrary function entities
        fromEntity layout.kind result : Compute ℝ (Entity ℝ)).Ensures limits
      certain context
      (Made context layout (entities.map Entity.batchShape) fun index =>
        function.body.meaning Algebra.projective.metric
          (entities.map fun entity => entity.valueAt index)) := by
  refine (ensures_call ready operands room function isOver).bind
    fun source between isReady free called => ?_
  have roomForResult (isCertain : certain) : limits.HasRoom source.batchShape :=
    (room isCertain).hasRoom called.broadcast
  have rebuilt :=
    ensures_fromEntity isReady (called.represents.isOperand called.isNew).represents roomForResult
      called.isNew.floating
      (isTarget.imp_right fun ⟨isMotor, few⟩ =>
        ⟨isMotor, fun isCertain => few isCertain _ called.broadcast⟩)
  exact rebuilt.mono fun result behind _ rebuilt =>
    rebuilt.made free called.broadcast fun _ reaches _ isIndex => called.valueAt_eq reaches isIndex

omit operands room in
/-- Transforming an entity of any type that motors move reads it off the sandwich. -/
theorem ensures_transformAs
    {motor entity : Entity ℝ}
    (isMotor : motor.layout.IsMotor)
    (isTarget :
      entity.layout.IsMoved ∨
        entity.layout.IsMotor ∧
          (certain →
            ∀ batch, Tensor.commonShape [motor.batchShape, entity.batchShape] = .ok batch →
              batch.length < Tensor.maxGatheredDimensions))
    (operands : AreOperands context [motor, entity])
    (room : certain → limits.HaveCommonRoom [motor.batchShape, entity.batchShape]) :
    (transform motor entity).Ensures limits certain context
      (Made context entity.layout [motor.batchShape, entity.batchShape] fun index =>
        sandwich (motor.even index).element (entity.valueAt index)) := by
  have called :=
    ensures_callAs ready operands room isTarget .sandwich (LibraryFunction.isOver .sandwich)
  have sandwiched (index : List Nat) :
      sandwich (motor.even index).element (entity.valueAt index) =
        LibraryFunction.sandwich.body.meaning Algebra.projective.metric
          ([motor, entity].map fun operand => operand.valueAt index) := by
    rw [← Entity.valueAt_even isMotor]
    rfl
  simp only [sandwiched]
  exact called

omit operands room in
/-- Transforming an entity reads it off the sandwich with the motor. -/
theorem ensures_transform
    {motor entity : Entity ℝ}
    (isMotor : motor.layout.IsMotor)
    (isMoved : entity.layout.IsMoved)
    (operands : AreOperands context [motor, entity])
    (room : certain → limits.HaveCommonRoom [motor.batchShape, entity.batchShape]) :
    (transform motor entity).Ensures limits certain context
      (Made context entity.layout [motor.batchShape, entity.batchShape] fun index =>
        sandwich (motor.even index).element (entity.valueAt index)) :=
  ensures_transformAs ready isMotor (.inl isMoved) operands room

omit operands room in
/-- Reversing an entity reads it off the reversion. -/
theorem ensures_reverse
    {entity : Entity ℝ}
    (isTarget :
      entity.layout.IsMoved ∨
        entity.layout.IsMotor ∧
          (certain → entity.batchShape.length < Tensor.maxGatheredDimensions))
    (isOperand : entity.IsOperand context)
    (room : certain → limits.HasRoom entity.batchShape) :
    (reverse entity).Ensures limits certain context
      (Made context entity.layout [entity.batchShape] fun index =>
        Reference.reverse Algebra.projective.metric (entity.valueAt index)) :=
  ensures_callAs ready (.singleton isOperand)
    (fun isCertain => ⟨_, commonShape_singleton _, room isCertain⟩)
    (isTarget.imp_right fun ⟨isMotor, few⟩ =>
      ⟨isMotor, fun isCertain _ broadcast =>
        Except.ok.inj ((commonShape_singleton _).symm.trans broadcast) ▸ few isCertain⟩)
    .reverse (LibraryFunction.isOver .reverse)

end Compute

/-! ## Images -/

namespace Entity

/-- An entity of the same type that stands for the sandwich with a motor, up to the weight. -/
structure IsImage
    (even : List Nat → Even ℝ)
    (target : List Nat)
    (entity moved : Entity ℝ) :
    Prop where
  layout_eq : moved.layout = entity.layout
  sandwich_eq :
    ∀ index, Tensor.IsIndex target index →
      sandwich (even index).element (entity.valueAt index) =
        entity.layout.weight (even index) • moved.valueAt index

/-- Entities of one type with the same entries at the indices of a batch. -/
structure Coincides
    (batch : List Nat)
    (left right : Entity ℝ) :
    Prop where
  layout_eq : left.layout = right.layout
  entryAt_eq :
    ∀ index, Tensor.IsIndex batch index →
      ∀ slot < left.layout.width, left.entryAt index slot = right.entryAt index slot

/-- Entities of a moved type that stand for the same elements coincide. -/
theorem Coincides.of_valueAt
    {batch : List Nat}
    {left right : Entity ℝ}
    (isMoved : left.layout.IsMoved)
    (layout_eq : left.layout = right.layout)
    (same :
      ∀ index, Tensor.IsIndex batch index → left.valueAt index = right.valueAt index) :
    left.Coincides batch right where
  layout_eq := layout_eq
  entryAt_eq index isIndex slot below := by
    have values := same index isIndex
    rw [valueAt_eq, valueAt_eq, ← layout_eq] at values
    exact Layout.slots_eq_of_isMoved isMoved values below

/-- A motor whose product with its reversion is one. -/
def IsUnit
    (motor : Entity ℝ) :
    Prop :=
  ∀ index, Tensor.IsIndex motor.batchShape index →
    product Algebra.projective.metric .geometric (motor.valueAt index)
        (Reference.reverse Algebra.projective.metric (motor.valueAt index)) =
      Finsupp.single [] 1

theorem isUnit_of_norm_twist
    {motor : Entity ℝ}
    (isMotor : motor.layout.IsMotor)
    (unitAt :
      ∀ index, Tensor.IsIndex motor.batchShape index →
        (motor.even index).norm = 1 ∧ (motor.even index).twist = 0) :
    motor.IsUnit := by
  intro index isIndex
  rw [valueAt_even isMotor]
  exact (Even.product_reverse_eq_one_iff _).2 (unitAt index isIndex)

/-- A unit motor has the norm one and no twist. -/
theorem IsUnit.norm_twist
    {motor : Entity ℝ}
    (isUnit : motor.IsUnit)
    (isMotor : motor.layout.IsMotor)
    {target index : List Nat}
    (reaches : Tensor.Stretches motor.batchShape target)
    (isIndex : Tensor.IsIndex target index) :
    (motor.even index).norm = 1 ∧ (motor.even index).twist = 0 := by
  have unitAt := isUnit _ (Tensor.isIndex_stretchIndex reaches isIndex)
  rw [valueAt_stretch (.refl _) reaches isIndex, valueAt_even isMotor] at unitAt
  exact (Even.product_reverse_eq_one_iff _).1 unitAt

end Entity

/-- What is read off the sandwich with a motor is an image under it. -/
theorem Compute.Made.isImage
    {context behind : Context ℝ}
    {shapes : List (List Nat)}
    {even : List Nat → Even ℝ}
    {entity moved : Entity ℝ}
    (made :
      Made context entity.layout shapes
        (fun index => sandwich (even index).element (entity.valueAt index)) moved behind)
    (isMoved : entity.layout.IsMoved)
    {target : List Nat}
    (reaches : Tensor.Stretches moved.batchShape target)
    (nonzero :
      ∀ index, Tensor.IsIndex target index → entity.layout.weight (even index) ≠ 0) :
    entity.IsImage even target moved where
  layout_eq := made.layout_eq
  sandwich_eq index isIndex := by
    rw [made.valueAt_eq target reaches index isIndex]
    exact Layout.sandwich_eq_smul _ isMoved (nonzero index isIndex)

theorem Entity.IsImage.congr
    {left right : List Nat → Even ℝ}
    {target : List Nat}
    {entity moved : Entity ℝ}
    (image : entity.IsImage left target moved)
    (same : ∀ index, Tensor.IsIndex target index → left index = right index) :
    entity.IsImage right target moved where
  layout_eq := image.layout_eq
  sandwich_eq index isIndex := same index isIndex ▸ image.sandwich_eq index isIndex

/-! ## Motors that are made -/

namespace Compute.Made

variable
  {context behind : Context ℝ}
  {shapes : List (List Nat)}
  {result : Entity ℝ}
  {target index : List Nat}
  (reaches : Tensor.Stretches result.batchShape target)
  (isIndex : Tensor.IsIndex target index)

include reaches isIndex

/-- A motor that is made of an even element which its type reads back is this element. -/
theorem even_eq_of_read
    {layout : Layout}
    (isMotor : layout.IsMotor)
    {even : List Nat → Even ℝ}
    (made : Made context layout shapes (fun index => (even index).element) result behind)
    (reads : layout.valueAt (layout.read (even index).element) = (even index).element) :
    result.even index = even index := by
  refine Even.element_injective ?_
  rw [← Entity.valueAt_even (made.layout_eq ▸ isMotor),
    made.valueAt_eq target reaches index isIndex, reads]

/-- A motor of the type with all blades is the even element that it is made of. -/
theorem even_eq
    {even : List Nat → Even ℝ}
    (made : Made context .motor shapes (fun index => (even index).element) result behind) :
    result.even index = even index :=
  made.even_eq_of_read reaches isIndex .motor (by rw [valueAt_motor, Layout.motor_read])

/-- A motor of any type that is made of the reversion of another one is this reversion. -/
theorem even_eq_reverse
    {motor : Entity ℝ}
    (isMotor : motor.layout.IsMotor)
    (made :
      Made context motor.layout shapes
        (fun index => Reference.reverse Algebra.projective.metric (motor.valueAt index))
        result behind) :
    result.even index = (motor.even index).reverse := by
  rcases Layout.exists_reversed isMotor (motor.entryAt index) with ⟨slots, reversed⟩
  simp only [Entity.valueAt_even isMotor, Even.element_reverse] at made
  refine made.even_eq_of_read reaches isIndex isMotor ?_
  rw [Entity.even, ← reversed, Layout.valueAt_read_even isMotor]

end Compute.Made

/-! ## A screw and a line -/

namespace Entity

/-- Half a turn about the third axis and a shift along it. -/
def screw : Entity ℝ :=
  .ofRow 0 .motor 0 [0, 0, 0, -1, 0, 0, 0, 1]

/-- A line along the first axis, off the origin. -/
def someLine : Entity ℝ :=
  .ofRow 1 .line 0 [1, 0, 0, 0, 0, 2]

theorem areOperands_screw :
    AreOperands (.start 2) [screw, someLine] :=
  .of_nodup (by decide) (by decide)

theorem even_screw
    (index : List Nat) :
    screw.even index = ⟨0, 0, 0, 0, -1, 0, 0, 1⟩ := by
  rw [screw, even_ofRow _ _ _ _ (Nat.zero_le _)]
  simp [Layout.even, Even.motor]

theorem isUnit_screw :
    screw.IsUnit :=
  isUnit_of_norm_twist .motor fun index _ => by
    simp [even_screw, Even.norm, Even.twist]

end Entity

/-! ## Composing -/

namespace Compute

open Entity

/-- An operand that is the product of motors at the indices of any batch. -/
structure IsProduct
    (context : Context ℝ)
    (shapes : List (List Nat))
    (even : List Nat → Even ℝ)
    (product : Entity ℝ) :
    Prop where
  isOperand : product.IsOperand context
  broadcast : Tensor.commonShape shapes = .ok product.batchShape
  valueAt_eq :
    ∀ target, Tensor.Stretches product.batchShape target →
      ∀ index, Tensor.IsIndex target index → product.valueAt index = (even index).element

variable
  {certain : Prop}
  {context : Context ℝ}
  {batch : List Nat}
  (ready : context.IsReady limits)

include ready

/-- A product is multiplied with one more motor. -/
theorem ensures_product
    {product motor : Entity ℝ}
    {shapes : List (List Nat)}
    {even : List Nat → Even ℝ}
    (isProduct : IsProduct context shapes even product)
    (isMotor : motor.layout.IsMotor)
    (operands : AreOperands context [product, motor])
    (room : certain → limits.HaveCommonRoom (shapes ++ [motor.batchShape])) :
    (applyLibrary .product [product, motor]).Ensures limits certain context fun result behind =>
      result.IsNew context behind ∧
        IsProduct behind (shapes ++ [motor.batchShape])
          (fun index => even index * motor.even index) result := by
  have sameStretches (target : List Nat) :
      (∀ shape ∈ [product.batchShape, motor.batchShape], Tensor.Stretches shape target) ↔
        ∀ shape ∈ shapes ++ [motor.batchShape], Tensor.Stretches shape target := by
    have reaches := Tensor.stretches_iff_of_commonShape isProduct.broadcast target
    simp [reaches, or_imp, forall_and]
  have roomForBoth (isCertain : certain) :
      limits.HaveCommonRoom [product.batchShape, motor.batchShape] :=
    (room isCertain).of_stretches_iff fun target => (sameStretches target).symm
  refine (ensures_call ready operands roomForBoth .product (LibraryFunction.isOver .product)).mono
    fun result behind _ called => ⟨called.isNew, ?_⟩
  refine
    { isOperand := called.represents.isOperand called.isNew
      broadcast := Tensor.commonShape_of_stretches_iff sameStretches called.broadcast
      valueAt_eq := fun target reaches index isIndex => ?_ }
  have productReaches : Tensor.Stretches product.batchShape target :=
    (Tensor.stretches_of_commonShape called.broadcast _ (.head _)).trans reaches
  rw [called.valueAt_eq reaches isIndex, ← Even.product_element,
    ← isProduct.valueAt_eq target productReaches index isIndex, ← valueAt_even isMotor]
  rfl

/-- A product is multiplied with motors one after the other. -/
theorem ensures_products
    {product : Entity ℝ}
    {shapes : List (List Nat)}
    {even : List Nat → Even ℝ}
    (isProduct : IsProduct context shapes even product)
    {motors : List (Entity ℝ)}
    (areMotors : ∀ motor ∈ motors, motor.layout.IsMotor)
    (operands : AreOperands context (product :: motors))
    (room :
      certain →
        limits.HasRoomWithin batch ∧
          ∀ shape ∈ shapes ++ motors.map Entity.batchShape, Tensor.Stretches shape batch) :
    (motors.foldlM (fun product motor => applyLibrary .product [product, motor])
        product).Ensures limits
      certain context fun result behind =>
        IsProduct behind (shapes ++ motors.map Entity.batchShape)
          (fun index => even index * evenProduct motors index) result := by
  induction motors generalizing context product shapes even with
  | nil =>
      rw [List.foldlM_nil]
      exact .pure ready (by simpa using isProduct)
  | cons motor rest inductionHypothesis =>
      rcases List.forall_mem_cons.1 areMotors with ⟨isMotor, restMotors⟩
      have shapesOf :
          shapes ++ (motor :: rest).map Entity.batchShape =
            (shapes ++ [motor.batchShape]) ++ rest.map Entity.batchShape := by
        simp
      rw [shapesOf] at room ⊢
      have roomForPart (isCertain : certain) :
          limits.HaveCommonRoom (shapes ++ [motor.batchShape]) :=
        (room isCertain).1.common fun shape member =>
          (room isCertain).2 shape (List.mem_append_left _ member)
      have pair : [product, motor] ⊆ product :: motor :: rest := by simp
      have others : rest ⊆ product :: motor :: rest := by simp
      rw [List.foldlM_cons]
      refine (ensures_product ready isProduct isMotor (operands.subset pair) roomForPart).bind
        fun result between isReady free ⟨isNew, multiplied⟩ => ?_
      have nextOperands := (operands.subset others).cons free isNew multiplied.isOperand
      refine (inductionHypothesis isReady multiplied restMotors nextOperands room).mono
        fun last _ _ held => ?_
      simpa only [evenProduct_cons, mul_assoc] using held

/-- Composing motors makes the motor that is their product. -/
theorem ensures_compose
    {motors : List (Entity ℝ)}
    (nonempty : motors ≠ [])
    (areMotors : ∀ motor ∈ motors, motor.layout.IsMotor)
    (operands : AreOperands context motors)
    (room :
      certain →
        limits.HasRoomWithin batch ∧
          ∀ motor ∈ motors, Tensor.Stretches motor.batchShape batch) :
    (compose motors).Ensures limits certain context
      (Made context .motor (motors.map Entity.batchShape) fun index =>
        (evenProduct motors index).element) := by
  cases motors with
  | nil => exact absurd rfl nonempty
  | cons first rest =>
      rcases List.forall_mem_cons.1 areMotors with ⟨isMotor, restMotors⟩
      have isProduct : IsProduct context [first.batchShape] first.even first :=
        ⟨operands.each first (.head _), commonShape_singleton _,
          fun _ _ index _ => valueAt_even isMotor index⟩
      have roomForAll (isCertain : certain) :
          limits.HasRoomWithin batch ∧
            ∀ shape ∈ [first.batchShape] ++ rest.map Entity.batchShape,
              Tensor.Stretches shape batch :=
        (room isCertain).imp_right fun stretch => by simpa using stretch
      rw [compose]
      refine (ensures_products ready isProduct restMotors operands roomForAll).bind
        fun product between isReady free multiplied => ?_
      have roomForProduct (isCertain : certain) : limits.HasRoom product.batchShape :=
        (roomForAll isCertain).1 _
          (Tensor.commonShape_stretches multiplied.broadcast (roomForAll isCertain).2)
      refine (ensures_motorOf isReady multiplied.isOperand.represents roomForProduct).mono
        fun composed behind _ rebuilt => ?_
      exact rebuilt.made free multiplied.broadcast multiplied.valueAt_eq

/-- The product of three motors that is computed at once is the motor that is their product. -/
theorem ensures_tripleProduct
    {first second third : Entity ℝ}
    (areMotors : ∀ motor ∈ [first, second, third], motor.layout.IsMotor)
    (operands : AreOperands context [first, second, third])
    (room :
      certain → limits.HaveCommonRoom ([first, second, third].map Entity.batchShape)) :
    (do
        let product ← applyLibrary .tripleProduct [first, second, third]
        motorOf product : Compute ℝ (Entity ℝ)).Ensures limits
      certain context
      (Made context .motor ([first, second, third].map Entity.batchShape) fun index =>
        (evenProduct [first, second, third] index).element) := by
  have called :=
    ensures_callAs ready operands room (.inl .motor) .tripleProduct
      (LibraryFunction.isOver .tripleProduct)
  have multiplied (index : List Nat) :
      (evenProduct [first, second, third] index).element =
        LibraryFunction.tripleProduct.body.meaning Algebra.projective.metric
          ([first, second, third].map fun motor => motor.valueAt index) := by
    have factors :
        evenProduct [first, second, third] index =
          first.even index * second.even index * third.even index := by
      simp [mul_assoc]
    rw [factors, ← Even.product_element, ← Even.product_element,
      ← valueAt_even (areMotors first (by simp)), ← valueAt_even (areMotors second (by simp)),
      ← valueAt_even (areMotors third (by simp))]
    rfl
  simp only [multiplied]
  exact called

end Compute

end Versor

end
