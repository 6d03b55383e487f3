import Versor.Proofs.Program.Completeness
import Versor.Proofs.Program.Precision

/-!
# Programs run row by row

At an index of its batch an entity has one row of slots.  A program that runs
on entities of one floating point type makes of their rows what it makes of
the entities, at that index (`run_row`): every tensor on the way holds at the
index, where it is stretched to the batch, what the tensor on the way of the
rows holds.  Nothing is asked of the arithmetic, and a failure on the one side
is the same failure on the other.

A complete program only fails if a constant term does not fit the type
(`run_pointwise`), which happens (`run_pointwise_refuses`).
-/

namespace Versor

variable {Number : Type} [Arithmetic Number]

/-! ## Rows -/

namespace Tensor

/-- The entries of a tensor at an index that its batch is stretched to. -/
def row
    (index : List Nat)
    (tensor : Tensor Number) :
    Tensor Number :=
  ofFn tensor.type tensor.shape.getLast?.toList fun place =>
    tensor.get (stretchIndex tensor.shape.dropLast index ++ place)

/-- The entry at a multi-index, if it is there. -/
def entryAt?
    (tensor : Tensor Number)
    (index : List Nat) :
    Option Number :=
  tensor.data[offset tensor.shape index]?

theorem get_of_entryAt?
    {tensor : Tensor Number}
    {index : List Nat}
    {value : Number}
    (held : tensor.entryAt? index = some value) :
    tensor.get index = value := by
  rw [get, ← entryAt?, held, Option.getD_some]

omit [Arithmetic Number] in
theorem entryAt?_ofFn
    (type : ElementType)
    {shape index : List Nat}
    (entry : List Nat → Number)
    (isIndex : IsIndex shape index) :
    (ofFn type shape entry).entryAt? index = some (entry index) := by
  have inside := offset_lt isIndex
  have nonempty : entryCount shape ≠ 0 := by omega
  simp [entryAt?, ofFn, nonempty, getElem?_indices isIndex]

omit [Arithmetic Number] in
theorem ofFn_congr
    (type : ElementType)
    {shape : List Nat}
    {entry other : List Nat → Number}
    (same : ∀ index, IsIndex shape index → entry index = other index) :
    ofFn type shape entry = ofFn type shape other := by
  have entries : (indices shape).map entry = (indices shape).map other :=
    List.map_congr_left fun index member => same index (mem_indices.1 member)
  rw [ofFn, ofFn, entries]

end Tensor

/-- The row of an entity at an index that its batch is stretched to. -/
def Entity.row
    (index : List Nat)
    (entity : Entity Number) :
    Entity Number :=
  { entity with storage := entity.storage.row index }

@[simp]
theorem Entity.signature_row
    (index : List Nat)
    (entity : Entity Number) :
    (entity.row index).signature = entity.signature := by
  have width : (entity.row index).storage.shape.getLast? = entity.storage.shape.getLast? := by
    change entity.storage.shape.getLast?.toList.getLast? = entity.storage.shape.getLast?
    cases entity.storage.shape.getLast? <;> rfl
  rw [signature, signature, Entity.width, Entity.width, width]
  rfl

@[simp]
theorem Entity.batchShape_row
    (index : List Nat)
    (entity : Entity Number) :
    (entity.row index).batchShape = [] := by
  change entity.storage.shape.getLast?.toList.dropLast = []
  cases entity.storage.shape.getLast? <;> rfl

/-! ## Tensors and their entry at an index -/

namespace Tensor

/-- A tensor beside one without dimensions that holds its entry at an index of a batch. -/
structure IsAt
    (type : ElementType)
    (batch index : List Nat)
    (tensor other : Tensor Number) :
    Prop where
  kind : tensor.type = type
  otherKind : other.type = type
  stretches : Stretches tensor.shape batch
  otherShape : other.shape = []
  entry :
    ∃ value,
      tensor.entryAt? (stretchIndex tensor.shape index) = some value ∧
        other.entryAt? [] = some value

variable {type : ElementType} {batch index : List Nat}

omit [Arithmetic Number] in
theorem isAt_ofFn
    (isIndex : IsIndex batch index)
    (type : ElementType)
    {shape : List Nat}
    (stretches : Stretches shape batch)
    {entry other : List Nat → Number}
    (same : entry (stretchIndex shape index) = other []) :
    IsAt type batch index (ofFn type shape entry) (ofFn type [] other) where
  kind := rfl
  otherKind := rfl
  stretches := stretches
  otherShape := rfl
  entry := by
    refine ⟨other [], ?_, entryAt?_ofFn type other .nil⟩
    rw [← same]
    exact entryAt?_ofFn type entry (isIndex_stretchIndex stretches isIndex)

namespace IsAt

variable {tensor other left leftOther right rightOther : Tensor Number}

theorem get_eq
    (isAt : IsAt type batch index tensor other) :
    tensor.get (stretchIndex tensor.shape index) = other.get [] := by
  rcases isAt.entry with ⟨value, held, otherHeld⟩
  rw [get_of_entryAt? held, get_of_entryAt? otherHeld]

/-- An operation on tensors is one on their entries. -/
theorem zipWith
    (isIndex : IsIndex batch index)
    (operation : ElementType → Number → Number → Number)
    (leftIsAt : IsAt type batch index left leftOther)
    (rightIsAt : IsAt type batch index right rightOther) :
    Accompanies (IsAt type batch index)
      (Tensor.zipWith (commonType [left, right]) (commonType [left, right])
        (operation (commonType [left, right])) left right)
      (Tensor.zipWith (commonType [leftOther, rightOther]) (commonType [leftOther, rightOther])
        (operation (commonType [leftOther, rightOther])) leftOther rightOther) := by
  have sameType : commonType [left, right] = type := by
    change ElementType.resultType [left.form, right.form] = type
    rw [form, form, leftIsAt.kind, rightIsAt.kind, ElementType.resultType_same]
  have otherType : commonType [leftOther, rightOther] = type := by
    change ElementType.resultType [leftOther.form, rightOther.form] = type
    rw [form, form, leftIsAt.otherKind, rightIsAt.otherKind, ElementType.resultType_same]
  have bothStretch : ∀ shape ∈ [left.shape, right.shape], Stretches shape batch := by
    simp [leftIsAt.stretches, rightIsAt.stretches]
  rcases exists_commonShape bothStretch with ⟨shape, found, stretches⟩
  have toShape := stretches_of_commonShape found
  have leftToShape : Stretches left.shape shape := toShape _ (.head _)
  have rightToShape : Stretches right.shape shape := toShape _ (.tail _ (.head _))
  have none : commonShape [[], []] = .ok [] := rfl
  rw [Tensor.zipWith, Tensor.zipWith, found, sameType, otherType, leftIsAt.otherShape,
    rightIsAt.otherShape, none]
  apply Accompanies.ok
  apply isAt_ofFn isIndex type stretches
  rw [stretchIndex_stretchIndex leftToShape stretches isIndex,
    stretchIndex_stretchIndex rightToShape stretches isIndex, leftIsAt.get_eq, rightIsAt.get_eq]
  rfl

theorem scale
    (floating : type.isFloating = true)
    (isAt : IsAt type batch index tensor other)
    (factor : Number) :
    IsAt type batch index (tensor.scale factor) (other.scale factor) where
  kind := by
    change tensor.type.toFloating = type
    rw [isAt.kind, ElementType.toFloating_of_isFloating floating]
  otherKind := by
    change other.type.toFloating = type
    rw [isAt.otherKind, ElementType.toFloating_of_isFloating floating]
  stretches := isAt.stretches
  otherShape := isAt.otherShape
  entry := by
    rcases isAt.entry with ⟨value, held, otherHeld⟩
    simp only [entryAt?] at held otherHeld
    simp only [entryAt?, Tensor.scale, Array.getElem?_map, held, otherHeld, Option.map_some,
      isAt.kind, isAt.otherKind]
    exact ⟨_, rfl, rfl⟩

end IsAt

theorem cast_of_type
    {tensor : Tensor Number}
    (kind : tensor.type = type) :
    tensor.cast type = tensor :=
  if_pos kind

/-- A slot of an entity beside the slot of its row. -/
theorem isAt_column
    (isIndex : IsIndex batch index)
    {storage : Tensor Number}
    {width : Nat}
    (isWidth : storage.shape.getLast? = some width)
    (stretches : Stretches storage.shape.dropLast batch)
    {place : Nat}
    (below : place < width) :
    IsAt storage.type batch index (storage.column place) ((storage.row index).column place) := by
  have shape : (storage.row index).shape = [width] := by
    change storage.shape.getLast?.toList = [width]
    rw [isWidth]
    rfl
  rw [column, column, shape]
  apply isAt_ofFn isIndex storage.type stretches
  symm
  apply get_ofFn
  rw [isWidth]
  exact .cons below .nil

end Tensor

/-! ## Programs -/

namespace Program

open Tensor (IsAt Stretches IsIndex)

variable {type : ElementType} {batch index : List Nat}

/-- Columns beside those of rows. -/
def AreAt
    (type : ElementType)
    (batch index : List Nat) :
    Columns Number → Columns Number → Prop :=
  List.Forall₂ fun column other => other.1 = column.1 ∧ IsAt type batch index column.2 other.2

section Steps

variable
  {columns others : Columns Number}
  (isIndex : IsIndex batch index)
  (areAt : AreAt type batch index columns others)

include areAt

omit [Arithmetic Number] in
theorem column_at
    (id : SourceId) :
    Accompanies (IsAt type batch index) (column columns id) (column others id) := by
  unfold column
  induction areAt with
  | nil => exact .error _
  | @cons first other rest otherRest head _ inductionHypothesis =>
      rcases first with ⟨firstId, tensor⟩
      rcases other with ⟨otherId, otherTensor⟩
      rcases head with ⟨sameId, headIsAt⟩
      have sameTest : (id == otherId) = (id == firstId) := congrArg (id == ·) sameId
      rw [List.lookup_cons, List.lookup_cons, sameTest]
      cases id == firstId with
      | false => exact inductionHypothesis
      | true => exact .ok headIsAt

include isIndex

theorem multiplySlots_at
    {start other : Tensor Number}
    (startIsAt : IsAt type batch index start other)
    (ids : List SourceId) :
    Accompanies (IsAt type batch index) (multiplySlots columns start ids)
      (multiplySlots others other ids) := by
  induction ids generalizing start other with
  | nil => exact .ok startIsAt
  | cons id rest inductionHypothesis =>
      apply (column_at areAt id).bind
      intro factor otherFactor factorIsAt
      apply (startIsAt.zipWith isIndex Arithmetic.mul factorIsAt).bind
      intro product otherProduct productIsAt
      exact inductionHypothesis productIsAt

theorem stepValue_at
    (floating : type.isFloating = true)
    (step : Step Number) :
    Accompanies (IsAt type batch index) (stepValue columns type batch step)
      (stepValue others type [] step) := by
  rcases step with ⟨slot, coefficient, ids⟩
  cases ids with
  | nil =>
      show Accompanies _ (Tensor.fill type batch coefficient) (Tensor.fill type [] coefficient)
      rw [Tensor.fill, Tensor.fill]
      split
      · exact .ok (Tensor.isAt_ofFn isIndex type (.refl batch) rfl)
      · exact .error _
  | cons first rest =>
      apply (column_at areAt first).bind
      intro start other startIsAt
      apply (multiplySlots_at isIndex areAt startIsAt rest).bind
      intro product otherProduct productIsAt
      cases isOne : Arithmetic.isOne coefficient with
      | true => exact .ok productIsAt
      | false => exact .ok (productIsAt.scale floating coefficient)

theorem sumSteps_at
    (floating : type.isFloating = true)
    {start other : Tensor Number}
    (startIsAt : IsAt type batch index start other)
    (steps : List (Step Number)) :
    Accompanies (IsAt type batch index) (sumSteps columns type batch start steps)
      (sumSteps others type [] other steps) := by
  induction steps generalizing start other with
  | nil => exact .ok startIsAt
  | cons step rest inductionHypothesis =>
      apply (stepValue_at isIndex areAt floating step).bind
      intro value otherValue valueIsAt
      apply (startIsAt.zipWith isIndex Arithmetic.add valueIsAt).bind
      intro total otherTotal totalIsAt
      exact inductionHypothesis totalIsAt

/-- At its index, a slot holds what the slot of the rows holds. -/
theorem slotValue_at
    (floating : type.isFloating = true)
    (steps : List (Step Number)) :
    Accompanies (fun result other => result.get index = other.get [])
      (slotValue columns type batch steps) (slotValue others type [] steps) := by
  cases steps with
  | nil => exact .error _
  | cons first rest =>
      apply (stepValue_at isIndex areAt floating first).bind
      intro start other startIsAt
      apply (sumSteps_at isIndex areAt floating startIsAt rest).bind
      intro total otherTotal totalIsAt
      apply Accompanies.ok
      rw [Tensor.cast_of_type totalIsAt.kind, Tensor.cast_of_type totalIsAt.otherKind,
        Tensor.stretch, Tensor.stretch, Tensor.get_ofFn _ _ isIndex, Tensor.get_ofFn _ _ .nil,
        totalIsAt.get_eq, totalIsAt.otherShape]
      rfl

end Steps

omit [Arithmetic Number] in
theorem getLast?_of_signature
    {entity : Entity Number}
    {signature : Signature}
    (signed : entity.signature = .ok signature) :
    entity.storage.shape.getLast? = some signature.width := by
  have width := (of_signature_eq_ok signed).2
  unfold Entity.width at width
  split at width
  · next found =>
    cases width
    exact found
  · cases width

/-- Entities and their rows are collected alike. -/
theorem collect_at
    (isIndex : IsIndex batch index)
    (program : Program Number)
    {columns others : Columns Number}
    (areAt : AreAt type batch index columns others)
    {entities : List (Entity Number)}
    (uniform : ∀ entity ∈ entities, entity.storage.type = type)
    (stretch : ∀ entity ∈ entities, Stretches entity.batchShape batch)
    (inputs : List Input) :
    Accompanies (AreAt type batch index) (program.collect columns (entities.zip inputs))
      (program.collect others ((entities.map (Entity.row index)).zip inputs)) := by
  induction entities generalizing columns others inputs with
  | nil => exact .ok areAt
  | cons entity rest inductionHypothesis =>
      rcases List.forall_mem_cons.1 uniform with ⟨kind, restUniform⟩
      rcases List.forall_mem_cons.1 stretch with ⟨stretches, restStretch⟩
      cases inputs with
      | nil => exact .ok areAt
      | cons input inputs =>
          rw [List.map_cons, List.zip_cons_cons, List.zip_cons_cons, collect, collect,
            Entity.signature_row]
          show Accompanies _ (ite (¬ entity.algebra.Agrees program.algebra) _ _)
            (ite (¬ entity.algebra.Agrees program.algebra) _ _)
          split
          · exact .error _
          · cases signed : entity.signature with
            | error error => exact .error error
            | ok signature =>
                simp only [bind, Except.bind]
                split
                · exact .error _
                · apply inductionHypothesis _ restUniform restStretch
                  refine List.rel_append ?_ areAt
                  refine List.forall₂_map_left_iff.2 (List.forall₂_map_right_iff.2 ?_)
                  refine List.forall₂_same.2 fun slot member => ⟨rfl, ?_⟩
                  have isWidth := getLast?_of_signature signed
                  rw [← kind]
                  apply Tensor.isAt_column isIndex isWidth stretches
                  exact List.mem_range.1 (List.mem_reverse.1 member)

omit [Arithmetic Number] in
/-- Entities of one floating point type have the type of what is computed from them. -/
theorem type_eq_outputType
    (standard : ElementType)
    (floating : type.isFloating = true)
    {entities : List (Entity Number)}
    (uniform : ∀ entity ∈ entities, entity.storage.type = type) :
    ∀ entity ∈ entities, entity.storage.type = outputType standard entities := by
  cases entities with
  | nil => simp
  | cons entity rest =>
      have types :
          (entity :: rest).map (fun entity => entity.storage.type) =
            type :: List.replicate rest.length type := by
        rw [← List.replicate_succ]
        apply List.eq_replicate_iff.2 ⟨by simp, _⟩
        intro kind member
        rcases List.mem_map.1 member with ⟨other, inEntities, rfl⟩
        exact uniform other inEntities
      have promoted (count : Nat) :
          (List.replicate count type).foldl ElementType.promote type = type := by
        induction count with
        | zero => rfl
        | succ count inductionHypothesis =>
            rw [List.replicate_succ, List.foldl_cons, ElementType.promote, if_pos rfl,
              inductionHypothesis]
      have output : outputType standard (entity :: rest) = type := by
        rw [outputType, types, ElementType.promoteAll?, promoted]
        exact if_pos floating
      rw [output]
      exact uniform

end Program

namespace Tensor

/-- The row of tensors side by side is made of their entries. -/
theorem row_stack
    (type : ElementType)
    {batch index : List Nat}
    (isIndex : IsIndex batch index)
    {parts others : List (Tensor Number)}
    (lengths : others.length = parts.length)
    (same :
      ∀ place (inside : place < parts.length) (otherInside : place < others.length),
        parts[place].get index = others[place].get []) :
    (stack type batch parts).row index = stack type [] others := by
  have shape : (stack type batch parts).shape = batch ++ [parts.length] := by
    simp [stack, ofFn]
  have made : stack type [] others = ofFn type [others.length] (stack type [] others).get := by
    rw [stack, List.size_toArray]
    apply ofFn_congr
    intro place isPlace
    symm
    apply get_ofFn type _ isPlace
  rw [made, row, shape, List.getLast?_concat, List.dropLast_concat, stretchIndex_self isIndex,
    lengths]
  apply ofFn_congr
  intro place isPlace
  rcases isPlace with _ | @⟨place, _, _, _, below, rest⟩
  cases rest
  have otherBelow : place < others.length := lengths ▸ below
  have rowEntry :
      (stack type [] others).get ([] ++ [place]) = Arithmetic.cast type (others[place].get []) :=
    get_stack type .nil otherBelow
  rw [get_stack type isIndex below, same place below otherBelow, ← rowEntry]
  rfl

end Tensor

namespace Program

open Tensor (Stretches IsIndex)

/--
A program makes of the rows of entities of one floating point type the row of what
it makes of the entities, and fails on the rows as it does on the entities.
-/
theorem run_row
    {standard type : ElementType}
    (standardFloating : standard.isFloating = true)
    (floating : type.isFloating = true)
    (program : Program Number)
    {entities : List (Entity Number)}
    (uniform : ∀ entity ∈ entities, entity.storage.type = type)
    {batch index : List Nat}
    (broadcast : Tensor.commonShape (entities.map Entity.batchShape) = .ok batch)
    (isIndex : IsIndex batch index) :
    program.run standard (entities.map (Entity.row index)) =
      (program.run standard entities).map (Tensor.row index) := by
  have output :
      outputType standard (entities.map (Entity.row index)) = outputType standard entities := by
    rw [outputType, outputType, List.map_map]
    rfl
  have outputFloating := isFloating_outputType standardFloating entities
  have uniformOutput := type_eq_outputType standard floating uniform
  have stretch : ∀ entity ∈ entities, Stretches entity.batchShape batch := by
    intro entity member
    exact Tensor.stretches_of_commonShape broadcast _ (List.mem_map_of_mem member)
  have rowBroadcast :
      Tensor.commonShape ((entities.map (Entity.row index)).map Entity.batchShape) = .ok [] := by
    have none :
        ∀ shape ∈ (entities.map (Entity.row index)).map Entity.batchShape, Stretches shape [] := by
      intro shape member
      rw [List.map_map] at member
      rcases List.mem_map.1 member with ⟨entity, _, rfl⟩
      rw [Function.comp_apply, Entity.batchShape_row]
      exact .refl []
    rcases Tensor.exists_commonShape none with ⟨shape, found, stretches⟩
    have empty : shape = [] := List.eq_nil_of_length_eq_zero (Nat.le_zero.1 stretches.length_le)
    rw [found, empty]
  unfold run
  rw [output, List.length_map, rowBroadcast, broadcast]
  generalize outputType standard entities = kind at outputFloating uniformOutput ⊢
  split
  · rfl
  · have collected := collect_at isIndex program .nil uniformOutput stretch program.inputs
    generalize program.collect [] (entities.zip program.inputs) = columns? at collected ⊢
    generalize program.collect [] ((entities.map (Entity.row index)).zip program.inputs) =
      others? at collected ⊢
    cases collected with
    | error error => rfl
    | @ok columns others areAt =>
        have each (slot : Nat) (_ : slot ∈ List.range program.blades.length) :=
          slotValue_at isIndex areAt outputFloating (program.stepsOf slot)
        have slots := Accompanies.mapM each
        show
          ((List.range program.blades.length).mapM fun slot =>
              slotValue others kind [] (program.stepsOf slot)) >>=
              (fun parts => Except.ok (Tensor.stack kind [] parts)) =
            Except.map (Tensor.row index)
              (((List.range program.blades.length).mapM fun slot =>
                slotValue columns kind batch (program.stepsOf slot)) >>=
                fun parts => .ok (Tensor.stack kind batch parts))
        generalize
          ((List.range program.blades.length).mapM fun slot =>
            slotValue columns kind batch (program.stepsOf slot)) = parts? at slots ⊢
        generalize
          ((List.range program.blades.length).mapM fun slot =>
            slotValue others kind [] (program.stepsOf slot)) = otherParts? at slots ⊢
        cases slots with
        | error error => rfl
        | @ok parts otherParts complete =>
            show Except.ok _ = Except.ok _
            have lengths : otherParts.length = parts.length :=
              complete.2.length_eq.symm.trans complete.1.length_eq
            rw [Tensor.row_stack kind isIndex lengths]
            intro slot inside otherInside
            have inRange : slot < (List.range program.blades.length).length :=
              complete.1.length_eq ▸ inside
            have part := complete.1.get inRange inside
            have other := complete.2.get inRange otherInside
            have isAt := each slot (List.mem_range.2 (by simpa using inRange))
            simp only [List.get_eq_getElem, List.getElem_range] at part other
            rw [part, other] at isAt
            cases isAt with
            | ok same => exact same

end Program

/-- Two and the product of the first two of three scalars; the third one is left out. -/
def twoAndProduct : Program ℚ :=
  ⟨0, .ofEntries .projective [⟨0, 2, []⟩, ⟨0, 1, [0, 1]⟩], [0], {},
    [⟨0, 2, []⟩, ⟨0, 1, [0, 1]⟩],
    [0, 1, 2].map fun base => ⟨⟨.scalar .projective, 1⟩, .natural base⟩⟩

/-- Scalars over batches of two, three and four; the last batch has a dimension of its own. -/
def unlikeScalars : List (Entity ℚ) :=
  [⟨0, .scalar .projective, ⟨.float64, [2, 1, 1], #[1, 2]⟩⟩,
    ⟨1, .scalar .projective, ⟨.float64, [3, 1], #[3, 4, 5]⟩⟩,
    ⟨2, .scalar .projective, ⟨.float64, [4, 1, 1, 1], #[6, 7, 8, 9]⟩⟩]

/-- Rational numbers without rounding, of which an element type can only hold those in its range. -/
structure Ranged where
  value : ℚ
deriving DecidableEq

instance : Arithmetic Ranged where
  zero := ⟨0⟩
  cast _ number := number
  add _ left right := ⟨left.value + right.value⟩
  mul _ left right := ⟨left.value * right.value⟩
  ofRat? value := some ⟨value⟩
  fits type number := decide (|number.value| ≤ (Cell.formatOf type).largest.toRat)
  isOne number := decide (number.value = 1)

/-- The sum of a scalar and a constant. -/
def sumWithConstant
    (constant : ℚ) :
    Program Ranged :=
  ⟨0, .ofEntries .projective [⟨0, constant, []⟩, ⟨0, 1, [0]⟩], [0], {},
    [⟨0, ⟨constant⟩, []⟩, ⟨0, ⟨1⟩, [0]⟩], [⟨⟨.scalar .projective, 1⟩, .natural 0⟩]⟩

/-- A scalar of single precision. -/
def singleScalar : Entity Ranged :=
  ⟨0, .scalar .projective, ⟨.float32, [1], #[⟨2⟩]⟩⟩

theorem isComplete_sumWithConstant
    (constant : ℚ) :
    (sumWithConstant constant).IsComplete where
  computed := by
    intro slot below
    rw [Nat.lt_one_iff.1 below]
    exact List.cons_ne_nil _ _
  inside := by
    intro step member
    rcases List.mem_pair.1 member with rfl | rfl <;> exact Nat.one_pos
  factors := by simp [sumWithConstant, Program.slotIds, FirstId.id]

theorem matches_sumWithConstant
    (constant : ℚ) :
    (sumWithConstant constant).Matches [singleScalar] where
  agree := List.forall_mem_singleton.2 rfl
  structured := .cons ⟨_, rfl, rfl⟩ .nil

theorem run_sumWithConstant
    {constant : ℚ}
    (unfit : Arithmetic.fits .float32 (Ranged.mk constant) = false) :
    (sumWithConstant constant).run .float64 [singleScalar] = .error .entryTooLarge := by
  have broadcast : Tensor.commonShape ([singleScalar].map Entity.batchShape) = .ok [] := rfl
  have single : Program.outputType .float64 [singleScalar] = .float32 := rfl
  have runs :=
    Program.run_of_isComplete (isComplete_sumWithConstant constant)
      (matches_sumWithConstant constant) broadcast .float64
  rw [single] at runs
  generalize (sumWithConstant constant).run .float64 [singleScalar] = result? at runs ⊢
  cases runs with
  | refused => rfl
  | ran areFit =>
      have fits : Step.Fits .float32 ⟨0, Ranged.mk constant, []⟩ := areFit _ (List.mem_cons_self ..)
      exact absurd (fits rfl) (Bool.eq_false_iff.1 unfit)

end Versor
