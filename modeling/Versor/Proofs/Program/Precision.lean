import Versor.Proofs.Program.Execution
import Versor.Tensor.Cell

/-!
# The precision of programs

A program converts its output slots to the floating point type of all
entities together, but it multiplies, scales and adds in the types of the
operands at hand.  `Form` is all of an operand that such a type depends on,
and `slotForm?` follows the forms through the steps of a slot as long as every
operation is carried out in one type.

Converting the storage of the entities to the output type first changes no
failure, type or shape, and no entry of a slot that is computed in the output
type throughout (`run_converted`).  The other slots may change: integers wrap
around, and narrow floating point numbers are rounded, before the conversion
(`run_converted_wraps`).
-/

namespace Versor

variable {Number : Type} [Arithmetic Number]

/-! ## Forms -/

/-- What the type of an operation depends on: an operand's type and whether it has dimensions. -/
abbrev Form := ElementType × Bool

/-- The form of the result of an operation, if it is carried out in a given type. -/
def Form.combine?
    (type : ElementType)
    (left right : Form) :
    Option Form :=
  if ElementType.resultType [left, right] = type then some (type, left.2 || right.2) else none

/-- The form of a multiple by a number, if it is computed in a given type. -/
def Form.scale?
    (type : ElementType)
    (form : Form) :
    Option Form :=
  if form.1.toFloating = type then some (type, form.2) else none

/-- The form of a tensor. -/
def Tensor.form
    (tensor : Tensor Number) :
    Form :=
  (tensor.type, tensor.hasDimensions)

/-- Operands of one type are combined in that type. -/
theorem ElementType.resultType_same
    (type : ElementType)
    (left right : Bool) :
    ElementType.resultType [(type, left), (type, right)] = type := by
  cases type <;> cases left <;> cases right <;> rfl

theorem ElementType.toFloating_of_isFloating
    {type : ElementType}
    (floating : type.isFloating = true) :
    type.toFloating = type :=
  if_pos floating

namespace Program

variable (type : ElementType) (columns : Columns Number)

/-- The form of a slot that has been collected. -/
def formOf?
    (id : SourceId) :
    Option Form :=
  (columns.lookup id).map Tensor.form

/-- The form of a product of slots, if it is computed in a type throughout. -/
def productForm?
    (start : Form)
    (ids : List SourceId) :
    Option Form :=
  ids.foldlM (fun product id => formOf? columns id >>= product.combine? type) start

/-- The form of the contribution of a step, if it is computed in a type throughout. -/
def stepForm?
    (batch : List Nat)
    (step : Step Number) :
    Option Form :=
  match step.ids with
  | [] => some (type, !batch.isEmpty)
  | first :: rest => do
      let start ← formOf? columns first
      let product ← productForm? type columns start rest
      if Arithmetic.isOne step.coefficient then some product else product.scale? type

/-- The form of a sum of contributions, if it is computed in a type throughout. -/
def sumForm?
    (batch : List Nat)
    (start : Form)
    (steps : List (Step Number)) :
    Option Form :=
  steps.foldlM (fun total step => stepForm? type columns batch step >>= total.combine? type)
    start

/-- The form of an output slot, if it is computed in a type throughout. -/
def slotForm?
    (batch : List Nat) :
    List (Step Number) → Option Form
  | [] => none
  | first :: rest => stepForm? type columns batch first >>= (sumForm? type columns batch · rest)

/-- Whether every product, multiple and sum of an output slot is computed in a type. -/
def isComputedIn
    (program : Program Number)
    (entities : List (Entity Number))
    (slot : Nat) :
    Bool :=
  match program.collect [] (entities.zip program.inputs),
    Tensor.commonShape (entities.map Entity.batchShape) with
  | .ok columns, .ok batch => (slotForm? type columns batch (program.stepsOf slot)).isSome
  | _, _ => false

end Program

/-- An entity with its storage converted to an element type. -/
def Entity.converted
    (type : ElementType)
    (entity : Entity Number) :
    Entity Number :=
  ⟨entity.identity, entity.layout, entity.storage.cast type⟩

/-! ## Tensors beside converted ones -/

namespace Tensor

/-- A tensor without sizes is combined of tensors without sizes. -/
theorem isEmpty_of_commonShape
    {left right common : List Nat}
    (found : commonShape [left, right] = .ok common) :
    common.isEmpty = (left.isEmpty && right.isEmpty) := by
  have stretch := stretches_of_commonShape found
  have leftLength := (stretch left (.head _)).length_le
  have rightLength := (stretch right (.tail _ (.head _))).length_le
  cases left with
  | nil =>
      cases right with
      | nil =>
          have same : Except.ok [] = Except.ok (ε := Error) common := found
          cases same
          rfl
      | cons => exact List.isEmpty_eq_false_iff.2 (List.ne_nil_of_length_pos (by simp at *; omega))
  | cons => exact List.isEmpty_eq_false_iff.2 (List.ne_nil_of_length_pos (by simp at *; omega))

/--
A tensor beside the one that converted storage leads to: that one has the
given type, and if the tensor has a known form, then they are equal up to
conversion.
-/
structure IsBeside
    (type : ElementType)
    (form? : Option Form)
    (tensor other : Tensor Number) :
    Prop where
  shape : other.shape = tensor.shape
  kind : other.type = type
  form : ∀ form ∈ form?, tensor.form = form
  entries :
    form?.isSome = true →
      tensor.data.map (Arithmetic.cast type) = other.data.map (Arithmetic.cast type)

variable {type : ElementType} {form? otherForm? : Option Form} {tensor other : Tensor Number}

theorem cast_get_congr
    (shape : other.shape = tensor.shape)
    (entries : tensor.data.map (Arithmetic.cast type) = other.data.map (Arithmetic.cast type))
    (index : List Nat) :
    Arithmetic.cast type (tensor.get index) = Arithmetic.cast type (other.get index) := by
  have entry := congrArg (·[offset tensor.shape index]?) entries
  simp only [Array.getElem?_map] at entry
  rw [get, get, shape]
  revert entry
  cases tensor.data[offset tensor.shape index]? with
  | none => cases other.data[offset tensor.shape index]? <;> simp
  | some value => cases other.data[offset tensor.shape index]? <;> simp

theorem map_data_ofFn
    {entry otherEntry : List Nat → Number}
    (same : ∀ index, Arithmetic.cast type (entry index) = Arithmetic.cast type (otherEntry index))
    (kind otherKind : ElementType)
    (shape : List Nat) :
    (ofFn kind shape entry).data.map (Arithmetic.cast type) =
      (ofFn otherKind shape otherEntry).data.map (Arithmetic.cast type) := by
  rw [ofFn, ofFn]
  split
  · rfl
  · simp [Function.comp_def, same]

theorem isBeside_cast
    (stable :
      ∀ value : Number, Arithmetic.cast type (Arithmetic.cast type value) =
        Arithmetic.cast type value)
    (tensor : Tensor Number) :
    IsBeside type (some tensor.form) tensor (tensor.cast type) := by
  rw [cast]
  split
  · next same => exact ⟨rfl, same, fun _ member => Option.some_inj.1 member, fun _ => rfl⟩
  · refine ⟨rfl, rfl, fun _ member => Option.some_inj.1 member, fun _ => ?_⟩
    simp [Function.comp_def, stable]

theorem isBeside_filled
    (shape : List Nat)
    (value : Number) :
    IsBeside type (some (type, !shape.isEmpty)) (filled type shape value)
      (filled type shape value) :=
  ⟨rfl, rfl, fun _ member => Option.some_inj.1 member, fun _ => rfl⟩

/-- An operation in the type of its operands keeps tensors beside each other. -/
theorem IsBeside.zipWith
    (operation : ElementType → Number → Number → Number)
    {left leftOther right rightOther : Tensor Number}
    (leftBeside : IsBeside type form? left leftOther)
    (rightBeside : IsBeside type otherForm? right rightOther) :
    Accompanies (IsBeside type (form? >>= fun form => otherForm? >>= form.combine? type))
      (Tensor.zipWith (commonType [left, right]) (commonType [left, right])
        (operation (commonType [left, right])) left right)
      (Tensor.zipWith (commonType [leftOther, rightOther]) (commonType [leftOther, rightOther])
        (operation (commonType [leftOther, rightOther])) leftOther rightOther) := by
  have otherType : commonType [leftOther, rightOther] = type := by
    change ElementType.resultType [leftOther.form, rightOther.form] = type
    rw [Tensor.form, Tensor.form, leftBeside.kind, rightBeside.kind, ElementType.resultType_same]
  have combined :
      ∀ {form}, (form? >>= fun first => otherForm? >>= first.combine? type) = some form →
        commonType [left, right] = type ∧ form = (type, left.hasDimensions || right.hasDimensions) ∧
          form?.isSome = true ∧ otherForm?.isSome = true := by
    intro form found
    rcases Option.bind_eq_some_iff.1 found with ⟨first, isFirst, found⟩
    rcases Option.bind_eq_some_iff.1 found with ⟨second, isSecond, found⟩
    rw [Form.combine?, Option.ite_none_right_eq_some, ← leftBeside.form first isFirst,
      ← rightBeside.form second isSecond] at found
    exact ⟨found.1, (Option.some_inj.1 found.2).symm, by simp [isFirst], by simp [isSecond]⟩
  rw [Tensor.zipWith, Tensor.zipWith, leftBeside.shape, rightBeside.shape, otherType]
  cases broadcast : commonShape [left.shape, right.shape] with
  | error error => exact .error error
  | ok shape =>
      refine .ok ⟨rfl, rfl, fun form member => ?_, fun known => ?_⟩
      · rcases combined member with ⟨sameType, rfl, _⟩
        rw [Tensor.form, sameType]
        simp [ofFn, hasDimensions, isEmpty_of_commonShape broadcast]
      · rcases Option.isSome_iff_exists.1 known with ⟨form, found⟩
        rcases combined found with ⟨sameType, _, leftKnown, rightKnown⟩
        refine map_data_ofFn (fun index => ?_) _ _ _
        rw [sameType, cast_get_congr leftBeside.shape (leftBeside.entries leftKnown),
          cast_get_congr rightBeside.shape (rightBeside.entries rightKnown)]

theorem IsBeside.scale
    (floating : type.isFloating = true)
    (beside : IsBeside type form? tensor other)
    (factor : Number) :
    IsBeside type (form? >>= Form.scale? type) (tensor.scale factor) (other.scale factor) := by
  have otherType : other.type.toFloating = type := by
    rw [beside.kind, ElementType.toFloating_of_isFloating floating]
  have scaled :
      ∀ {form}, form? >>= Form.scale? type = some form →
        tensor.type.toFloating = type ∧ form = (type, tensor.hasDimensions) ∧
          form?.isSome = true := by
    intro form found
    rcases Option.bind_eq_some_iff.1 found with ⟨first, isFirst, found⟩
    rw [Form.scale?, Option.ite_none_right_eq_some, ← beside.form first isFirst] at found
    exact ⟨found.1, (Option.some_inj.1 found.2).symm, by simp [isFirst]⟩
  refine ⟨beside.shape, otherType, fun form member => ?_, fun known => ?_⟩
  · rcases scaled member with ⟨sameType, rfl, _⟩
    exact Prod.ext sameType rfl
  · rcases Option.isSome_iff_exists.1 known with ⟨form, found⟩
    rcases scaled found with ⟨sameType, _, isKnown⟩
    have entries := congrArg
      (Array.map fun entry =>
        Arithmetic.cast type (Arithmetic.mul type entry (Arithmetic.cast type factor)))
      (beside.entries isKnown)
    simpa [Tensor.scale, sameType, otherType, Function.comp_def] using entries

theorem IsBeside.column
    (beside : IsBeside type (some tensor.form) tensor other)
    (place : Nat) :
    IsBeside type (some (tensor.column place).form) (tensor.column place)
      (other.column place) := by
  refine ⟨?_, beside.kind, fun _ member => Option.some_inj.1 member, fun _ => ?_⟩
  · change other.shape.dropLast = tensor.shape.dropLast
    rw [beside.shape]
  · rw [Tensor.column, Tensor.column, beside.shape]
    exact map_data_ofFn
      (fun index => cast_get_congr beside.shape (beside.entries rfl) (index ++ [place])) _ _ _

/-- Converting and stretching at the end makes known entries equal up to conversion. -/
theorem IsBeside.cast_get_stretch
    (beside : IsBeside type form? tensor other)
    (stable :
      ∀ value : Number, Arithmetic.cast type (Arithmetic.cast type value) =
        Arithmetic.cast type value)
    (known : form?.isSome = true)
    (shape index : List Nat) :
    Arithmetic.cast type (((tensor.cast type).stretch shape).get index) =
      Arithmetic.cast type (((other.cast type).stretch shape).get index) := by
  have cast := isBeside_cast stable tensor
  have otherCast := isBeside_cast stable other
  have entries :
      (tensor.cast type).data.map (Arithmetic.cast type) =
        (other.cast type).data.map (Arithmetic.cast type) := by
    rw [← cast.entries rfl, beside.entries known, otherCast.entries rfl]
  have shapes : (other.cast type).shape = (tensor.cast type).shape := by
    rw [cast.shape, otherCast.shape, beside.shape]
  have stretched :
      ((other.cast type).stretch shape).shape = ((tensor.cast type).stretch shape).shape :=
    rfl
  refine cast_get_congr stretched ?_ index
  rw [stretch, stretch, shapes]
  exact map_data_ofFn (fun place => cast_get_congr shapes entries _) _ _ _

@[simp]
theorem type_cast
    (type : ElementType)
    (tensor : Tensor Number) :
    (tensor.cast type).type = type := by
  rw [cast]
  split
  · assumption
  · rfl

end Tensor

@[simp]
theorem Entity.signature_converted
    (type : ElementType)
    (entity : Entity Number) :
    (entity.converted type).signature = entity.signature := by
  simp only [signature, width, converted, Tensor.shape_cast]

@[simp]
theorem Entity.batchShape_converted
    (type : ElementType)
    (entity : Entity Number) :
    (entity.converted type).batchShape = entity.batchShape := by
  simp only [batchShape, converted, Tensor.shape_cast]

/-! ## Programs beside converted storage -/

namespace Program

open Tensor (IsBeside)

variable {type : ElementType}

/-- Columns beside those of converted storage. -/
def AreBeside
    (type : ElementType) :
    Columns Number → Columns Number → Prop :=
  List.Forall₂ fun column other =>
    other.1 = column.1 ∧ IsBeside type (some column.2.form) column.2 other.2

section Steps

variable
  {columns others : Columns Number}
  (beside : AreBeside type columns others)

include beside

theorem column_beside
    (id : SourceId) :
    Accompanies (IsBeside type (formOf? columns id)) (column columns id) (column others id) := by
  unfold column formOf?
  induction beside with
  | nil => exact .error _
  | @cons first other rest otherRest head _ inductionHypothesis =>
      rcases first with ⟨firstId, tensor⟩
      rcases other with ⟨otherId, otherTensor⟩
      rcases head with ⟨sameId, headBeside⟩
      have sameTest : (id == otherId) = (id == firstId) := congrArg (id == ·) sameId
      rw [List.lookup_cons, List.lookup_cons, sameTest]
      cases id == firstId with
      | false => exact inductionHypothesis
      | true => exact .ok headBeside

theorem multiplySlots_beside
    {start? : Option Form}
    {start other : Tensor Number}
    (startBeside : IsBeside type start? start other)
    (ids : List SourceId) :
    Accompanies (IsBeside type (start? >>= (productForm? type columns · ids)))
      (multiplySlots columns start ids) (multiplySlots others other ids) := by
  induction ids generalizing start? start other with
  | nil => exact .ok (by simpa [productForm?] using startBeside)
  | cons id rest inductionHypothesis =>
      refine (column_beside beside id).bind fun factor otherFactor factorBeside => ?_
      refine (startBeside.zipWith Arithmetic.mul factorBeside).bind fun _ _ productBeside => ?_
      have later := inductionHypothesis productBeside
      rw [Option.bind_eq_bind, Option.bind_assoc] at later
      exact later

theorem stepValue_beside
    (floating : type.isFloating = true)
    (batch : List Nat)
    (step : Step Number) :
    Accompanies (IsBeside type (stepForm? type columns batch step))
      (stepValue columns type batch step) (stepValue others type batch step) := by
  rcases step with ⟨slot, coefficient, ids⟩
  cases ids with
  | nil =>
      change Accompanies _ (Tensor.fill type batch coefficient) (Tensor.fill type batch coefficient)
      rw [Tensor.fill]
      split
      · exact .ok (Tensor.isBeside_filled batch coefficient)
      · exact .error _
  | cons first rest =>
      refine (column_beside beside first).bind fun start other startBeside => ?_
      refine (multiplySlots_beside beside startBeside rest).bind fun _ _ productBeside => ?_
      cases isOne : Arithmetic.isOne coefficient with
      | true => exact .ok (by simpa [stepForm?, isOne] using productBeside)
      | false =>
          have scaled := productBeside.scale floating coefficient
          exact .ok (by simpa [stepForm?, isOne, Option.bind_assoc] using scaled)

theorem sumSteps_beside
    (floating : type.isFloating = true)
    (batch : List Nat)
    {start? : Option Form}
    {start other : Tensor Number}
    (startBeside : IsBeside type start? start other)
    (steps : List (Step Number)) :
    Accompanies (IsBeside type (start? >>= (sumForm? type columns batch · steps)))
      (sumSteps columns type batch start steps) (sumSteps others type batch other steps) := by
  induction steps generalizing start? start other with
  | nil => exact .ok (by simpa [sumForm?] using startBeside)
  | cons step rest inductionHypothesis =>
      refine (stepValue_beside beside floating batch step).bind fun _ _ valueBeside => ?_
      refine (startBeside.zipWith Arithmetic.add valueBeside).bind fun _ _ totalBeside => ?_
      have later := inductionHypothesis totalBeside
      rw [Option.bind_eq_bind, Option.bind_assoc] at later
      exact later

/-- An output slot that is computed in the type throughout has the same entries. -/
theorem slotValue_beside
    (floating : type.isFloating = true)
    (stable :
      ∀ value : Number, Arithmetic.cast type (Arithmetic.cast type value) =
        Arithmetic.cast type value)
    (batch : List Nat)
    (steps : List (Step Number)) :
    Accompanies
      (fun result other =>
        (slotForm? type columns batch steps).isSome = true →
          ∀ index, Arithmetic.cast type (result.get index) = Arithmetic.cast type (other.get index))
      (slotValue columns type batch steps) (slotValue others type batch steps) := by
  cases steps with
  | nil => exact .error _
  | cons first rest =>
      refine (stepValue_beside beside floating batch first).bind fun _ _ startBeside => ?_
      refine (sumSteps_beside beside floating batch startBeside rest).bind fun _ _ totalBeside => ?_
      exact .ok fun known => totalBeside.cast_get_stretch stable known batch

end Steps

/-- Entities and their converted storage are collected alike. -/
theorem collect_beside
    (program : Program Number)
    (stable :
      ∀ value : Number, Arithmetic.cast type (Arithmetic.cast type value) =
        Arithmetic.cast type value)
    {columns others : Columns Number}
    (beside : AreBeside type columns others)
    (entities : List (Entity Number))
    (inputs : List Input) :
    Accompanies (AreBeside type) (program.collect columns (entities.zip inputs))
      (program.collect others ((entities.map (Entity.converted type)).zip inputs)) := by
  induction entities generalizing columns others inputs with
  | nil => exact .ok beside
  | cons entity rest inductionHypothesis =>
      cases inputs with
      | nil => exact .ok beside
      | cons input inputs =>
          rw [List.map_cons, List.zip_cons_cons, List.zip_cons_cons, collect, collect,
            Entity.signature_converted]
          change Accompanies _ (ite (¬ entity.algebra.Agrees program.algebra) _ _)
            (ite (¬ entity.algebra.Agrees program.algebra) _ _)
          split
          · exact .error _
          · cases entity.signature with
            | error error => exact .error error
            | ok signature =>
                simp only [bind, Except.bind]
                split
                · exact .error _
                · refine inductionHypothesis (List.rel_append ?_ beside) inputs
                  refine List.forall₂_map_left_iff.2 (List.forall₂_map_right_iff.2 ?_)
                  refine List.forall₂_same.2 fun slot _ => ⟨rfl, ?_⟩
                  exact (Tensor.isBeside_cast stable entity.storage).column slot

/-! ## Results beside those of converted storage -/

omit [Arithmetic Number] in
theorem isFloating_outputType
    {standard : ElementType}
    (floating : standard.isFloating = true)
    (entities : List (Entity Number)) :
    (outputType standard entities).isFloating = true := by
  rw [outputType]
  split
  · split <;> assumption
  · exact floating

/-- The storage that has been converted to the output type has it as its output type. -/
theorem outputType_converted
    {standard : ElementType}
    (floating : standard.isFloating = true)
    (entities : List (Entity Number)) :
    outputType standard (entities.map (Entity.converted (outputType standard entities))) =
      outputType standard entities := by
  cases entities with
  | nil => rfl
  | cons entity rest =>
      generalize sameType : outputType standard (entity :: rest) = type
      have isFloating : type.isFloating = true :=
        sameType ▸ isFloating_outputType floating (entity :: rest)
      have types (entities : List (Entity Number)) :
          (entities.map (Entity.converted type)).map (fun entity => entity.storage.type) =
            List.replicate entities.length type := by
        rw [List.map_map]
        refine List.eq_replicate_iff.2 ⟨List.length_map .., fun kind member => ?_⟩
        rcases List.mem_map.1 member with ⟨entity, _, rfl⟩
        exact Tensor.type_cast type entity.storage
      have promoted (count : Nat) :
          (List.replicate count type).foldl ElementType.promote type = type := by
        induction count with
        | zero => rfl
        | succ count inductionHypothesis =>
            rw [List.replicate_succ, List.foldl_cons, ElementType.promote, if_pos rfl,
              inductionHypothesis]
      rw [outputType, types, List.length_cons, List.replicate_succ, ElementType.promoteAll?,
        promoted]
      exact if_pos isFloating

/--
What a program computes from entities beside what it computes from their
converted storage: the type and the shape are the same, and so are the entries
of every slot that is computed in the type throughout.
-/
structure KeepsPrecision
    (program : Program Number)
    (type : ElementType)
    (entities : List (Entity Number))
    (result other : Tensor Number) :
    Prop where
  kind : result.type = type
  otherKind : other.type = type
  shape : other.shape = result.shape
  entries :
    ∀ slot, program.isComputedIn type entities slot = true →
      ∀ index, Tensor.IsIndex result.shape (index ++ [slot]) →
        other.get (index ++ [slot]) = result.get (index ++ [slot])
  whole :
    (∀ slot < program.blades.length, program.isComputedIn type entities slot = true) →
      other = result

/-- Output slots side by side keep what was computed in the type throughout. -/
theorem keepsPrecision_stack
    {program : Program Number}
    {entities : List (Entity Number)}
    {batch : List Nat}
    {parts others : List (Tensor Number)}
    (length : parts.length = (List.range program.blades.length).length)
    (otherLength : others.length = (List.range program.blades.length).length)
    (same :
      ∀ slot (inside : slot < parts.length) (otherInside : slot < others.length),
        program.isComputedIn type entities slot = true →
        ∀ index, Arithmetic.cast type (parts[slot].get index) =
          Arithmetic.cast type (others[slot].get index)) :
    program.KeepsPrecision type entities (Tensor.stack type batch parts)
      (Tensor.stack type batch others) := by
  have lengths : others.length = parts.length := otherLength.trans length.symm
  constructor
  case kind => rfl
  case otherKind => rfl
  case shape => simp [Tensor.stack, Tensor.ofFn, lengths]
  case entries =>
    intro slot isComputed index isIndex
    have sizes : (Tensor.stack type batch parts).shape = batch ++ [parts.length] := by
      simp [Tensor.stack, Tensor.ofFn]
    rw [sizes] at isIndex
    rcases Tensor.isIndex_append_iff.1 isIndex with ⟨inBatch, below⟩
    have otherBelow : slot < others.length := lengths ▸ below
    rw [Tensor.get_stack type inBatch below, Tensor.get_stack type inBatch otherBelow,
      same slot below otherBelow isComputed]
  case whole =>
    intro allComputed
    rw [Tensor.stack, Tensor.stack, List.size_toArray, List.size_toArray, lengths]
    refine congrArg (Tensor.ofFn type _) (funext fun index => ?_)
    simp only [List.getElem?_toArray]
    rcases Nat.lt_or_ge (index.getLast?.getD 0) parts.length with below | beyond
    · have otherBelow : index.getLast?.getD 0 < others.length := lengths ▸ below
      have inBlades : index.getLast?.getD 0 < program.blades.length := by
        simpa using below.trans_eq length
      rw [List.getElem?_eq_getElem below, List.getElem?_eq_getElem otherBelow]
      exact (same _ below otherBelow (allComputed _ inBlades) _).symm
    · rw [List.getElem?_eq_none beyond, List.getElem?_eq_none (lengths ▸ beyond)]

/--
Running a program on storage that has been converted to the output type first
fails as running it on the storage itself does, or computes the same storage
but for slots that are not computed in the output type throughout.
-/
theorem run_converted
    {standard : ElementType}
    (floating : standard.isFloating = true)
    (program : Program Number)
    (entities : List (Entity Number))
    (stable :
      ∀ value : Number,
        Arithmetic.cast (outputType standard entities)
            (Arithmetic.cast (outputType standard entities) value) =
          Arithmetic.cast (outputType standard entities) value) :
    Accompanies (program.KeepsPrecision (outputType standard entities) entities)
      (program.run standard entities)
      (program.run standard
        (entities.map (Entity.converted (outputType standard entities)))) := by
  have sameType := outputType_converted floating entities
  have isFloating := isFloating_outputType floating entities
  have shapes (type : ElementType) :
      (entities.map (Entity.converted type)).map Entity.batchShape =
        entities.map Entity.batchShape := by
    simp [Function.comp_def]
  unfold run
  rw [sameType, shapes, List.length_map]
  generalize outputType standard entities = type at stable isFloating ⊢
  split
  · exact .error _
  · have collected := collect_beside program stable .nil entities program.inputs
    generalize isCollected : program.collect [] (entities.zip program.inputs) = columns?
      at collected ⊢
    generalize program.collect [] ((entities.map (Entity.converted type)).zip program.inputs) =
      others? at collected ⊢
    cases collected with
    | error error => exact .error error
    | @ok columns others beside =>
        cases broadcast : Tensor.commonShape (entities.map Entity.batchShape) with
        | error error => exact .error error
        | ok batch =>
            have each (slot : Nat) (_ : slot ∈ List.range program.blades.length) :=
              slotValue_beside beside isFloating stable batch (program.stepsOf slot)
            have slots := Accompanies.mapM each
            refine slots.bind fun parts others complete => .ok ?_
            refine keepsPrecision_stack complete.1.length_eq.symm complete.2.length_eq.symm ?_
            intro slot below otherBelow isComputed index
            have inRange : slot < (List.range program.blades.length).length :=
              complete.1.length_eq ▸ below
            have part := complete.1.get inRange below
            have other := complete.2.get inRange otherBelow
            have beside := each slot (List.mem_range.2 (by simpa using inRange))
            simp only [List.get_eq_getElem, List.getElem_range] at part other
            rw [part, other] at beside
            rw [isComputedIn, isCollected, broadcast] at isComputed
            cases beside with
            | ok holds => exact holds isComputed index

end Program

/-! ## Machine numbers -/

/-- The program that multiplies scalars, which are bound at the given places. -/
def productOfScalars
    (places : List Nat) :
    Program Cell :=
  let ids : List SourceId := places.map Nat.cast
  ⟨0, .ofEntries .projective [⟨0, 1, ids⟩], [0], {}, [⟨0, .real 1, ids⟩],
    places.dedup.map fun base => ⟨⟨.scalar .projective, 1⟩, .natural base⟩⟩

/-- A scalar whose storage has been replaced by a machine integer. -/
def integerScalar
    (value : Int) :
    Entity Cell :=
  ⟨0, .scalar .projective, ⟨.int32, [1], #[.integer value]⟩⟩

/-- A batch of two scalars, and an integer. -/
def scalarsAndInteger : List (Entity Cell) :=
  [⟨1, .scalar .projective, ⟨.float64, [2, 1], #[.real 0.5, .real 1.5]⟩⟩, integerScalar 3]

/-- Without dimensions of its own, an integer takes the type of a batch that it is multiplied by. -/
theorem run_converted_batch :
    (productOfScalars [0, 1]).isComputedIn .float64 scalarsAndInteger 0 = true ∧
      Accompanies
        ((productOfScalars [0, 1]).KeepsPrecision
          (Program.outputType .float64 scalarsAndInteger) scalarsAndInteger)
        ((productOfScalars [0, 1]).run .float64 scalarsAndInteger)
        ((productOfScalars [0, 1]).run .float64
          (scalarsAndInteger.map
            (Entity.converted (Program.outputType .float64 scalarsAndInteger)))) := by
  constructor
  · decide +kernel
  · refine Program.run_converted rfl _ _ fun value => ?_
    cases value <;> rfl

/-- Whether the first entry of storage that has been computed is zero. -/
def startsWithZero : Except Error (Tensor Cell) → Bool
  | .ok storage => storage.data[0]?.any Cell.isZero
  | .error _ => false

/-- The square of an integer wraps around before it is converted. -/
theorem run_converted_wraps :
    ¬ ∀ entities : List (Entity Cell),
        (productOfScalars [0, 0]).run .float64
            (entities.map (Entity.converted (Program.outputType .float64 entities))) =
          (productOfScalars [0, 0]).run .float64 entities := by
  intro same
  have wrapped :
      startsWithZero ((productOfScalars [0, 0]).run .float64 [integerScalar 65536]) = true := by
    decide +kernel
  have converted :
      startsWithZero
        ((productOfScalars [0, 0]).run .float64
          ([integerScalar 65536].map
            (Entity.converted (Program.outputType .float64 [integerScalar 65536])))) = false := by
    decide +kernel
  rw [same, wrapped] at converted
  cases converted

end Versor
