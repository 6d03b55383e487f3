import Versor.Projective.Transform
import Versor.Proofs.Engine.Algebras
import Versor.Proofs.Projective.Transform

/-!
# Conversions relabel blades

The types of projective geometry are over one algebra, and an entity is
converted to one of them by the numbers of its blades, whatever its own algebra
is.  An entity of another algebra is refused if that has too few blades, and
otherwise treated as the one of the projective algebra with the same blades and
the same storage (`Compute.Relabels`).  So the algebra changes wherever the result
of a computation is converted: composing motors ends that way, and so does
recognizing what has been met or joined.  A transformed entity keeps its algebra,
and entities of different algebras are refused (`Compute.relabelling`).
-/

namespace Versor

open Compute

variable {limits : Limits}

/-- The types whose entities are over the projective algebra. -/
def Kind.IsProjective
    (kind : Kind) :
    Prop :=
  kind ≠ .generic ∧ kind ≠ .scalar
deriving Decidable

variable {Number : Type}

namespace Entity

/-- An entity of the projective algebra with the blades and the storage of an entity. -/
def relabelled
    (entity : Entity Number) :
    Entity Number :=
  { entity with layout := .generic .projective entity.layout.elements [] }

theorem isBladeMapped_of_foreign
    {entity : Entity Number}
    (foreign : ¬ entity.algebra.Agrees .projective) :
    entity.layout.isBladeMapped = true := by
  rcases entity with ⟨identity, layout, storage⟩
  cases layout with
  | generic => rfl
  | scalar => rfl
  | _ => exact absurd rfl foreign

end Entity

/-! ## Checks of blades -/

namespace Algebra

variable {algebra : Algebra} {blades : List Blade}

theorem le_bladeCount
    (wide : 4 ≤ algebra.dimension) :
    16 ≤ algebra.bladeCount :=
  (Nat.pow_le_pow_iff_right Nat.one_lt_two).2 wide

theorem bladeCount_le
    (narrow : algebra.dimension < 4) :
    algebra.bladeCount ≤ 8 :=
  (Nat.pow_le_pow_iff_right Nat.one_lt_two).2 (Nat.le_of_lt_succ narrow)

/-- Literals do not pass their checks if one of them names no blade. -/
theorem exists_mapM_checkBlade_of_none
    {literals : List Literal}
    (refused : ∃ literal ∈ literals, algebra.blade? literal = none) :
    ∃ literal ∈ literals, algebra.blade? literal = none ∧
      literals.mapM algebra.checkBlade = .error (.blade literal algebra.bladeCount) := by
  induction literals with
  | nil => simp at refused
  | cons literal rest inductionHypothesis =>
      rw [List.mapM_cons, checkBlade]
      cases named : algebra.blade? literal with
      | none => exact ⟨literal, .head _, named, rfl⟩
      | some blade =>
          rcases refused with ⟨other, member, unnamed⟩
          rcases List.mem_cons.1 member with rfl | inRest
          · cases named.symm.trans unnamed
          · rcases inductionHypothesis ⟨other, inRest, unnamed⟩ with
              ⟨found, isIn, isUnnamed, failed⟩
            exact ⟨found, .tail _ isIn, isUnnamed, by rw [failed]; rfl⟩

theorem exists_mapM_checkBlade_of_le
    (beyond : ∃ blade ∈ blades, algebra.bladeCount ≤ blade) :
    ∃ blade,
      (blades.map fun (blade : Blade) => Literal.integer (blade : Int)).mapM
          algebra.checkBlade =
        .error (.blade blade algebra.bladeCount) := by
  rcases beyond with ⟨blade, member, outside⟩
  have unnamed : algebra.blade? (.integer (blade : Int)) = none := by
    simp [blade?, Literal.toInt?, outside]
  have isIn := List.mem_map_of_mem (f := fun (blade : Blade) => Literal.integer blade) member
  rcases exists_mapM_checkBlade_of_none ⟨_, isIn, unnamed⟩ with ⟨refused, _, _, failed⟩
  exact ⟨refused, failed⟩

end Algebra

namespace Compute

section Selecting

variable [Arithmetic Number] {entity : Entity Number} {blades : List Blade}

theorem selectBlades_of_isBladeMapped
    (mapped : entity.layout.isBladeMapped = true)
    (blades : List Blade) :
    selectBlades entity blades =
      (ofExcept
          ((blades.map fun (blade : Blade) => Literal.integer (blade : Int)).mapM
            entity.algebra.checkBlade) >>= fun blades =>
        ofExcept (entity.selectSlots blades)) := by
  rw [selectBlades, select, if_pos mapped, pure_bind]

variable (foreign : ¬ entity.algebra.Agrees .projective)

include foreign

/-- Where there are enough blades, values are read whatever the algebra. -/
theorem selectBlades_relabelled
    (wide : 4 ≤ entity.algebra.dimension)
    (below : ∀ blade ∈ blades, blade < 16) :
    selectBlades entity blades = selectBlades entity.relabelled blades := by
  have inAlgebra : ∀ blade ∈ blades, blade < entity.algebra.bladeCount :=
    fun blade member => (below blade member).trans_le (Algebra.le_bladeCount wide)
  rw [selectBlades_of_isBladeMapped (Entity.isBladeMapped_of_foreign foreign),
    selectBlades_of_isBladeMapped rfl, Algebra.mapM_checkBlade_of_lt inAlgebra]
  have inProjective :
      (blades.map fun (blade : Blade) => Literal.integer (blade : Int)).mapM
          entity.relabelled.algebra.checkBlade =
        .ok blades :=
    Algebra.mapM_checkBlade_of_lt below
  rw [inProjective]
  rfl

/-- Where there are too few blades, reading a later one is refused. -/
theorem outcome_selectBlades_of_narrow
    (narrow : entity.algebra.dimension < 4)
    (beyond : ∃ blade ∈ blades, 8 ≤ blade)
    (context : Context Number) :
    ∃ blade,
      outcome (selectBlades entity blades) context =
        (.error (.blade blade entity.algebra.bladeCount), context) := by
  rcases beyond with ⟨last, member, late⟩
  have outside := (Algebra.bladeCount_le narrow).trans late
  rcases Algebra.exists_mapM_checkBlade_of_le ⟨last, member, outside⟩ with ⟨blade, refused⟩
  refine ⟨blade, ?_⟩
  rw [selectBlades_of_isBladeMapped (Entity.isBladeMapped_of_foreign foreign), refused]
  rfl

end Selecting

/-! ## Values that are copied -/

section Copying

variable [Arithmetic Number] {entity : Entity Number}

theorem exists_selectSlots_of_width
    (mapped : entity.layout.isBladeMapped = true)
    (width : entity.storage.shape.getLast? = some entity.layout.width)
    (blades : List Blade) :
    ∃ values, entity.selectSlots blades = .ok values ∧
      values.shape = entity.batchShape ++ [blades.length] := by
  have read :
      ∀ blade ∈ blades, ∃ column,
        (if entity.layout.elements.contains blade = true then
            entity.slot (entity.layout.elements.idxOf blade)
          else .ok (Tensor.filled entity.storage.type entity.batchShape Arithmetic.zero)) =
          .ok column ∧ True := by
    intro blade _
    by_cases contained : entity.layout.elements.contains blade = true
    · have below := List.idxOf_lt_length_of_mem (List.contains_iff_mem.1 contained)
      rw [← Layout.width_of_isBladeMapped mapped] at below
      refine ⟨entity.storage.column (entity.layout.elements.idxOf blade), ?_, trivial⟩
      rw [if_pos contained]
      simp [Entity.slot, Entity.width, width, below, bind, Except.bind]
    · exact ⟨_, if_neg contained, trivial⟩
  rcases exists_mapM_eq_ok read with ⟨columns, found, many⟩
  refine ⟨Tensor.stack entity.storage.type entity.batchShape columns, ?_, ?_⟩
  · rw [Entity.selectSlots, found]
    rfl
  · rw [many.length_eq]
    rfl

theorem exists_outcome_wrap
    {layout : Layout}
    {storage : Tensor Number}
    (width : storage.shape.getLast? = some layout.width)
    {context : Context Number}
    (representable : Tensor.isRepresentable context.limits.capacity storage.shape = true) :
    ∃ result behind, outcome (wrap layout storage) context = (.ok result, behind) := by
  rw [outcome_wrap]
  by_cases floating : storage.type.isFloating = true <;>
    simp [Entity.checkStorage, representable, floating, width]

/-- Where an entity has the blades and there is room, their values make an entity of a layout. -/
theorem exists_outcome_copied
    (mapped : entity.layout.isBladeMapped = true)
    (width : entity.storage.shape.getLast? = some entity.layout.width)
    {blades : List Blade}
    (inside : ∀ blade ∈ blades, blade < entity.algebra.bladeCount)
    {layout : Layout}
    (sameWidth : blades.length = layout.width)
    {context : Context Number}
    (room :
      Tensor.isRepresentable context.limits.capacity (entity.batchShape ++ [layout.width]) =
        true) :
    ∃ result behind,
      outcome (selectBlades entity blades >>= wrap layout) context = (.ok result, behind) := by
  rcases exists_selectSlots_of_width mapped width blades with ⟨values, selected, shape⟩
  rw [sameWidth] at shape
  have selects : outcome (selectBlades entity blades) context = (.ok values, context) := by
    rw [selectBlades_of_isBladeMapped mapped, Algebra.mapM_checkBlade_of_lt inside]
    exact congrArg (outcome · context) (congrArg ofExcept selected)
  rw [outcome_bind, selects]
  exact exists_outcome_wrap (by rw [shape, List.getLast?_concat]) (shape ▸ room)

end Copying

/-! ## Layouts that are made -/

/-- Entities are made with certain layouts only. -/
def Makes
    (computation : Compute Number (Entity Number))
    (isMade : Layout → Prop) :
    Prop :=
  ∀ context result behind, outcome computation context = (.ok result, behind) →
    isMade result.layout

section Makes

variable {isMade : Layout → Prop}

theorem makes_bind
    {Result : Type}
    {computation : Compute Number Result}
    {next : Result → Compute Number (Entity Number)}
    (makes : ∀ result, (next result).Makes isMade) :
    (computation >>= next).Makes isMade := by
  intro context result behind computed
  rw [outcome_bind] at computed
  split at computed
  · exact makes _ _ _ _ computed
  · cases computed

theorem makes_wrap
    [Arithmetic Number]
    {layout : Layout}
    (made : isMade layout)
    (storage : Tensor Number) :
    (wrap layout storage).Makes isMade := by
  intro context result behind wrapped
  rw [outcome_wrap] at wrapped
  split at wrapped
  · cases wrapped
    exact made
  · cases wrapped

variable [RealArithmetic Number]

theorem makes_wrapColumns
    {layout : Layout}
    (projective : layout.algebra = .projective)
    (columns : List (Tensor Number)) :
    (wrapColumns layout columns).Makes fun layout => layout.algebra = .projective :=
  makes_wrap projective _

end Makes

variable [RealArithmetic Number]

variable (Number) in
/-- A conversion reads blades of the projective algebra, a late one among them, and rebuilds. -/
theorem exists_rebuild
    {kind : Kind}
    (isProjective : kind.IsProjective) :
    ∃ (blades : List Blade) (rebuild : Tensor Number → Compute Number (Entity Number)),
      (∀ entity : Entity Number, fromEntity kind entity = selectBlades entity blades >>= rebuild) ∧
        (∀ blade ∈ blades, blade < 16) ∧ (∃ blade ∈ blades, 8 ≤ blade) ∧
          ∀ values, (rebuild values).Makes fun layout => layout.algebra = .projective := by
  cases kind with
  | generic => exact absurd rfl isProjective.1
  | scalar => exact absurd rfl isProjective.2
  | plane => exact ⟨_, _, fun _ => rfl, by decide, by decide, makes_wrap rfl⟩
  | point =>
      refine ⟨_, pointFrom, fun _ => rfl, by decide, by decide, fun values => ?_⟩
      exact makes_bind fun x => makes_bind fun y => makes_bind fun z => makes_wrapColumns rfl _
  | vector =>
      refine ⟨_, vectorFrom, fun _ => rfl, by decide, by decide, fun values => ?_⟩
      exact makes_bind fun x => makes_bind fun z => makes_wrapColumns rfl _
  | line =>
      refine ⟨_, lineFrom, fun _ => rfl, by decide, by decide, fun values => ?_⟩
      exact makes_bind fun second => makes_wrapColumns rfl _
  | rotor =>
      refine ⟨_, rotorFrom, fun _ => rfl, by decide, by decide, fun values => ?_⟩
      exact makes_bind fun x => makes_bind fun z => makes_bind fun sine => makes_bind fun axis =>
        makes_wrapColumns rfl _
  | translator =>
      refine ⟨_, translatorFrom, fun _ => rfl, by decide, by decide, fun values => ?_⟩
      exact makes_bind fun displacement => makes_bind fun distance => makes_bind fun direction =>
        makes_wrapColumns rfl _
  | motor => exact ⟨_, _, fun _ => rfl, by decide, by decide, makes_wrap rfl⟩
  | dualNumber => exact ⟨_, _, fun _ => rfl, by decide, by decide, makes_wrap rfl⟩

/-! ## Conversions -/

/-- A conversion looks at the blades and the storage of an entity, and not at its algebra. -/
structure Relabels
    (conversion : Entity Number → Compute Number (Entity Number))
    (entity : Entity Number) :
    Prop where
  refused :
    entity.algebra.dimension < 4 →
      ∀ context, ∃ blade,
        outcome (conversion entity) context =
          (.error (.blade blade entity.algebra.bladeCount), context)
  relabelled : 4 ≤ entity.algebra.dimension → conversion entity = conversion entity.relabelled
  projective : (conversion entity).Makes fun layout => layout.algebra = .projective

omit [RealArithmetic Number] in
theorem Relabels.congr
    {conversion other : Entity Number → Compute Number (Entity Number)}
    {entity : Entity Number}
    (relabels : Relabels conversion entity)
    (same : other entity = conversion entity)
    (sameRelabelled : other entity.relabelled = conversion entity.relabelled) :
    Relabels other entity where
  refused := same ▸ relabels.refused
  relabelled wide := by rw [same, sameRelabelled, relabels.relabelled wide]
  projective := same ▸ relabels.projective

section Conversions

variable {entity : Entity Number} (foreign : ¬ entity.algebra.Agrees .projective)

include foreign

/-- Where an algebra has the blades, the types that copy their values are not refused. -/
theorem exists_outcome_converted
    (wide : 4 ≤ entity.algebra.dimension)
    (width : entity.storage.shape.getLast? = some entity.layout.width)
    {layout : Layout}
    (copied : layout ∈ [.plane, .motor, .dualNumber])
    {context : Context Number}
    (room :
      Tensor.isRepresentable context.limits.capacity (entity.batchShape ++ [layout.width]) =
        true) :
    ∃ result behind, outcome (fromEntity layout.kind entity) context = (.ok result, behind) := by
  have copies :
      fromEntity layout.kind entity = selectBlades entity layout.elements >>= wrap layout ∧
        (∀ blade ∈ layout.elements, blade < 16) ∧ layout.elements.length = layout.width := by
    simp only [List.mem_cons, List.not_mem_nil, or_false] at copied
    rcases copied with rfl | rfl | rfl <;> exact ⟨rfl, by decide, rfl⟩
  rcases copies with ⟨copies, below, sameWidth⟩
  have inside : ∀ blade ∈ layout.elements, blade < entity.algebra.bladeCount :=
    fun blade member => (below blade member).trans_le (Algebra.le_bladeCount wide)
  rw [copies]
  exact
    exists_outcome_copied (Entity.isBladeMapped_of_foreign foreign) width inside sameWidth room

theorem relabels_fromEntity
    {kind : Kind}
    (isProjective : kind.IsProjective) :
    Relabels (fromEntity kind) entity := by
  rcases exists_rebuild Number isProjective with ⟨blades, rebuild, reads, below, late, makes⟩
  constructor
  case refused =>
    intro narrow context
    rcases outcome_selectBlades_of_narrow foreign narrow late context with ⟨blade, refused⟩
    exact ⟨blade, by rw [reads, outcome_bind, refused]⟩
  case relabelled =>
    intro wide
    rw [reads entity, reads entity.relabelled, selectBlades_relabelled foreign wide below]
  case projective =>
    rw [reads]
    exact makes_bind makes

end Conversions

/-! ## Recognition -/

section Recognition

variable {entity : Entity Number}

theorem asPrimitive_of_one
    (recognized : singleGrade? entity = some 1) :
    asPrimitive entity = fromEntity .plane entity := by
  rw [asPrimitive, recognized]
  rfl

theorem asPrimitive_of_two
    (recognized : singleGrade? entity = some 2) :
    asPrimitive entity = fromEntity .line entity := by
  rw [asPrimitive, recognized]
  rfl

theorem asPrimitive_of_three
    (recognized : singleGrade? entity = some 3) :
    asPrimitive entity =
      selectBlades entity [.e123] >>= fun values =>
        ofExcept (values.column 0).allZero >>= fun isIdeal =>
          if isIdeal then fromEntity .vector entity else fromEntity .point entity := by
  simp only [asPrimitive, recognized, component, bind_assoc, pure_bind]
  rfl

theorem asPrimitive_of_other
    (unrecognized : ∀ grade ∈ [1, 2, 3], singleGrade? entity ≠ some grade) :
    asPrimitive entity = pure entity := by
  rw [asPrimitive]
  split
  case h_1 isOne => exact absurd isOne (unrecognized 1 (by decide))
  case h_2 isTwo => exact absurd isTwo (unrecognized 2 (by decide))
  case h_3 isThree => exact absurd isThree (unrecognized 3 (by decide))
  case h_4 => rfl

variable (foreign : ¬ entity.algebra.Agrees .projective)

include foreign

theorem relabels_asPrimitive
    {grade : Nat}
    (recognized : singleGrade? entity = some grade)
    (isPrimitive : grade ∈ [1, 2, 3]) :
    Relabels asPrimitive entity := by
  have sameGrade : singleGrade? entity.relabelled = some grade := recognized
  have isVector : Kind.vector.IsProjective := by decide
  have isPoint : Kind.point.IsProjective := by decide
  simp only [List.mem_cons, List.not_mem_nil, or_false] at isPrimitive
  rcases isPrimitive with rfl | rfl | rfl
  · exact (relabels_fromEntity foreign (by decide)).congr (asPrimitive_of_one recognized)
      (asPrimitive_of_one sameGrade)
  · exact (relabels_fromEntity foreign (by decide)).congr (asPrimitive_of_two recognized)
      (asPrimitive_of_two sameGrade)
  -- The weight is read before the type is known, and its blade is a late one as well.
  · constructor
    case refused =>
      intro narrow context
      rcases
        outcome_selectBlades_of_narrow foreign narrow ⟨.e123, .head _, by decide⟩ context with
        ⟨blade, refused⟩
      exact ⟨blade, by rw [asPrimitive_of_three recognized, outcome_bind, refused]⟩
    case relabelled =>
      intro wide
      rw [asPrimitive_of_three recognized, asPrimitive_of_three sameGrade,
        selectBlades_relabelled foreign wide (by decide),
        (relabels_fromEntity foreign isVector).relabelled wide,
        (relabels_fromEntity foreign isPoint).relabelled wide]
    case projective =>
      rw [asPrimitive_of_three recognized]
      refine makes_bind fun values => makes_bind fun isIdeal => ?_
      cases isIdeal
      case false => exact (relabels_fromEntity foreign isPoint).projective
      case true => exact (relabels_fromEntity foreign isVector).projective

end Recognition

/-! ## Computations -/

section Reading

variable
  {kind : Kind}
  (notProjective : ¬ kind.IsProjective)
  {source : Entity Number}
  (generic : source.layout.kind = .generic)

include notProjective generic

theorem fromEntity_of_not_isProjective :
    fromEntity kind source = pure source ∧ kind = .generic ∨
      fromEntity kind source = selectBlades source [0] >>= wrap (.scalar source.algebra) ∧
        kind = .scalar := by
  rcases source with ⟨identity, layout, storage⟩
  cases layout with
  | generic =>
      cases kind with
      | generic => exact .inl ⟨rfl, rfl⟩
      | scalar => exact .inr ⟨rfl, rfl⟩
      | _ => exact absurd (by decide) notProjective
  | _ => cases generic

/-- What is computed is read back in its own algebra by the types that are not bound to one. -/
theorem makes_fromEntity :
    (fromEntity kind source).Makes fun layout =>
      layout.kind = kind ∧ layout.algebra = source.algebra := by
  rcases fromEntity_of_not_isProjective notProjective generic with
    ⟨same, rfl⟩ | ⟨same, rfl⟩ <;> rw [same]
  · intro context result behind converted
    cases converted
    exact ⟨generic, rfl⟩
  · exact makes_bind fun values => makes_wrap ⟨rfl, rfl⟩ values

theorem exists_outcome_fromEntity
    (width : source.storage.shape.getLast? = some source.layout.width)
    {context : Context Number}
    (room : Tensor.isRepresentable context.limits.capacity (source.batchShape ++ [1]) = true) :
    ∃ result behind, outcome (fromEntity kind source) context = (.ok result, behind) := by
  rcases fromEntity_of_not_isProjective notProjective generic with
    ⟨same, rfl⟩ | ⟨same, rfl⟩ <;> rw [same]
  · exact ⟨_, _, rfl⟩
  · have mapped : source.layout.isBladeMapped = true := by
      generalize source.layout = layout at generic
      cases layout <;> first | rfl | cases generic
    have inside : ∀ blade ∈ [0], blade < source.algebra.bladeCount :=
      List.forall_mem_singleton.2 (twoTo_pos _)
    have sameWidth : [0].length = (Layout.scalar source.algebra).width := rfl
    exact exists_outcome_copied mapped width inside sameWidth room

end Reading

omit [RealArithmetic Number] in
theorem not_isProjective_of_foreign
    {entity : Entity Number}
    (foreign : ¬ entity.algebra.Agrees .projective) :
    ¬ entity.layout.kind.IsProjective := by
  rcases entity with ⟨identity, layout, storage⟩
  cases layout with
  | generic => exact fun isProjective => isProjective.1 rfl
  | scalar => exact fun isProjective => isProjective.2 rfl
  | _ => exact absurd rfl foreign

/-- A motion leaves an entity its type and its algebra, which is also that of the motor. -/
theorem of_outcome_transform
    {motor entity result : Entity Number}
    {context behind : Context Number}
    (foreign : ¬ entity.algebra.Agrees .projective)
    (transformed : outcome (transform motor entity) context = (.ok result, behind)) :
    result.layout.kind = entity.layout.kind ∧
      entity.algebra.Agrees result.algebra ∧ motor.algebra.Agrees result.algebra := by
  rw [transform, outcome_bind] at transformed
  split at transformed
  · next moved between computed =>
    rcases of_outcome_apply computed with ⟨generic, agree⟩
    have made := makes_fromEntity (not_isProjective_of_foreign foreign) generic
    rcases made _ _ _ transformed with ⟨sameKind, sameAlgebra⟩
    have overMoved : result.algebra = moved.algebra := sameAlgebra
    rw [overMoved]
    exact ⟨sameKind, agree entity (.tail _ (.head _)), agree motor (.head _)⟩
  · cases transformed

/-- The product of motors is over their algebra. -/
theorem of_outcome_product
    {first product : Entity Number}
    {rest : List (Entity Number)}
    {context behind : Context Number}
    (multiplied :
      outcome (rest.foldlM (fun product motor => applyLibrary .product [product, motor]) first)
          context =
        (.ok product, behind)) :
    ∀ motor ∈ first :: rest, motor.algebra.Agrees product.algebra := by
  induction rest generalizing first context with
  | nil =>
      cases multiplied
      exact List.forall_mem_singleton.2 rfl
  | cons motor rest inductionHypothesis =>
      rw [List.foldlM_cons, outcome_bind] at multiplied
      split at multiplied
      · next next between computed =>
        rcases of_outcome_apply computed with ⟨_, agree⟩
        have overProduct := inductionHypothesis multiplied
        have overNext := overProduct next (.head _)
        refine List.forall_mem_cons.2 ⟨(agree first (.head _)).trans overNext, ?_⟩
        refine List.forall_mem_cons.2 ⟨(agree motor (.tail _ (.head _))).trans overNext, ?_⟩
        exact fun other member => overProduct other (.tail _ member)
      · cases multiplied

/-- A motion of an entity of an algebra other than the projective one is carried out. -/
theorem exists_outcome_transform
    [CommRing Number]
    [Module ℚ Number]
    [ExactArithmetic Number]
    {algebra : Algebra}
    {context : Context Number}
    (ready : context.IsReady limits)
    {motor entity : Entity Number}
    (foreign : ¬ entity.algebra.Agrees .projective)
    (identified : Identified [motor, entity])
    (full : ∀ operand ∈ [motor, entity], operand.IsFull algebra)
    (inRange : ∀ operand ∈ [motor, entity], operand.layout.InRange)
    {batch : List Nat}
    (broadcast : Tensor.commonShape [motor.batchShape, entity.batchShape] = .ok batch)
    (room : limits.HasRoomFor algebra batch) :
    ∃ result behind, outcome (transform motor entity) context = (.ok result, behind) := by
  have ensured :=
    ensures_applyLibrary ready identified full inRange (fun _ : True => ⟨batch, broadcast, room⟩)
      .sandwich (LibraryFunction.isOver .sandwich)
  rcases ensured.succeeds trivial with ⟨moved, computed⟩
  have called := ensured.holds moved computed
  have limits_eq := ensured.ready.limits_eq
  rw [transform, outcome_bind]
  generalize outcome (applyLibrary .sandwich [motor, entity]) context = reached at *
  rcases reached with ⟨result, between⟩
  cases computed
  have sameBatch : batch = moved.batchShape :=
    Except.ok.inj (broadcast.symm.trans called.broadcast)
  refine
    exists_outcome_fromEntity (not_isProjective_of_foreign foreign) called.generic
      called.represents.full.width ?_
  rw [limits_eq, ← sameBatch]
  exact room.tensors 1 (twoTo_pos _)

/-! ## Entities of other algebras -/

/-- What becomes of entities of an algebra that is not the projective one. -/
structure Relabelling
    (algebra : Algebra)
    (context : Context Number) :
    Prop where
  converted {entity : Entity Number} {kind : Kind} :
    entity.algebra.Agrees algebra → kind.IsProjective → Relabels (fromEntity kind) entity
  silent {entity : Entity Number} {layout : Layout} :
    entity.algebra.Agrees algebra → 4 ≤ entity.algebra.dimension →
      entity.storage.shape.getLast? = some entity.layout.width →
        layout ∈ [.plane, .motor, .dualNumber] →
          Tensor.isRepresentable context.limits.capacity (entity.batchShape ++ [layout.width]) =
              true →
            ∃ result behind,
              outcome (fromEntity layout.kind entity) context = (.ok result, behind)
  recognized {entity : Entity Number} {grade : Nat} :
    entity.algebra.Agrees algebra → singleGrade? entity = some grade → grade ∈ [1, 2, 3] →
      Relabels asPrimitive entity
  unrecognized {entity : Entity Number} :
    (∀ grade ∈ [1, 2, 3], singleGrade? entity ≠ some grade) → asPrimitive entity = pure entity
  moved {motor entity result : Entity Number} {behind : Context Number} :
    entity.algebra.Agrees algebra →
      outcome (transform motor entity) context = (.ok result, behind) →
        result.layout.kind = entity.layout.kind ∧ result.algebra.Agrees algebra ∧
          motor.algebra.Agrees algebra
  movable [CommRing Number] [Module ℚ Number] [ExactArithmetic Number]
      {motor entity : Entity Number} {batch : List Nat} :
    Identified [motor, entity] →
      (∀ operand ∈ [motor, entity], operand.IsFull algebra ∧ operand.layout.InRange) →
        Tensor.commonShape [motor.batchShape, entity.batchShape] = .ok batch →
          context.limits.HasRoomFor algebra batch →
            ∃ result behind, outcome (transform motor entity) context = (.ok result, behind)
  composed {first product : Entity Number} {rest : List (Entity Number)}
      {between : Context Number} :
    first.algebra.Agrees algebra →
      outcome (rest.foldlM (fun product motor => applyLibrary .product [product, motor]) first)
          context =
        (.ok product, between) →
        product.algebra.Agrees algebra ∧ (∀ motor ∈ rest, motor.algebra.Agrees algebra) ∧
          outcome (compose (first :: rest)) context = outcome (fromEntity .motor product) between
  met {left right source : Entity Number} {between : Context Number} :
    left.algebra.Agrees algebra →
      outcome (applyLibrary .meet [left, right]) context = (.ok source, between) →
        source.algebra.Agrees algebra ∧ right.algebra.Agrees algebra ∧
          outcome (meet left right) context = outcome (asPrimitive source) between
  joined {left right source : Entity Number} {between : Context Number} :
    left.algebra.Agrees algebra →
      outcome (applyLibrary .join [left, right]) context = (.ok source, between) →
        source.algebra.Agrees algebra ∧ right.algebra.Agrees algebra ∧
          outcome (join left right) context = outcome (asPrimitive source) between
  refused {left right : Entity Number} {signatures : List Signature} :
    Signed [left, right] signatures → ¬ right.algebra.Agrees left.algebra →
      ∀ computation ∈
          [transform left right, compose [left, right], meet left right, join left right],
        (outcome computation context).1 =
          .error (.entitiesOfAlgebras left.algebra.metric right.algebra.metric)

/-- What is computed from two entities is over the algebra of both. -/
theorem outcome_bind_of_computed
    {function : LibraryFunction}
    {algebra : Algebra}
    {left right source : Entity Number}
    {context between : Context Number}
    (isOver : left.algebra.Agrees algebra)
    (computed : outcome (applyLibrary function [left, right]) context = (.ok source, between))
    (next : Entity Number → Compute Number (Entity Number)) :
    source.algebra.Agrees algebra ∧ right.algebra.Agrees algebra ∧
      outcome (applyLibrary function [left, right] >>= next) context =
        outcome (next source) between := by
  have agree := (of_outcome_apply computed).2
  have sourceOver := (agree left (.head _)).symm.trans isOver
  have rightOver := (agree right (.tail _ (.head _))).trans sourceOver
  exact ⟨sourceOver, rightOver, by rw [outcome_bind, computed]⟩

theorem compose_pair
    (left right : Entity Number) :
    compose [left, right] = applyLibrary .product [left, right] >>= motorOf := by
  rw [compose, List.foldlM_cons]
  simp only [List.foldlM_nil, bind_pure]

/-- Two entities of different algebras are not computed with. -/
theorem refused_of_differ
    {context : Context Number}
    (ready : context.IsReady limits)
    {left right : Entity Number}
    {signatures : List Signature}
    (signed : Signed [left, right] signatures)
    (differ : ¬ right.algebra.Agrees left.algebra) :
    ∀ computation ∈
        [transform left right, compose [left, right], meet left right, join left right],
      (outcome computation context).1 =
        .error (.entitiesOfAlgebras left.algebra.metric right.algebra.metric) := by
  have refused (function : LibraryFunction)
      (next : Entity Number → Compute Number (Entity Number)) :
      (outcome (applyLibrary function [left, right] >>= next) context).1 =
        .error (.entitiesOfAlgebras left.algebra.metric right.algebra.metric) :=
    outcome_bind_of_error (outcome_applyLibrary_of_differ ready signed differ function)
  simp only [List.forall_mem_cons, List.not_mem_nil, false_implies, implies_true, and_true]
  rw [compose_pair]
  exact ⟨refused .sandwich _, refused .product _, refused .meet _, refused .join _⟩

/-- Conversions relabel the entities of other algebras, and computations keep them apart. -/
theorem relabelling
    {algebra : Algebra}
    {context : Context Number}
    (foreign : ¬ algebra.Agrees .projective)
    (ready : context.IsReady limits) :
    Relabelling algebra context := by
  have isForeign {entity : Entity Number} (isOver : entity.algebra.Agrees algebra) :
      ¬ entity.algebra.Agrees .projective :=
    fun projective => foreign (isOver.symm.trans projective)
  constructor
  case converted =>
    intro entity kind isOver isProjective
    exact relabels_fromEntity (isForeign isOver) isProjective
  case silent =>
    intro entity layout isOver wide width copied room
    exact exists_outcome_converted (isForeign isOver) wide width copied room
  case recognized =>
    intro entity grade isOver recognized isPrimitive
    exact relabels_asPrimitive (isForeign isOver) recognized isPrimitive
  case unrecognized => exact asPrimitive_of_other
  case moved =>
    intro motor entity result behind isOver transformed
    rcases of_outcome_transform (isForeign isOver) transformed with
      ⟨sameKind, entityAgrees, motorAgrees⟩
    have resultOver := entityAgrees.symm.trans isOver
    exact ⟨sameKind, resultOver, motorAgrees.trans resultOver⟩
  case movable =>
    intro _ _ _ motor entity batch identified operands broadcast room
    have full : ∀ operand ∈ [motor, entity], operand.IsFull algebra :=
      fun operand member => (operands operand member).1
    have inRange : ∀ operand ∈ [motor, entity], operand.layout.InRange :=
      fun operand member => (operands operand member).2
    have entityForeign := isForeign (full entity (.tail _ (.head _))).agrees
    exact
      exists_outcome_transform (ready.limits_eq ▸ ready) entityForeign identified full inRange
        broadcast room
  case composed =>
    intro first product rest between isOver multiplied
    rcases List.forall_mem_cons.1 (of_outcome_product multiplied) with ⟨overFirst, overRest⟩
    have productOver := overFirst.symm.trans isOver
    refine ⟨productOver, fun motor member => (overRest motor member).trans productOver, ?_⟩
    rw [compose, outcome_bind, multiplied]
    rfl
  case met => exact fun isOver computed => outcome_bind_of_computed isOver computed asPrimitive
  case joined => exact fun isOver computed => outcome_bind_of_computed isOver computed asPrimitive
  case refused => exact fun signed differ => refused_of_differ ready signed differ

end Compute

/-- The algebra of four dimensions without null vectors. -/
def Algebra.fourDimensional : Algebra :=
  ⟨⟨4, 0, 0, [], by decide⟩⟩

namespace Compute

theorem relabelling_fourDimensional :
    ¬ Algebra.fourDimensional.Agrees .projective ∧
      (Context.start 0 : Context ℝ).IsReady .usual ∧
        Relabelling Algebra.fourDimensional (Context.start 0 : Context ℝ) := by
  have foreign : ¬ Algebra.fourDimensional.Agrees .projective := by decide
  have ready := (Context.isReached_start 0 : (Context.start 0 : Context ℝ).IsReached).isReady
  exact ⟨foreign, ready, relabelling foreign ready⟩

/-- A vector of four dimensions, on the blade of the null vector of projective geometry. -/
def fourVector : Entity ℝ :=
  ⟨0, .generic .fourDimensional [.e0] [], ⟨.float64, [1], #[2]⟩⟩

/-- A plane is made of a vector of another algebra, and it is over the projective one. -/
theorem relabelling_changes_algebra :
    ¬ ∀ (kind : Kind) (entity : Entity ℝ) (context : Context ℝ),
        kind.IsProjective → ¬ entity.algebra.Agrees .projective →
          (∃ result behind,
              outcome (fromEntity kind entity) context = (.ok result, behind) ∧
                result.algebra.Agrees entity.algebra) ∨
            ∃ error behind,
              outcome (fromEntity kind entity) context = (.error error, behind) ∧
                error.kind = .algebraMismatch := by
  intro keeps
  have isProjective : Kind.plane.IsProjective := by decide
  have foreign : ¬ fourVector.algebra.Agrees .projective := by decide
  have wide : 4 ≤ fourVector.algebra.dimension := by decide
  have room :
      Tensor.isRepresentable (Context.start 1 : Context ℝ).limits.capacity
          (fourVector.batchShape ++ [4]) =
        true := by
    decide
  have copied : Layout.plane ∈ [.plane, .motor, .dualNumber] := .head _
  rcases exists_outcome_converted foreign wide rfl copied room with
    ⟨plane, after, converted⟩
  have overProjective := (relabels_fromEntity foreign isProjective).projective _ _ _ converted
  rcases keeps .plane fourVector (.start 1) isProjective foreign with
    ⟨result, behind, computed, own⟩ | ⟨error, behind, refused, _⟩
  · cases converted.symm.trans computed
    exact foreign (own.symm.trans (congrArg Algebra.plain overProjective))
  · cases converted.symm.trans refused

end Compute
end Versor
