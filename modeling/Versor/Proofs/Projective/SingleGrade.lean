import Versor.Proofs.Projective.Carrying
import Versor.Proofs.Projective.Recognition
import Versor.Proofs.Projective.Relabelling
import Versor.Proofs.Projective.Restriction

/-!
# Entities of a single grade

An entity all of whose blades have grade one or two is recognized as a plane or a line that
stands for the same elements, whatever the order of its blades.  One of grade three is a vector
if no index of its batch has a weight, and else a point that divides by the weight.  All other
entities are left alone, those without blades among them (`Compute.asPrimitive_keeps_value`).
-/

noncomputable section

namespace Versor

open Compute Reference

variable {limits : Limits}

namespace Reference

/-- The part on some blades is everything if there is nothing outside of them. -/
theorem partOn_eq_self_iff
    {Coefficient : Type}
    [CommRing Coefficient]
    {blades : List Blade}
    {element : Element Coefficient} :
    partOn blades element = element ↔
      ∀ word, element word ≠ 0 → word ∈ blades.map Blade.vectors :=
  Finsupp.filter_eq_self_iff _ _

end Reference

/-! ## Layouts of a single grade -/

namespace Layout

/-- A layout has blades, and all of them have a grade. -/
structure OfGrade
    (layout : Layout)
    (grade : Nat) :
    Prop where
  nonempty : layout.elements ≠ []
  grade_eq : ∀ blade ∈ layout.elements, Blade.grade blade = grade

/-- The primitives of a grade have all of its blades, but for the weight of a vector. -/
theorem HasGrade.mem_elements
    {primitive : Layout}
    {grade : Nat}
    (hasGrade : primitive.HasGrade grade)
    {blade : Blade}
    (below : blade < 16)
    (graded : Blade.grade blade = grade) :
    blade ∈ primitive.elements ∨ primitive = .vector ∧ blade = .e123 := by
  revert blade
  cases hasGrade with
  | plane => decide
  | line => decide
  | place isPlace =>
      cases isPlace with
      | point => decide
      | vector => decide

/-- A primitive of the grade of a layout misses nothing, but for the weight of a vector. -/
theorem OfGrade.partOn_valueAt
    {layout primitive : Layout}
    {grade : Nat}
    (ofGrade : layout.OfGrade grade)
    (hasGrade : primitive.HasGrade grade)
    (below : ∀ blade ∈ layout.elements, blade < 16)
    {slots : Nat → ℝ}
    (weightless :
      primitive = .vector → layout.valueAt slots (Blade.vectors .e123) = 0) :
    partOn primitive.elements (layout.valueAt slots) = layout.valueAt slots := by
  rw [partOn_eq_self_iff]
  intro word nonzero
  have inOwn := partOn_eq_self_iff.1 (layout.partOn_valueAt slots) word nonzero
  rcases List.mem_map.1 inOwn with ⟨blade, member, rfl⟩
  rcases hasGrade.mem_elements (below blade member) (ofGrade.grade_eq blade member) with
    inside | ⟨isVector, rfl⟩
  · exact List.mem_map_of_mem inside
  · exact absurd (weightless isVector) nonzero

end Layout

namespace Entity

/-- An entity of a type that stands for the same elements as a given one. -/
structure IsKeptAs
    (source : Entity ℝ)
    (layout : Layout)
    (result : Entity ℝ) :
    Prop where
  layout_eq : result.layout = layout
  batchShape_eq : result.batchShape = source.batchShape
  valueAt_eq :
    ∀ index, Tensor.IsIndex source.batchShape index →
      result.valueAt index = source.valueAt index

/-- A point that stands for the elements of a given entity, divided by their weight. -/
structure IsNormalizedBy
    (source result : Entity ℝ) :
    Prop where
  layout_eq : result.layout = .point
  batchShape_eq : result.batchShape = source.batchShape
  valueAt_eq :
    ∀ index, Tensor.IsIndex source.batchShape index →
      source.valueAt index (Blade.vectors .e123) ≠ 0 →
        result.valueAt index =
          (source.valueAt index (Blade.vectors .e123))⁻¹ • source.valueAt index

theorem IsPart.batchShape_eq
    {batch : List Nat}
    {layout : Layout}
    {value : List Nat → Element ℝ}
    {result : Entity ℝ}
    (isPart : result.IsPart batch layout value) :
    result.batchShape = batch := by
  rw [Entity.batchShape, isPart.shape_eq, List.dropLast_concat]

section Parts

variable
  {source result : Entity ℝ}
  {grade : Nat}
  (full : source.IsFull .projective)
  (inRange : source.layout.InRange)
  (ofGrade : source.layout.OfGrade grade)

include full inRange ofGrade

theorem partOn_valueAt
    {primitive : Layout}
    (hasGrade : primitive.HasGrade grade)
    {index : List Nat}
    (weightless :
      primitive = .vector → source.valueAt index (Blade.vectors .e123) = 0) :
    partOn primitive.elements (source.valueAt index) = source.valueAt index := by
  refine ofGrade.partOn_valueAt hasGrade ?_ weightless
  intro blade member
  have count : source.layout.algebra.bladeCount = 16 :=
    full.agrees.bladeCount_eq.trans Algebra.bladeCount_projective
  exact (inRange blade member).trans_eq count

/-- Where nothing is divided, the part of an entity of a single grade is the entity. -/
theorem IsPart.isKeptAs
    {primitive : Layout}
    (isPart : result.IsPart source.batchShape primitive source.valueAt)
    (hasGrade : primitive.HasGrade grade)
    (notPoint : primitive ≠ .point)
    (weightless : primitive = .vector → IsIdeal source.batchShape source.valueAt) :
    source.IsKeptAs primitive result where
  layout_eq := isPart.layout_eq
  batchShape_eq := isPart.batchShape_eq
  valueAt_eq index isIndex := by
    have undivided : primitive.divisor (source.valueAt index) = 1 := by
      cases primitive with
      | point => exact absurd rfl notPoint
      | translator => cases hasGrade with | place isPlace => cases isPlace
      | _ => rfl
    have part :=
      partOn_valueAt full inRange ofGrade hasGrade fun isVector =>
        weightless isVector index isIndex
    rw [isPart.valueAt_eq index isIndex (undivided ▸ one_ne_zero), undivided, part, inv_one,
      one_smul]

theorem IsPart.isNormalizedBy
    (isPart : result.IsPart source.batchShape .point source.valueAt)
    (hasGrade : Layout.point.HasGrade grade) :
    source.IsNormalizedBy result where
  layout_eq := isPart.layout_eq
  batchShape_eq := isPart.batchShape_eq
  valueAt_eq index isIndex hasWeight := by
    have part : partOn Layout.point.elements (source.valueAt index) = source.valueAt index :=
      partOn_valueAt full inRange ofGrade hasGrade fun isVector => absurd isVector (by decide)
    rw [isPart.valueAt_eq index isIndex hasWeight, part]
    rfl

end Parts

end Entity

namespace Compute

/-- The grade of an entity is found exactly if all of its blades have it, and it has some. -/
theorem singleGrade?_eq_some_iff
    {source : Entity ℝ}
    {grade : Nat} :
    singleGrade? source = some grade ↔ source.layout.OfGrade grade := by
  constructor
  · intro found
    have sorted : distinctSorted (source.layout.elements.map Blade.grade) = [grade] := by
      rw [singleGrade?] at found
      split at found
      · next single =>
        cases found
        exact single
      · cases found
    constructor
    · intro empty
      rw [empty] at sorted
      cases sorted
    · intro blade member
      have among := mem_distinctSorted.2 (List.mem_map_of_mem (f := Blade.grade) member)
      rw [sorted] at among
      exact List.mem_singleton.1 among
  · rintro ⟨nonempty, graded⟩
    have same : ∀ member ∈ source.layout.elements.map Blade.grade, member = grade := by
      intro member isMember
      rcases List.mem_map.1 isMember with ⟨blade, inElements, rfl⟩
      exact graded blade inElements
    rw [singleGrade?, distinctSorted_eq_singleton same (mt List.map_eq_nil_iff.1 nonempty)]

/-- What an entity of the projective algebra is recognized as. -/
structure RecognizesGrade
    (context : Context ℝ)
    (source : Entity ℝ) :
    Prop where
  plane :
    source.layout.OfGrade 1 →
      (asPrimitive source).Gives (context.limits.HasRoom source.batchShape) context
        (source.IsKeptAs .plane)
  line :
    source.layout.OfGrade 2 →
      (asPrimitive source).Gives (context.limits.HasRoom source.batchShape) context
        (source.IsKeptAs .line)
  vector :
    source.layout.OfGrade 3 → IsIdeal source.batchShape source.valueAt →
      (asPrimitive source).Gives
        (context.limits.HasRoom source.batchShape ∧
          source.batchShape.length ≤ Tensor.maxGatheredDimensions)
        context (source.IsKeptAs .vector)
  point :
    source.layout.OfGrade 3 → ¬ IsIdeal source.batchShape source.valueAt →
      (asPrimitive source).Gives
        (context.limits.HasRoom source.batchShape ∧
          source.batchShape.length ≤ Tensor.maxGatheredDimensions)
        context source.IsNormalizedBy
  refused :
    source.layout.OfGrade 3 → context.limits.HasRoom source.batchShape →
      Tensor.maxGatheredDimensions < source.batchShape.length →
        (outcome (asPrimitive source) context).1 = .error .tooManyDimensions
  other :
    (∀ grade ∈ [1, 2, 3], ¬ source.layout.OfGrade grade) →
      outcome (asPrimitive source) context = (.ok source, context)

/--
An entity of a single grade becomes the primitive of the grade and stands for the same elements:
a plane or a line as it is, a vector if there is no weight anywhere, and else a point, which
divides by the weight.  Weights over too many dimensions are not looked at, and all other
entities are returned as they are.
-/
theorem asPrimitive_keeps_value
    {context : Context ℝ}
    (reached : context.IsReached)
    {source : Entity ℝ}
    (full : source.IsFull .projective)
    (inRange : source.layout.InRange)
    (distinct : source.layout.elements.Nodup)
    (floating : source.storage.type.isFloating = true) :
    RecognizesGrade context source := by
  have ready := reached.isReady
  have represents := full.represents inRange distinct
  have gives {layout : Layout} {grade : Nat} (ofGrade : source.layout.OfGrade grade)
      (recognized :
        primitiveLayout? (some grade) (IsIdeal source.batchShape source.valueAt) =
          some layout)
      (isMoved : layout.IsMoved)
      (certain : Prop)
      (room : certain → context.limits.HasRoom source.batchShape)
      (few :
        certain → grade = 3 → source.batchShape.length ≤ Tensor.maxGatheredDimensions) :
      (asPrimitive source).Gives certain context fun result =>
        result.IsPart source.batchShape layout source.valueAt := by
    have found := singleGrade?_eq_some_iff.2 ofGrade
    have ensures := ensures_asPrimitive ready represents floating room
      (fun isCertain isThree => few isCertain (Option.some.inj (found.symm.trans isThree)))
    rw [found, recognized] at ensures
    exact ensures.gives fun result behind rebuilt =>
      rebuilt.isPart (Layout.valueAt_read_of_isMoved isMoved)
  constructor
  case plane =>
    intro ofGrade
    have parts := gives ofGrade rfl .plane _ id fun _ isThree => absurd isThree (by decide)
    exact parts.mono id fun result isPart =>
      isPart.isKeptAs full inRange ofGrade .plane (by decide) fun isVector =>
        absurd isVector (by decide)
  case line =>
    intro ofGrade
    have parts := gives ofGrade rfl .line _ id fun _ isThree => absurd isThree (by decide)
    exact parts.mono id fun result isPart =>
      isPart.isKeptAs full inRange ofGrade .line (by decide) fun isVector =>
        absurd isVector (by decide)
  case vector =>
    intro ofGrade ideal
    have recognized :
        primitiveLayout? (some 3) (IsIdeal source.batchShape source.valueAt) = some .vector := by
      rw [primitiveLayout?, if_pos ideal]
    have parts := gives ofGrade recognized .vector _ And.left fun certain _ => certain.2
    exact parts.mono id fun result isPart =>
      isPart.isKeptAs full inRange ofGrade (.place .vector) (by decide) fun _ => ideal
  case point =>
    intro ofGrade hasWeight
    have recognized :
        primitiveLayout? (some 3) (IsIdeal source.batchShape source.valueAt) = some .point := by
      rw [primitiveLayout?, if_neg hasWeight]
    have parts := gives ofGrade recognized .point _ And.left fun certain _ => certain.2
    exact parts.mono id fun result isPart =>
      isPart.isNormalizedBy full inRange ofGrade (.place .point)
  case refused =>
    intro ofGrade room many
    exact asPrimitive_of_many ready represents room (singleGrade?_eq_some_iff.2 ofGrade) many
  case other =>
    intro others
    have unrecognized : ∀ grade ∈ [1, 2, 3], singleGrade? source ≠ some grade := by
      intro grade isPrimitive found
      exact others grade isPrimitive (singleGrade?_eq_some_iff.1 found)
    rw [asPrimitive_of_other unrecognized]
    rfl

/-! ## Some entities that are recognized or not -/

/-- A place with a weight, on blades in no order. -/
def weightedPlace : Entity ℝ :=
  .ofRow 0 (.generic .projective [.e123, .e012] []) 0 [2, -6]

/-- A plane on two of its blades. -/
def sparsePlane : Entity ℝ :=
  .ofRow 0 (.generic .projective [.e3, .e0] []) 0 [1, 6]

/-- An entity that stands for zero on no blade. -/
def bladelessEntity : Entity ℝ :=
  .ofRow 0 (.generic .projective [] []) 0 []

/-- A place over many dimensions. -/
def deepPlace : Entity ℝ :=
  .ofRow 0 (.generic .projective [.e012, .e013, .e023, .e123] []) 65 [-6, 2, -1, 1]

theorem isOperand_deepPlace :
    deepPlace.IsOperand (.start 1) :=
  Entity.isOperand_ofRow ⟨rfl, by decide, by decide, by decide⟩ rfl (by decide)

/-- A place becomes a point, a plane stays one, and nothing becomes of an entity without blades. -/
theorem asPrimitive_keeps_value_weighted :
    weightedPlace.valueAt [] (Blade.vectors .e123) = 2 ∧
      (asPrimitive weightedPlace).Gives True (.start 1) weightedPlace.IsNormalizedBy ∧
      (asPrimitive sparsePlane).Gives True (.start 1) (sparsePlane.IsKeptAs .plane) ∧
      outcome (asPrimitive bladelessEntity) (.start 1) = (.ok bladelessEntity, .start 1) := by
  have reached : (Context.start 1 : Context ℝ).IsReached := Context.isReached_start 1
  have room : Limits.usual.HasRoom [] := Limits.hasRoom_usual (by decide)
  have placeFull : weightedPlace.IsFull .projective := ⟨rfl, rfl⟩
  have planeFull : sparsePlane.IsFull .projective := ⟨rfl, rfl⟩
  have bladelessFull : bladelessEntity.IsFull .projective := ⟨rfl, rfl⟩
  have weight : weightedPlace.valueAt [] (Blade.vectors .e123) = 2 := by
    have distinct : weightedPlace.layout.elements.Nodup := by decide
    exact Layout.valueAt_generic_getElem _ distinct (by decide : 0 < 2)
  have hasWeight : ¬ IsIdeal weightedPlace.batchShape weightedPlace.valueAt := by
    intro ideal
    exact two_ne_zero (weight.symm.trans (ideal [] .nil))
  have place := asPrimitive_keeps_value reached placeFull (by decide) (by decide) rfl
  have plane := asPrimitive_keeps_value reached planeFull (by decide) (by decide) rfl
  have bladeless := asPrimitive_keeps_value reached bladelessFull (by decide) (by decide) rfl
  refine ⟨weight, ?_, ?_, ?_⟩
  · have point := place.point ⟨by decide, by decide⟩ hasWeight
    exact point.mono (fun _ => ⟨room, by decide⟩) fun _ isNormalized => isNormalized
  · have kept := plane.plane ⟨by decide, by decide⟩
    exact kept.mono (fun _ => room) fun _ isKept => isKept
  · apply bladeless.other
    intro grade _ ofGrade
    exact ofGrade.nonempty rfl

/-- A place over many dimensions is not recognized, though it has a weight and could be stored. -/
theorem asPrimitive_refuses_place :
    deepPlace.IsOperand (.start 1) ∧ deepPlace.layout.OfGrade 3 ∧
      Limits.usual.HasRoom deepPlace.batchShape ∧
      (∀ index, Tensor.IsIndex deepPlace.batchShape index →
        deepPlace.valueAt index (Blade.vectors .e123) = 1) ∧
      (outcome (asPrimitive deepPlace) (.start 1)).1 = .error .tooManyDimensions := by
  have ready : (Context.start 1 : Context ℝ).IsReady .usual := (Context.isReached_start 1).isReady
  have batchShape : deepPlace.batchShape = List.replicate 65 1 := Entity.batchShape_ofRow ..
  have ofGrade : deepPlace.layout.OfGrade 3 := ⟨by decide, by decide⟩
  have room : Limits.usual.HasRoom deepPlace.batchShape :=
    batchShape ▸ Limits.hasRoom_usual (by decide)
  refine ⟨isOperand_deepPlace, ofGrade, room, ?_, ?_⟩
  · intro index isIndex
    have many : 65 ≤ index.length := by
      rw [isIndex.length_eq, batchShape, List.length_replicate]
    have weight :
        deepPlace.valueAt index (Blade.vectors .e123) = deepPlace.entryAt index 3 :=
      Layout.valueAt_generic_getElem _ isOperand_deepPlace.distinct (by decide : 3 < 4)
    rw [weight, deepPlace, Entity.entryAt_ofRow _ _ _ _ many]
    rfl
  · apply asPrimitive_of_many ready isOperand_deepPlace.represents room
    · exact singleGrade?_eq_some_iff.2 ofGrade
    · rw [batchShape, List.length_replicate]
      decide

end Compute

end Versor

end
