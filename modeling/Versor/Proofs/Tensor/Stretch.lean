import Mathlib
import Versor.Tensor.Basic

/-!
# Stretching tensors

A tensor made of a function has the values of that function at all indices of
its shape (`get_ofFn`).  Stretching is a preorder on shapes, the common shape
of shapes is their least upper bound in it, and stretching an index in two
steps is stretching it at once.  `Spreads` says that a tensor has given values
at the indices of a larger shape, which is how operations that stretch their
operands are described.
-/

namespace Versor
namespace Tensor

/-- The multi-indices of a shape. -/
abbrev IsIndex
    (shape index : List Nat) :
    Prop :=
  List.Forall₂ (· < ·) index shape

/-! ## Entries in row-major order -/

theorem mem_indices
    {shape index : List Nat} :
    index ∈ indices shape ↔ IsIndex shape index := by
  induction shape generalizing index with
  | nil => simp [indices]
  | cons size rest inductionHypothesis =>
      simp only [indices, List.mem_flatMap, List.mem_range, List.mem_map,
        inductionHypothesis, List.forall₂_cons_right_iff]
      constructor
      · rintro ⟨first, below, tail, inRest, rfl⟩
        exact ⟨first, tail, below, inRest, rfl⟩
      · rintro ⟨first, tail, below, inRest, rfl⟩
        exact ⟨first, below, tail, inRest, rfl⟩

/-- Parts of one size that stand one behind the other. -/
theorem getElem?_flatMap_range
    {Member : Type}
    {part : Nat → List Member}
    {size : Nat}
    (sizes : ∀ number, (part number).length = size)
    {count number place : Nat}
    (below : number < count)
    (inside : place < size) :
    ((List.range count).flatMap part)[number * size + place]? = (part number)[place]? := by
  induction count with
  | zero => exact absurd below (Nat.not_lt_zero _)
  | succ count inductionHypothesis =>
      have length : ((List.range count).flatMap part).length = count * size := by
        simp [List.length_flatMap, sizes]
      rw [List.range_succ, List.flatMap_append, List.flatMap_singleton]
      rcases Nat.lt_succ_iff_lt_or_eq.1 below with earlier | rfl
      · have before : number * size + place < count * size := by
          calc number * size + place < number * size + size := by omega
            _ = (number + 1) * size := (Nat.succ_mul _ _).symm
            _ ≤ count * size := Nat.mul_le_mul_right _ earlier
        rw [List.getElem?_append_left (length ▸ before), inductionHypothesis earlier]
      · rw [List.getElem?_append_right (by omega), length, Nat.add_sub_cancel_left]

theorem length_indices
    (shape : List Nat) :
    (indices shape).length = entryCount shape := by
  induction shape with
  | nil => rfl
  | cons size rest inductionHypothesis =>
      simp [indices, List.length_flatMap, inductionHypothesis, entryCount]

theorem offset_lt
    {shape index : List Nat}
    (isIndex : IsIndex shape index) :
    offset shape index < entryCount shape := by
  induction isIndex with
  | nil => exact Nat.one_pos
  | @cons first size index rest below _ inductionHypothesis =>
      change first * entryCount rest + offset rest index < size * entryCount rest
      calc first * entryCount rest + offset rest index
          < first * entryCount rest + entryCount rest := by omega
        _ = (first + 1) * entryCount rest := (Nat.succ_mul _ _).symm
        _ ≤ size * entryCount rest := Nat.mul_le_mul_right _ below

theorem getElem?_indices
    {shape index : List Nat}
    (isIndex : IsIndex shape index) :
    (indices shape)[offset shape index]? = some index := by
  induction isIndex with
  | nil => rfl
  | @cons first size index rest below inRest inductionHypothesis =>
      have sizes (number : Nat) :
          ((indices rest).map (number :: ·)).length = entryCount rest := by
        rw [List.length_map, length_indices]
      rw [indices, offset, getElem?_flatMap_range sizes below (offset_lt inRest),
        List.getElem?_map, inductionHypothesis]
      rfl

variable {Number : Type} [Arithmetic Number]

/-- A tensor made of a function has its values. -/
theorem get_ofFn
    (type : ElementType)
    {shape index : List Nat}
    (entry : List Nat → Number)
    (isIndex : IsIndex shape index) :
    (ofFn type shape entry).get index = entry index := by
  have inside := offset_lt isIndex
  have nonempty : entryCount shape ≠ 0 := by omega
  simp [get, ofFn, nonempty, getElem?_indices isIndex]

@[simp]
theorem shape_cast
    (type : ElementType)
    (tensor : Tensor Number) :
    (tensor.cast type).shape = tensor.shape := by
  rw [Tensor.cast]
  split <;> rfl

/-- A function of the entries that keeps zero is a function of what is read. -/
theorem get_map
    {function : Number → Number}
    (keepsZero : function Arithmetic.zero = Arithmetic.zero)
    (type : ElementType)
    (tensor : Tensor Number)
    (index : List Nat) :
    (⟨type, tensor.shape, tensor.data.map function⟩ : Tensor Number).get index =
      function (tensor.get index) := by
  simp only [get, Array.getElem?_map]
  cases tensor.data[offset tensor.shape index]? with
  | none => exact keepsZero.symm
  | some value => rfl

/-! ## Shapes -/

/-- Sizes that stretch to others, counted from the last one. -/
inductive StretchesReversed : List Nat → List Nat → Prop
  | nil (others : List Nat) : StretchesReversed [] others
  | cons
    {size other : Nat}
    {sizes others : List Nat}
    (fits : size = 1 ∨ size = other)
    (rest : StretchesReversed sizes others) :
    StretchesReversed (size :: sizes) (other :: others)

/-- Shapes that stretch to others. -/
def Stretches
    (shape target : List Nat) :
    Prop :=
  StretchesReversed shape.reverse target.reverse

namespace StretchesReversed

theorem refl
    (sizes : List Nat) :
    StretchesReversed sizes sizes := by
  induction sizes with
  | nil => exact .nil _
  | cons size sizes inductionHypothesis => exact .cons (.inr rfl) inductionHypothesis

theorem trans
    {sizes between target : List Nat}
    (first : StretchesReversed sizes between)
    (second : StretchesReversed between target) :
    StretchesReversed sizes target := by
  induction first generalizing target with
  | nil => exact .nil _
  | cons fits _ inductionHypothesis =>
      cases second with
      | cons otherFits rest =>
          refine .cons ?_ (inductionHypothesis rest)
          rcases fits with isOne | same
          · exact .inl isOne
          · exact same ▸ otherFits

/-- Sizes that stretch to each other are the same. -/
theorem antisymm
    {sizes target : List Nat}
    (stretches : StretchesReversed sizes target)
    (back : StretchesReversed target sizes) :
    sizes = target := by
  induction stretches with
  | nil others =>
      cases back
      rfl
  | cons fits _ inductionHypothesis =>
      cases back with
      | cons otherFits rest =>
          rw [inductionHypothesis rest]
          congr 1
          omega

theorem length_le
    {sizes target : List Nat}
    (stretches : StretchesReversed sizes target) :
    sizes.length ≤ target.length := by
  induction stretches with
  | nil => exact Nat.zero_le _
  | cons _ _ inductionHypothesis => exact Nat.succ_le_succ inductionHypothesis

/-- Both shapes stretch to their common one. -/
theorem of_stretchReversed?
    {left right common : List Nat}
    (found : stretchReversed? left right = some common) :
    StretchesReversed left common ∧ StretchesReversed right common := by
  fun_induction stretchReversed? left right generalizing common with
  | case1 others =>
      cases found
      exact ⟨.nil _, refl _⟩
  | case2 sizes =>
      cases found
      exact ⟨refl _, .nil _⟩
  | case3 size sizes other others inductionHypothesis =>
      cases rest : stretchReversed? sizes others with
      | none => simp [rest] at found
      | some tail =>
          rcases inductionHypothesis rest with ⟨leftRest, rightRest⟩
          simp only [rest, Option.bind_eq_bind, Option.bind_some] at found
          split at found
          · next same =>
            cases found
            exact ⟨.cons (.inr rfl) leftRest, .cons (.inr same.symm) rightRest⟩
          · split at found
            · next isOne =>
              cases found
              exact ⟨.cons (.inl isOne) leftRest, .cons (.inr rfl) rightRest⟩
            · split at found
              · next isOne =>
                cases found
                exact ⟨.cons (.inr rfl) leftRest, .cons (.inl isOne) rightRest⟩
              · cases found

/-- Shapes that stretch to one target have a common one that stretches to it. -/
theorem exists_stretchReversed?
    {left right target : List Nat}
    (leftStretches : StretchesReversed left target)
    (rightStretches : StretchesReversed right target) :
    ∃ common, stretchReversed? left right = some common ∧
      StretchesReversed common target := by
  induction leftStretches generalizing right with
  | nil => exact ⟨right, by cases right <;> rfl, rightStretches⟩
  | @cons size other sizes others fits rest inductionHypothesis =>
      cases rightStretches with
      | nil => exact ⟨_, rfl, .cons fits rest⟩
      | @cons second _ seconds _ otherFits otherRest =>
          rcases inductionHypothesis otherRest with ⟨common, found, stretches⟩
          simp only [stretchReversed?, found, Option.bind_eq_bind, Option.bind_some]
          by_cases same : size = second
          · exact ⟨_, if_pos same, .cons fits stretches⟩
          · rw [if_neg same]
            by_cases isOne : size = 1
            · exact ⟨_, if_pos isOne, .cons otherFits stretches⟩
            · rw [if_neg isOne]
              have reaches : size = other := fits.resolve_left isOne
              have otherIsOne : second = 1 :=
                otherFits.resolve_right fun equal => same (reaches.trans equal.symm)
              exact ⟨_, if_pos otherIsOne, .cons fits stretches⟩

end StretchesReversed

namespace Stretches

/-- The shape without dimensions stretches to every other one. -/
@[simp]
theorem nil
    (target : List Nat) :
    Stretches [] target :=
  StretchesReversed.nil _

theorem refl
    (shape : List Nat) :
    Stretches shape shape :=
  StretchesReversed.refl _

theorem trans
    {shape between target : List Nat}
    (first : Stretches shape between)
    (second : Stretches between target) :
    Stretches shape target :=
  StretchesReversed.trans first second

theorem antisymm
    {shape target : List Nat}
    (stretches : Stretches shape target)
    (back : Stretches target shape) :
    shape = target :=
  List.reverse_injective (StretchesReversed.antisymm stretches back)

theorem length_le
    {shape target : List Nat}
    (stretches : Stretches shape target) :
    shape.length ≤ target.length := by
  simpa using StretchesReversed.length_le stretches

end Stretches

/-- Every one of several shapes stretches to their common shape. -/
theorem stretches_of_foldlM
    {start common : List Nat}
    {shapes : List (List Nat)}
    (found : shapes.foldlM stretchShape? start = some common) :
    Stretches start common ∧ ∀ shape ∈ shapes, Stretches shape common := by
  induction shapes generalizing start with
  | nil =>
      cases found
      exact ⟨.refl _, by simp⟩
  | cons shape rest inductionHypothesis =>
      rw [List.foldlM_cons] at found
      cases joined : stretchReversed? start.reverse shape.reverse with
      | none => simp [stretchShape?, joined] at found
      | some sizes =>
          simp only [stretchShape?, joined, Option.map_some, Option.bind_eq_bind,
            Option.bind_some] at found
          rcases inductionHypothesis found with ⟨fromJoined, restStretch⟩
          rcases StretchesReversed.of_stretchReversed? joined with ⟨first, second⟩
          rw [← List.reverse_reverse sizes] at first second
          exact
            ⟨Stretches.trans first fromJoined,
              List.forall_mem_cons.2 ⟨Stretches.trans second fromJoined, restStretch⟩⟩

theorem stretches_of_commonShape
    {shapes : List (List Nat)}
    {common : List Nat}
    (found : commonShape shapes = .ok common) :
    ∀ shape ∈ shapes, Stretches shape common := by
  unfold commonShape at found
  split at found
  · next shape folded =>
    cases found
    exact (stretches_of_foldlM folded).2
  · cases found

theorem exists_foldlM_stretchShape?
    {start target : List Nat}
    {shapes : List (List Nat)}
    (startStretches : Stretches start target)
    (stretch : ∀ shape ∈ shapes, Stretches shape target) :
    ∃ common, shapes.foldlM stretchShape? start = some common ∧ Stretches common target := by
  induction shapes generalizing start with
  | nil => exact ⟨start, rfl, startStretches⟩
  | cons shape rest inductionHypothesis =>
      rcases List.forall_mem_cons.1 stretch with ⟨shapeStretches, restStretch⟩
      rcases StretchesReversed.exists_stretchReversed? startStretches shapeStretches with
        ⟨sizes, joined, stretches⟩
      have joinedStretches : Stretches sizes.reverse target := by
        rw [Stretches, List.reverse_reverse]
        exact stretches
      rcases inductionHypothesis joinedStretches restStretch with ⟨common, found, reaches⟩
      refine ⟨common, ?_, reaches⟩
      simp only [List.foldlM_cons, stretchShape?, joined, Option.map_some, Option.bind_eq_bind,
        Option.bind_some]
      exact found

/-- Shapes that stretch to a target have a common shape that does. -/
theorem exists_commonShape
    {shapes : List (List Nat)}
    {target : List Nat}
    (stretch : ∀ shape ∈ shapes, Stretches shape target) :
    ∃ common, commonShape shapes = .ok common ∧ Stretches common target := by
  rcases exists_foldlM_stretchShape? (.nil target) stretch with ⟨common, found, stretches⟩
  exact ⟨common, by rw [commonShape, found], stretches⟩

/-- The common shape of shapes stretches to whatever all of them stretch to. -/
theorem commonShape_stretches
    {shapes : List (List Nat)}
    {common target : List Nat}
    (found : commonShape shapes = .ok common)
    (stretch : ∀ shape ∈ shapes, Stretches shape target) :
    Stretches common target := by
  rcases exists_commonShape stretch with ⟨other, otherFound, stretches⟩
  rw [found] at otherFound
  cases otherFound
  exact stretches

/-- What a common shape stretches to is what all the shapes stretch to. -/
theorem stretches_iff_of_commonShape
    {shapes : List (List Nat)}
    {common : List Nat}
    (found : commonShape shapes = .ok common)
    (target : List Nat) :
    Stretches common target ↔ ∀ shape ∈ shapes, Stretches shape target :=
  ⟨fun reaches shape member => (stretches_of_commonShape found shape member).trans reaches,
    commonShape_stretches found⟩

/-- Shapes that stretch to the same shapes have the same common shape. -/
theorem commonShape_of_stretches_iff
    {shapes others : List (List Nat)}
    (same :
      ∀ target,
        (∀ shape ∈ shapes, Stretches shape target) ↔ ∀ shape ∈ others, Stretches shape target)
    {common : List Nat}
    (found : commonShape shapes = .ok common) :
    commonShape others = .ok common := by
  rcases exists_commonShape ((same common).1 (stretches_of_commonShape found)) with
    ⟨other, otherFound, stretches⟩
  have back := commonShape_stretches found ((same other).2 (stretches_of_commonShape otherFound))
  rw [otherFound, stretches.antisymm back]

theorem eq_of_stretches_iff
    {shape other : List Nat}
    (same : ∀ target, Stretches shape target ↔ Stretches other target) :
    shape = other :=
  ((same other).2 (.refl other)).antisymm ((same shape).1 (.refl shape))

/-- The common shape does not depend on the order of the shapes. -/
theorem commonShape_congr
    {shapes others : List (List Nat)}
    (same : ∀ shape, shape ∈ shapes ↔ shape ∈ others)
    {common : List Nat}
    (found : commonShape shapes = .ok common) :
    commonShape others = .ok common :=
  commonShape_of_stretches_iff (fun _ => by simp only [same]) found

/-- A shape that others stretch to is what they have in common with it. -/
theorem commonShape_eq
    {shapes : List (List Nat)}
    {shape : List Nat}
    (stretch : ∀ other ∈ shapes, Stretches other shape)
    (member : shape ∈ shapes) :
    commonShape shapes = .ok shape := by
  rcases exists_commonShape stretch with ⟨common, found, reaches⟩
  rw [found, reaches.antisymm (stretches_of_commonShape found shape member)]

/-! ## Indices -/

/-- The place in a dimension that a place of the larger dimension falls on. -/
def stretchPlace
    (size place : Nat) :
    Nat :=
  if size = 1 then 0 else place

theorem stretchIndex_eq
    {shape index : List Nat}
    (shorter : shape.length ≤ index.length) :
    stretchIndex shape index =
      (List.zipWith stretchPlace shape.reverse index.reverse).reverse := by
  have dropped : shape.length = (index.drop (index.length - shape.length)).length := by
    rw [List.length_drop]
    omega
  have unfolded :
      stretchIndex shape index =
        List.zipWith stretchPlace shape (index.drop (index.length - shape.length)) := by
    rw [stretchIndex, List.map_zip_eq_zipWith]
    rfl
  have taken : index.length - (index.length - shape.length) = shape.length := by omega
  rw [unfolded, ← List.reverse_reverse (List.zipWith _ _ _), List.reverse_zipWith dropped,
    List.reverse_drop, taken]
  nth_rewrite 2 [List.zipWith_eq_zipWith_take_min]
  simp [shorter, List.take_of_length_le]

/-- An index of a target falls on an index of each shape that stretches to it. -/
theorem isIndex_zipWith
    {sizes target places : List Nat}
    (stretches : StretchesReversed sizes target)
    (isIndex : IsIndex target places) :
    IsIndex sizes (List.zipWith stretchPlace sizes places) := by
  induction stretches generalizing places with
  | nil => exact .nil
  | @cons size other sizes others fits rest inductionHypothesis =>
      cases isIndex with
      | cons below inRest =>
          refine .cons ?_ (inductionHypothesis inRest)
          unfold stretchPlace
          split <;> omega

/-- Where a target has an index, every index of a shape that stretches to it is fallen on. -/
theorem exists_zipWith_eq
    {sizes target places others : List Nat}
    (stretches : StretchesReversed sizes target)
    (isIndex : IsIndex sizes places)
    (inhabited : IsIndex target others) :
    ∃ larger, IsIndex target larger ∧ List.zipWith stretchPlace sizes larger = places := by
  induction stretches generalizing places others with
  | nil =>
      cases isIndex
      exact ⟨others, inhabited, rfl⟩
  | @cons size other sizes _ fits _ inductionHypothesis =>
      cases isIndex with
      | @cons place _ _ _ below inRest =>
          cases inhabited with
          | @cons another _ _ _ otherBelow otherRest =>
              rcases inductionHypothesis inRest otherRest with ⟨larger, inTarget, falls⟩
              by_cases isOne : size = 1
              · refine ⟨another :: larger, .cons otherBelow inTarget, ?_⟩
                rw [List.zipWith_cons_cons, falls, stretchPlace, if_pos isOne]
                congr 1
                omega
              · refine ⟨place :: larger, .cons ?_ inTarget, ?_⟩
                · exact fits.resolve_left isOne ▸ below
                · rw [List.zipWith_cons_cons, falls, stretchPlace, if_neg isOne]

theorem zipWith_zipWith
    {sizes between target places : List Nat}
    (first : StretchesReversed sizes between)
    (second : StretchesReversed between target)
    (isIndex : IsIndex target places) :
    List.zipWith stretchPlace sizes (List.zipWith stretchPlace between places) =
      List.zipWith stretchPlace sizes places := by
  induction first generalizing target places with
  | nil => rfl
  | @cons size other sizes others fits rest inductionHypothesis =>
      cases second with
      | cons otherFits otherRest =>
          cases isIndex with
          | cons below inRest =>
              simp only [List.zipWith_cons_cons, inductionHypothesis otherRest inRest]
              unfold stretchPlace
              congr 1
              split
              · rfl
              · split <;> omega

theorem zipWith_self
    {sizes places : List Nat}
    (isIndex : IsIndex sizes places) :
    List.zipWith stretchPlace sizes places = places := by
  induction isIndex with
  | nil => rfl
  | @cons place size places sizes below _ inductionHypothesis =>
      rw [List.zipWith_cons_cons, inductionHypothesis]
      congr 1
      unfold stretchPlace
      split <;> omega

theorem isIndex_reverse
    {shape index : List Nat} :
    IsIndex shape.reverse index.reverse ↔ IsIndex shape index :=
  List.forall₂_reverse_iff

theorem isIndex_stretchIndex
    {shape target index : List Nat}
    (stretches : Stretches shape target)
    (isIndex : IsIndex target index) :
    IsIndex shape (stretchIndex shape index) := by
  have shorter : shape.length ≤ index.length :=
    stretches.length_le.trans_eq isIndex.length_eq.symm
  rw [stretchIndex_eq shorter, ← isIndex_reverse, List.reverse_reverse]
  exact isIndex_zipWith stretches (isIndex_reverse.2 isIndex)

theorem exists_stretchIndex_eq
    {shape target index other : List Nat}
    (stretches : Stretches shape target)
    (isIndex : IsIndex shape index)
    (inhabited : IsIndex target other) :
    ∃ larger, IsIndex target larger ∧ stretchIndex shape larger = index := by
  rcases
    exists_zipWith_eq stretches (isIndex_reverse.2 isIndex) (isIndex_reverse.2 inhabited)
    with ⟨larger, inTarget, falls⟩
  rw [← List.reverse_reverse larger, isIndex_reverse] at inTarget
  refine ⟨larger.reverse, inTarget, ?_⟩
  have shorter : shape.length ≤ larger.reverse.length :=
    stretches.length_le.trans_eq inTarget.length_eq.symm
  rw [stretchIndex_eq shorter, List.reverse_reverse, falls, List.reverse_reverse]

/-- Stretching an index in two steps is stretching it at once. -/
theorem stretchIndex_stretchIndex
    {shape between target index : List Nat}
    (first : Stretches shape between)
    (second : Stretches between target)
    (isIndex : IsIndex target index) :
    stretchIndex shape (stretchIndex between index) = stretchIndex shape index := by
  have reached := isIndex_stretchIndex second isIndex
  have betweenShorter : between.length ≤ index.length :=
    second.length_le.trans_eq isIndex.length_eq.symm
  rw [stretchIndex_eq (first.length_le.trans_eq reached.length_eq.symm),
    stretchIndex_eq (first.length_le.trans betweenShorter), stretchIndex_eq betweenShorter,
    List.reverse_reverse, zipWith_zipWith first second (isIndex_reverse.2 isIndex)]

theorem stretchIndex_self
    {shape index : List Nat}
    (isIndex : IsIndex shape index) :
    stretchIndex shape index = index := by
  rw [stretchIndex_eq isIndex.length_eq.ge, zipWith_self (isIndex_reverse.2 isIndex),
    List.reverse_reverse]

/-! ## Shapes with an index -/

theorem exists_isIndex_iff
    {shape : List Nat} :
    (∃ index, IsIndex shape index) ↔ 0 ∉ shape := by
  constructor
  · rintro ⟨index, isIndex⟩
    induction isIndex with
    | nil => exact List.not_mem_nil
    | cons below _ inductionHypothesis =>
        rw [List.mem_cons, not_or]
        exact ⟨by omega, inductionHypothesis⟩
  · intro noZero
    refine ⟨shape.map fun _ => 0, ?_⟩
    rw [IsIndex, List.forall₂_map_left_iff, List.forall₂_same]
    exact fun size member => Nat.pos_of_ne_zero fun isZero => noZero (isZero ▸ member)

theorem StretchesReversed.map_max
    {sizes target : List Nat}
    (stretches : StretchesReversed sizes target)
    (noZero : 0 ∉ sizes) :
    StretchesReversed sizes (target.map (max 1)) := by
  induction stretches with
  | nil => exact .nil _
  | cons fits _ inductionHypothesis =>
      rw [List.mem_cons, not_or] at noZero
      refine .cons ?_ (inductionHypothesis noZero.2)
      omega

theorem StretchesReversed.zero_not_mem
    {sizes : List Nat}
    (stretches : StretchesReversed sizes (sizes.map (max 1))) :
    0 ∉ sizes := by
  induction sizes with
  | nil => exact List.not_mem_nil
  | cons size rest inductionHypothesis =>
      cases stretches with
      | cons fits restStretches =>
          rw [List.mem_cons, not_or]
          exact ⟨by omega, inductionHypothesis restStretches⟩

/-- Shapes with indices have a common shape with one, which needs no size of its own. -/
theorem exists_isIndex_of_commonShape
    {shapes : List (List Nat)}
    {common : List Nat}
    (found : commonShape shapes = .ok common)
    (each : ∀ shape ∈ shapes, ∃ index, IsIndex shape index) :
    ∃ index, IsIndex common index := by
  have stretch (shape : List Nat) (member : shape ∈ shapes) :
      Stretches shape (common.map (max 1)) := by
    rw [Stretches, ← List.map_reverse]
    refine StretchesReversed.map_max (stretches_of_commonShape found shape member) ?_
    rw [List.mem_reverse]
    exact exists_isIndex_iff.1 (each shape member)
  have reaches := commonShape_stretches found stretch
  rw [Stretches, ← List.map_reverse] at reaches
  have noZero := reaches.zero_not_mem
  rw [List.mem_reverse] at noZero
  exact exists_isIndex_iff.2 noZero

/-! ## Tensors in a larger shape -/

/-- A tensor that has given values at the indices of a shape which it stretches to. -/
structure Spreads
    (tensor : Tensor Number)
    (shape : List Nat)
    (values : List Nat → Number) :
    Prop where
  stretches : Stretches tensor.shape shape
  get :
    ∀ index, IsIndex shape index →
      tensor.get (stretchIndex tensor.shape index) = values index

theorem spreads_ofFn
    {shape target : List Nat}
    (stretches : Stretches shape target)
    (type : ElementType)
    (entry : List Nat → Number) :
    (ofFn type shape entry).Spreads target fun index => entry (stretchIndex shape index) where
  stretches := stretches
  get _ isIndex := get_ofFn type entry (isIndex_stretchIndex stretches isIndex)

/-- An operation entry by entry works on values in the larger shape. -/
theorem exists_zipWith
    {left right : Tensor Number}
    {shape : List Nat}
    {first second : List Nat → Number}
    (leftSpreads : left.Spreads shape first)
    (rightSpreads : right.Spreads shape second)
    (type kind : ElementType)
    (operation : Number → Number → Number) :
    ∃ result, zipWith type kind operation left right = .ok result ∧
      result.Spreads shape fun index =>
        operation (Arithmetic.cast type (first index))
          (Arithmetic.cast type (second index)) := by
  have bothStretch : ∀ other ∈ [left.shape, right.shape], Stretches other shape := by
    simp [leftSpreads.stretches, rightSpreads.stretches]
  rcases exists_commonShape bothStretch with ⟨common, found, stretches⟩
  have toCommon := stretches_of_commonShape found
  have leftToCommon : Stretches left.shape common := toCommon _ (.head _)
  have rightToCommon : Stretches right.shape common := toCommon _ (.tail _ (.head _))
  refine ⟨_, by rw [zipWith, found]; rfl, stretches, fun index isIndex => ?_⟩
  apply (get_ofFn kind _ (isIndex_stretchIndex stretches isIndex)).trans
  rw [stretchIndex_stretchIndex leftToCommon stretches isIndex,
    stretchIndex_stretchIndex rightToCommon stretches isIndex, leftSpreads.get index isIndex,
    rightSpreads.get index isIndex]

/-- A tensor that has been stretched has the values in the larger shape. -/
theorem Spreads.get_stretch
    {tensor : Tensor Number}
    {shape : List Nat}
    {values : List Nat → Number}
    (spreads : tensor.Spreads shape values)
    {index : List Nat}
    (isIndex : IsIndex shape index) :
    (tensor.stretch shape).get index = values index :=
  (get_ofFn _ _ isIndex).trans (spreads.get index isIndex)

theorem isIndex_append_iff
    {shape index : List Nat}
    {size place : Nat} :
    IsIndex (shape ++ [size]) (index ++ [place]) ↔ IsIndex shape index ∧ place < size := by
  rw [← isIndex_reverse, List.reverse_append, List.reverse_append, List.reverse_singleton,
    List.reverse_singleton, List.singleton_append, List.singleton_append, IsIndex,
    List.forall₂_cons, and_comm, List.forall₂_reverse_iff]

/-- The values at a place of the last dimension. -/
theorem spreads_column
    {tensor : Tensor Number}
    {shape : List Nat}
    (stretches : Stretches tensor.shape.dropLast shape)
    (place : Nat) :
    (tensor.column place).Spreads shape fun index =>
      tensor.get (stretchIndex tensor.shape.dropLast index ++ [place]) :=
  spreads_ofFn stretches _ _

/-- Side by side, each tensor has its place in the last dimension. -/
theorem get_stack
    (type : ElementType)
    {shape index : List Nat}
    (isIndex : IsIndex shape index)
    {parts : List (Tensor Number)}
    {place : Nat}
    (inside : place < parts.length) :
    (stack type shape parts).get (index ++ [place]) =
      Arithmetic.cast type (parts[place].get index) := by
  have below : place < parts.toArray.size := by simpa using inside
  rw [stack, get_ofFn _ _ (isIndex_append_iff.2 ⟨isIndex, below⟩)]
  simp [inside]

end Tensor
end Versor
