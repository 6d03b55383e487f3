import Versor.Proofs.Expression.Dependence
import Versor.Proofs.Multivector.Laws
import Versor.Proofs.Program.Columns
import Versor.Proofs.Program.Flattening

/-!
# The meaning of what programs compute

In exact arithmetic an entity stands for an element of the geometric algebra
at every index of its batch (`Entity.valueAt`).  An expression whose leaves
are bound to entities at disjoint ranges of ids is flattened into a program
that runs on them, and what it computes stands for the meaning of the
expression (`Program.exists_run_exactly`), wherever the ranges are.
-/

noncomputable section

namespace Versor

variable {Number : Type} [CommRing Number] [Module ℚ Number]

/-! ## Layouts as elements -/

namespace Layout

/-- An entity is a sum of ascending words, as its blades are. -/
theorem valueAt_mem_ascending
    (layout : Layout)
    (slots : Nat → Number) :
    layout.valueAt slots ∈ Reference.ascending := by
  refine AddSubmonoid.list_sum_mem _ fun summand member => ?_
  rcases List.mem_map.1 member with ⟨term, _, rfl⟩
  exact Reference.single_mem_ascending (Blade.vectors_sortedLT term.blade) _

variable
  {algebra : Algebra}
  {elements : List Blade}
  {spelling : Spelling}
  (slots : Nat → Number)

/-- The slots of a generic entity are what it holds on its blades. -/
theorem valueAt_generic
    (blade : Blade) :
    (generic algebra elements spelling).valueAt slots (Blade.vectors blade) =
      ∑ place : Fin elements.length, if elements[place] = blade then slots place else 0 := by
  have terms :
      (generic algebra elements spelling).slotTerms =
        elements.mapIdx fun slot blade => ⟨blade, 1, [slot]⟩ :=
    rfl
  rw [valueAt, terms, List.mapIdx_eq_ofFn, List.map_ofFn, List.sum_ofFn, Finsupp.finsetSum_apply]
  refine Finset.sum_congr rfl fun place _ => ?_
  simp [Finsupp.single_apply, Blade.vectors_injective.eq_iff]

theorem valueAt_generic_getElem
    (distinct : elements.Nodup)
    {place : Nat}
    (inside : place < elements.length) :
    (generic algebra elements spelling).valueAt slots (Blade.vectors elements[place]) =
      slots place := by
  rw [valueAt_generic, Finset.sum_eq_single ⟨place, inside⟩]
  · exact if_pos rfl
  · intro other _ different
    refine if_neg fun same => different (Fin.ext ?_)
    exact (distinct.getElem_inj_iff).1 same
  · exact fun absent => absurd (Finset.mem_univ _) absent

theorem valueAt_generic_of_not_mem
    {blade : Blade}
    (absent : blade ∉ elements) :
    (generic algebra elements spelling).valueAt slots (Blade.vectors blade) = 0 := by
  rw [valueAt_generic]
  exact Finset.sum_eq_zero fun place _ =>
    if_neg fun same : elements[place] = blade => absent (same ▸ List.getElem_mem place.isLt)

end Layout

variable [Arithmetic Number]

/-- The element that an entity stands for at an index of the batch. -/
def Entity.valueAt
    (entity : Entity Number)
    (index : List Nat) :
    Reference.Element Number :=
  entity.layout.valueAt fun slot =>
    entity.storage.get (Tensor.stretchIndex entity.batchShape index ++ [slot])

/-! ## Placed entities -/

/-- A placed entity of an algebra, with storage of the width of its layout. -/
structure Placement.IsOf
    (algebra : Algebra)
    (placement : Placement Number) :
    Prop where
  agrees : placement.entity.algebra.Agrees algebra
  signature : placement.signature = ⟨placement.entity.layout, placement.entity.layout.width⟩
  width : placement.entity.storage.shape.getLast? = some placement.entity.layout.width

omit [CommRing Number] [Module ℚ Number] [Arithmetic Number] in
theorem Placement.IsOf.signed
    {algebra : Algebra}
    {placement : Placement Number}
    (isOf : placement.IsOf algebra) :
    placement.entity.signature = .ok placement.signature := by
  simp [isOf.signature, Entity.signature, Entity.width, isOf.width, bind, Except.bind]

/-- A binding of a placed entity, which is what the binding stands for. -/
structure Placement.Binds
    (placement : Placement Number)
    (leaf : List Nat → Binding → Reference.Element Number)
    (binding : Binding) :
    Prop where
  layout : binding.layout = placement.entity.layout
  first : binding.first = .natural placement.base
  meaning : ∀ index, leaf index binding = placement.entity.valueAt index

namespace Program

/-- The ids of placed entities. -/
def idsOf
    (placed : List (Placement Number)) :
    Set SourceId :=
  { id | ∃ placement ∈ placed, ∃ slot < placement.entity.layout.width,
      id = ((placement.base + slot : Nat) : ℚ) }

/-- The value that collected columns give an id at an index of the batch. -/
def slotAt
    (columns : Columns Number)
    (index : List Nat)
    (id : SourceId) :
    Number :=
  match columns.lookup id with
  | some column => column.get (Tensor.stretchIndex column.shape index)
  | none => 0

/-- Columns in which the slots of placed entities are found by their ids. -/
def HasSlots
    (columns : Columns Number)
    (placed : List (Placement Number)) :
    Prop :=
  ∀ placement ∈ placed, ∀ slot < placement.entity.layout.width,
    columns.lookup ((placement.base + slot : Nat) : ℚ) =
      some (placement.entity.storage.column slot)

section Columns

variable
  {placed : List (Placement Number)}
  {batch : List Nat}
  (broadcast :
    Tensor.commonShape (placed.map fun placement => placement.entity.batchShape) = .ok batch)

include broadcast

omit [CommRing Number] [Module ℚ Number] in
/-- The slots of a placed entity have their values at the indices of the batch. -/
theorem spreads_slot
    {placement : Placement Number}
    (member : placement ∈ placed)
    (slot : Nat) :
    (placement.entity.storage.column slot).Spreads batch fun index =>
      placement.entity.storage.get
        (Tensor.stretchIndex placement.entity.batchShape index ++ [slot]) := by
  have isShape :=
    List.mem_map_of_mem (f := fun placement : Placement Number => placement.entity.batchShape)
      member
  exact Tensor.spreads_column (Tensor.stretches_of_commonShape broadcast _ isShape) slot

variable {columns : Columns Number} (hasSlots : HasSlots columns placed)

include hasSlots

omit [Module ℚ Number] in
theorem provides_idsOf :
    Provides columns batch (slotAt columns) (idsOf placed) := by
  rintro id ⟨placement, member, slot, below, rfl⟩
  refine
    ⟨_, hasSlots placement member slot below, (spreads_slot broadcast member slot).stretches, ?_⟩
  intro index isIndex
  rw [slotAt, hasSlots placement member slot below]

/-- At the values of its slots, a bound entity is what it stands for. -/
theorem valueAt_slotAt
    {leaf : List Nat → Binding → Reference.Element Number}
    {expression : Expr}
    (leaves : expression.AllLeaves fun binding =>
      ∃ placement ∈ placed, placement.Binds leaf binding)
    {index : List Nat}
    (isIndex : Tensor.IsIndex batch index) :
    expression.AllLeaves fun binding =>
      binding.valueAt (slotAt columns index) = leaf index binding := by
  apply leaves.mono
  rintro binding ⟨placement, member, binds⟩
  rw [binds.meaning, Binding.valueAt, Entity.valueAt, binds.layout, binds.first]
  apply placement.entity.layout.valueAt_congr
  intro slot below
  rw [← (spreads_slot broadcast member slot).get index isIndex]
  change slotAt columns index ((placement.base + slot : Nat) : ℚ) = _
  rw [slotAt, hasSlots placement member slot below]

end Columns

theorem mem_idsOf
    {placed : List (Placement Number)}
    {leaf : List Nat → Binding → Reference.Element Number}
    {expression : Expr}
    (leaves : expression.AllLeaves fun binding =>
      ∃ placement ∈ placed, placement.Binds leaf binding) :
    expression.AllLeaves fun binding =>
      ∀ slot < binding.layout.width, binding.first.id slot ∈ idsOf placed := by
  apply leaves.mono
  rintro binding ⟨placement, member, binds⟩ slot below
  rw [binds.layout] at below
  exact ⟨placement, member, slot, below, by rw [binds.first]; rfl⟩

variable [ExactArithmetic Number]

/--
The program that an expression over placed entities is flattened to runs on
them, and what it computes stands for the meaning of the expression at every
index of the batch.
-/
theorem exists_run_exactly
    {algebra : Algebra}
    {placed : List (Placement Number)}
    (areOf : ∀ placement ∈ placed, placement.IsOf algebra)
    (disjoint : placed.Pairwise Placement.Disjoint)
    {batch : List Nat}
    (broadcast :
      Tensor.commonShape (placed.map fun placement => placement.entity.batchShape) = .ok batch)
    {expression : Expr}
    (wellFormed : expression.WellFormed)
    (agrees : expression.algebra.Agrees algebra)
    {leaf : List Nat → Binding → Reference.Element Number}
    (leaves : expression.AllLeaves fun binding =>
      ∃ placement ∈ placed, placement.Binds leaf binding)
    {value : Multivector}
    (evaluated : expression.evaluate = .ok value)
    (identity : Nat)
    (spelling : ElementSpelling)
    (standard : ElementType) :
    let program : Program Number :=
      exactly identity value spelling (placed.map Placement.input)
    ∃ storage, program.run standard (placed.map Placement.entity) = .ok storage ∧
      storage.shape = batch ++ [value.blades.length] ∧
      ∀ index, Tensor.IsIndex batch index →
        program.layout.valueAt (fun slot => storage.get (index ++ [slot])) =
          expression.interpret algebra.metric (leaf index) := by
  intro program
  have programAgrees : program.algebra.Agrees algebra := by
    change value.algebra.Agrees algebra
    rw [(Expr.denotes_of_evaluate wellFormed evaluated).algebra]
    exact agrees
  have agree : ∀ placement ∈ placed, placement.entity.algebra.Agrees program.algebra :=
    fun placement member => (areOf placement member).agrees.trans programAgrees.symm
  have signed : ∀ placement ∈ placed, placement.entity.signature = .ok placement.signature :=
    fun placement member => (areOf placement member).signed
  rcases exists_collect agree signed disjoint [] with ⟨columns, collected, _, found⟩
  have hasSlots : HasSlots columns placed := by
    intro placement member slot below
    refine found placement member slot ?_
    rw [(areOf placement member).signature]
    exact below
  have inIds : ∀ step ∈ program.steps, ∀ id ∈ step.ids, id ∈ idsOf placed := by
    intro step member
    rcases List.mem_map.1 member with ⟨entry, inEntries, rfl⟩
    exact Expr.mem_ids_of_evaluate wellFormed (mem_idsOf leaves) evaluated entry inEntries
  have arity : (placed.map Placement.entity).length = program.inputs.length := by
    simp [program, exactly]
  have zipped :
      (placed.map Placement.entity).zip program.inputs =
        placed.map fun placement => (placement.entity, placement.input) :=
    List.zip_map' ..
  rcases
      exists_run arity (zipped ▸ collected) (by rwa [List.map_map])
        (provides_idsOf broadcast hasSlots) inIds
        (fun slot below => stepsOf_exactly_ne_nil identity value spelling _ below)
        standard with
    ⟨storage, ran, shape, values⟩
  refine ⟨storage, ran, shape, fun index isIndex => ?_⟩
  have meaning :
      value.valueAt (slotAt columns index) =
        expression.interpret algebra.metric (leaf index) := by
    rw [Expr.valueAt_evaluate wellFormed evaluated agrees,
      Expr.interpret_congr _ (valueAt_slotAt broadcast hasSlots leaves isIndex)]
  rw [← meaning]
  refine
    Reference.ext_of_ascending (Layout.valueAt_mem_ascending program.layout _)
      (value.valueAt_mem_ascending _) fun blade => ?_
  by_cases inBlades : blade ∈ value.blades
  · rcases List.mem_iff_getElem.1 inBlades with ⟨slot, below, rfl⟩
    have distinct : value.blades.Nodup := value.blades_sortedLT.nodup
    calc program.layout.valueAt (fun slot => storage.get (index ++ [slot]))
          (Blade.vectors value.blades[slot])
        = storage.get (index ++ [slot]) := Layout.valueAt_generic_getElem _ distinct below
      _ = _ := values index isIndex slot below
      _ = _ := sum_stepsOf_exactly identity value spelling _ below _
  · rw [Multivector.valueAt_eq_zero_of_not_mem_blades _ inBlades]
    exact Layout.valueAt_generic_of_not_mem _ inBlades

end Program

/-! ## Storage that holds a meaning -/

namespace Expr

/--
A generic layout on the blades of an expression, and storage that stands for
the meaning of the expression at every index of a batch.
-/
structure IsHeldBy
    (leaf : List Nat → Binding → Reference.Element Number)
    (batch : List Nat)
    (expression : Expr)
    (layout : Layout)
    (storage : Tensor Number) :
    Prop where
  kind : layout.kind = .generic
  algebra : layout.algebra.Agrees expression.algebra
  elements : ∃ value, expression.evaluate = .ok value ∧ layout.elements = value.blades
  shape : storage.shape = batch ++ [layout.elements.length]
  valueAt :
    ∀ index, Tensor.IsIndex batch index →
      layout.valueAt (fun slot => storage.get (index ++ [slot])) =
        expression.interpret expression.algebra.metric (leaf index)

variable
  {leaf : List Nat → Binding → Reference.Element Number}
  {batch : List Nat}
  {expression : Expr}
  {layout : Layout}
  {storage : Tensor Number}

theorem IsHeldBy.ascending
    (isHeld : expression.IsHeldBy leaf batch layout storage) :
    layout.elements.SortedLT := by
  rcases isHeld.elements with ⟨value, _, same⟩
  rw [same]
  exact value.blades_sortedLT

/-- What holds an expression has storage of the width of its layout. -/
theorem IsHeldBy.width
    (isHeld : expression.IsHeldBy leaf batch layout storage) :
    storage.shape.getLast? = some layout.width := by
  cases layout with
  | generic algebra elements spelling => rw [isHeld.shape, List.getLast?_concat]; rfl
  | _ => cases isHeld.kind

/-- How the blades of a layout were given makes no difference. -/
theorem IsHeldBy.of_plain
    {other : Layout}
    (isHeld : expression.IsHeldBy leaf batch layout storage)
    (same : other.plain = layout.plain) :
    expression.IsHeldBy leaf batch other storage := by
  cases layout with
  | generic algebra elements spelling =>
      cases other with
      | generic otherAlgebra otherElements otherSpelling =>
          simp only [Layout.plain, Layout.generic.injEq, and_true] at same
          rcases same with ⟨agrees, rfl⟩
          exact
            { kind := rfl
              algebra := agrees.trans isHeld.algebra
              elements := isHeld.elements
              shape := isHeld.shape
              valueAt := isHeld.valueAt }
      | _ => cases same
  | _ => cases isHeld.kind

/-- Storage with the same entries holds the same. -/
theorem IsHeldBy.congr
    {other : Tensor Number}
    (isHeld : expression.IsHeldBy leaf batch layout storage)
    (shape : other.shape = storage.shape)
    (get : ∀ index, other.get index = storage.get index) :
    expression.IsHeldBy leaf batch layout other where
  kind := isHeld.kind
  algebra := isHeld.algebra
  elements := isHeld.elements
  shape := shape.trans isHeld.shape
  valueAt index isIndex := by
    simp only [get]
    exact isHeld.valueAt index isIndex

variable [ExactArithmetic Number]

/-- What the program of an expression over placed entities computes holds the expression. -/
theorem exists_run_isHeldBy
    {placed : List (Placement Number)}
    (areOf : ∀ placement ∈ placed, placement.IsOf expression.algebra)
    (disjoint : placed.Pairwise Placement.Disjoint)
    (broadcast :
      Tensor.commonShape (placed.map fun placement => placement.entity.batchShape) = .ok batch)
    (wellFormed : expression.WellFormed)
    (leaves : expression.AllLeaves fun binding =>
      ∃ placement ∈ placed, placement.Binds leaf binding)
    {value : Multivector}
    (evaluated : expression.evaluate = .ok value)
    (identity : Nat)
    (spelling : ElementSpelling)
    (standard : ElementType) :
    let program : Program Number :=
      .exactly identity value spelling (placed.map Placement.input)
    ∃ storage, program.run standard (placed.map Placement.entity) = .ok storage ∧
      expression.IsHeldBy leaf batch program.layout storage := by
  intro program
  rcases
      Program.exists_run_exactly areOf disjoint broadcast wellFormed rfl leaves evaluated identity
        spelling standard with
    ⟨storage, ran, shape, valueAt⟩
  exact
    ⟨storage, ran,
      { kind := rfl
        algebra := congrArg Algebra.plain (denotes_of_evaluate wellFormed evaluated).algebra
        elements := ⟨value, evaluated, rfl⟩
        shape := shape
        valueAt := valueAt }⟩

end Expr

end Versor

end
